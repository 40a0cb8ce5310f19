import FormEngine.Json.Printer

/-!
The characters of printed text. A number is written with digits and a few marks, and in strings all
controls are written as escapes, so the compact text of a value holds no control at all and stands
on one line.
-/

namespace FormEngine.Json

section Numbers

/-- Numbers are written with these characters alone. -/
def InNumbers (char : Char) : Prop := char.isDigit = true ∨ char ∈ ['.', 'e', '+', '-']

theorem digits_in_numbers (value : Nat) : ∀ char ∈ Nat.toDigits 10 value, InNumbers char :=
  fun _ listed => Or.inl (Nat.isDigit_of_mem_toDigits (by decide) (by decide) listed)

theorem decimal_in_numbers (decimal : Number.Decimal) : ∀ char ∈ decimal.text, InNumbers char := by
  have digits := digits_in_numbers (decimal.stripZeros 20).digits
  have zero : InNumbers '0' := Or.inl rfl
  have point : InNumbers '.' := Or.inr (by simp)
  have taken : ∀ count, ∀ char ∈
      (Nat.toDigits 10 (decimal.stripZeros 20).digits).take count, InNumbers char :=
    fun count char listed => digits char (List.mem_of_mem_take listed)
  have dropped : ∀ count, ∀ char ∈
      (Nat.toDigits 10 (decimal.stripZeros 20).digits).drop count, InNumbers char :=
    fun count char listed => digits char (List.mem_of_mem_drop listed)
  have exponent : InNumbers 'e' := Or.inr (by simp)
  have sign : InNumbers (if 0 ≤ ((Nat.toDigits 10 (decimal.stripZeros 20).digits).length : Int) +
      (decimal.stripZeros 20).exponent - 1 then '+' else '-') := by
    split
    · exact Or.inr (by simp)
    · exact Or.inr (by simp)
  have zeros : ∀ count, ∀ char ∈ List.replicate count '0', InNumbers char :=
    fun count char listed => List.eq_of_mem_replicate listed ▸ zero
  have none : ∀ char ∈ ([] : List Char), InNumbers char := by simp
  simp only [Number.Decimal.text]
  split
  · simp [zero, point]
  split
  · simp only [List.forall_mem_append, List.forall_mem_cons]
    exact ⟨⟨digits, zeros _⟩, point, zero, none⟩
  split
  · simp only [List.forall_mem_append, List.forall_mem_cons]
    exact ⟨taken _, point, dropped _⟩
  split
  · simp only [List.forall_mem_append, List.forall_mem_cons]
    exact ⟨zero, point, zeros _, digits⟩
  · simp only [List.forall_mem_append, List.forall_mem_cons]
    refine ⟨⟨taken 1, ?_⟩, exponent, sign, digits_in_numbers _⟩
    split
    · exact none
    · exact List.forall_mem_cons.mpr ⟨point, dropped 1⟩

theorem number_in_numbers (number : Json.Number) : ∀ char ∈ number.text, InNumbers char := by
  have minus : InNumbers '-' := Or.inr (by simp)
  cases number with
  | integer value =>
      cases value with
      | ofNat value => exact digits_in_numbers value
      | negSucc value => exact List.forall_mem_cons.mpr ⟨minus, digits_in_numbers (value + 1)⟩
  | floating negative magnitude =>
      have digits := decimal_in_numbers magnitude.shortest
      cases negative with
      | false => exact digits
      | true => exact List.forall_mem_cons.mpr ⟨minus, digits⟩

end Numbers

section Controls

/-- No control of the lowest block, such as a line break. -/
def Printable (char : Char) : Prop := 32 ≤ char.toNat

instance (char : Char) : Decidable (Printable char) :=
  inferInstanceAs (Decidable (32 ≤ char.toNat))

theorem all_printable (chars : List Char)
    (checked : (chars.all fun char => 32 ≤ char.toNat) = true) :
    ∀ char ∈ chars, Printable char := by
  simpa [Printable] using checked

theorem number_printable (char : Char) (used : InNumbers char) : Printable char := by
  rcases used with digit | mark
  · have bounds : '0' ≤ char ∧ char ≤ '9' := by
      simpa [Char.isDigit, Char.le_def] using digit
    exact Nat.le_trans (by decide : 32 ≤ '0'.toNat) bounds.1
  · exact all_printable ['.', 'e', '+', '-'] rfl char mark

theorem escaped_printable (char : Char) : ∀ written ∈ escaped char, Printable written := by
  have hex : ∀ value < 16, Printable (hexDigit value) := by decide
  unfold escaped
  split
  · exact all_printable _ rfl
  split
  · exact all_printable _ rfl
  split
  · rename_i visible
    exact List.forall_mem_singleton.mpr visible
  rename_i control
  iterate 5
    split
    · exact all_printable _ rfl
  have high := hex (char.toNat / 16) (by omega)
  have low := hex (char.toNat % 16) (Nat.mod_lt _ (by decide))
  exact List.forall_mem_append.mpr ⟨all_printable ['\\', 'u', '0', '0'] rfl,
    List.forall_mem_cons.mpr ⟨high, List.forall_mem_singleton.mpr low⟩⟩

theorem quoted_printable (text : String) : ∀ char ∈ quoted text, Printable char := by
  have quote : Printable '"' := by decide
  refine List.forall_mem_cons.mpr ⟨quote, List.forall_mem_append.mpr ⟨?_, ?_⟩⟩
  · intro written listed
    obtain ⟨char, _, within⟩ := List.mem_flatMap.mp listed
    exact escaped_printable char written within
  · exact List.forall_mem_singleton.mpr quote

mutual
theorem text_printable : (value : Json) → ∀ char ∈ value.text, Printable char
  | .null => all_printable _ rfl
  | .bool true => all_printable _ rfl
  | .bool false => all_printable _ rfl
  | .num number => fun char listed =>
      number_printable char (number_in_numbers number char listed)
  | .str text => quoted_printable text
  | .arr items => List.forall_mem_cons.mpr ⟨by decide,
      List.forall_mem_append.mpr ⟨items_printable items, all_printable _ rfl⟩⟩
  | .obj members => List.forall_mem_cons.mpr ⟨by decide,
      List.forall_mem_append.mpr ⟨members_printable members, all_printable _ rfl⟩⟩

theorem items_printable : (items : List Json) → ∀ char ∈ itemsText items, Printable char
  | [] => all_printable [] rfl
  | [item] => text_printable item
  | item :: next :: rest => List.forall_mem_append.mpr ⟨text_printable item,
      List.forall_mem_cons.mpr ⟨by decide, items_printable (next :: rest)⟩⟩

theorem members_printable : (members : List (String × Json)) →
    ∀ char ∈ membersText members, Printable char
  | [] => all_printable [] rfl
  | [(name, value)] => List.forall_mem_append.mpr ⟨quoted_printable name,
      List.forall_mem_cons.mpr ⟨by decide, text_printable value⟩⟩
  | (name, value) :: next :: rest => List.forall_mem_append.mpr ⟨quoted_printable name,
      List.forall_mem_cons.mpr ⟨by decide, List.forall_mem_append.mpr ⟨text_printable value,
        List.forall_mem_cons.mpr ⟨by decide, members_printable (next :: rest)⟩⟩⟩⟩
end

/-- Compact text stands on one line. -/
theorem compact_on_one_line (value : Json) : '\n' ∉ value.compact.toList := by
  intro present
  rw [compact, String.toList_ofList] at present
  exact absurd (text_printable value '\n' present) (by decide)

end Controls

end FormEngine.Json
