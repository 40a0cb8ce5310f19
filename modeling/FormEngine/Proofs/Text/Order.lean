/-!
The order of texts. Texts compare by the codes of their characters, and so do their bytes: of two
characters the one with the smaller code has the smaller bytes, whatever comes after them.
-/

namespace FormEngine.Text

/-- A text as it is stored. -/
def bytes (text : String) : List UInt8 := text.toUTF8.data.toList

theorem bytes_of_chars (text : String) :
    bytes text = text.toList.flatMap String.utf8EncodeChar := by
  rw [bytes, String.toUTF8, ← String.utf8Encode_toList, List.utf8Encode,
    List.toList_data_toByteArray]

section Characters

variable (leftRest rightRest : List UInt8)

theorem byte_lt_iff (left right : Nat) (leftFits : left < 256) (rightFits : right < 256) :
    UInt8.ofNat left :: leftRest < UInt8.ofNat right :: rightRest ↔
      left < right ∨ left = right ∧ leftRest < rightRest := by
  rw [List.cons_lt_cons_iff, UInt8.lt_iff_toNat_lt, ← UInt8.toNat_inj]
  simp only [UInt8.toNat_ofNat', Nat.reducePow, Nat.mod_eq_of_lt leftFits,
    Nat.mod_eq_of_lt rightFits]

-- A wider character has a larger first byte. Of one width, the bytes are the digits of the code.
theorem char_bytes_lt (left right : Char) (before : left < right) :
    String.utf8EncodeChar left ++ leftRest < String.utf8EncodeChar right ++ rightRest := by
  have smaller : left.val.toNat < right.val.toNat := before
  have bound : right.val.toNat < 1114112 := by
    rcases right.valid with low | high
    · exact Nat.lt_trans low (by decide)
    · exact high.2
  unfold String.utf8EncodeChar
  dsimp only
  generalize left.val.toNat = small at smaller ⊢
  generalize right.val.toNat = large at smaller bound ⊢
  have square (code : Nat) : code / 4096 = code / 64 / 64 := by omega
  have cube (code : Nat) : code / 262144 = code / 64 / 64 / 64 := by omega
  repeat' split
  all_goals
    simp (disch := omega) only [List.cons_append, List.nil_append, byte_lt_iff, square, cube]
  all_goals omega

end Characters

theorem char_bytes_nonempty (char : Char) : String.utf8EncodeChar char ≠ [] := by
  intro empty
  have size := char.utf8Size_pos
  rw [← String.length_utf8EncodeChar, empty] at size
  exact Nat.lt_irrefl 0 size

theorem chars_bytes_lt (left right : List Char) (before : left < right) :
    left.flatMap String.utf8EncodeChar < right.flatMap String.utf8EncodeChar := by
  induction before with
  | nil =>
      rename_i char rest
      rw [List.flatMap_nil, List.flatMap_cons]
      cases encoded : String.utf8EncodeChar char with
      | nil => exact absurd encoded (char_bytes_nonempty char)
      | cons byte more => exact List.Lex.nil
  | rel smaller => exact char_bytes_lt _ _ _ _ smaller
  | cons _ ih => exact List.append_left_lt ih

theorem bytes_lt (left right : String) (before : left < right) : bytes left < bytes right := by
  rw [bytes_of_chars, bytes_of_chars]
  exact chars_bytes_lt left.toList right.toList before

end FormEngine.Text
