import FormEngine.Json.Pointer
import FormEngine.Proofs.Values.Path

/-!
Pointers in text, and what they name. A text falls apart at its slashes into tokens; a token names
the member whose key it escapes, or the item whose index it writes down, whichever kind of value is
there. So the text of a pointer names the node that the pointer leads to, and one text continues
another exactly when the one pointer continues the other.
-/

namespace FormEngine.Json.Pointer

section Tokens

def unescapedKey : List Char → List Char
  | '~' :: '0' :: rest => '~' :: unescapedKey rest
  | '~' :: '1' :: rest => '/' :: unescapedKey rest
  | char :: rest => char :: unescapedKey rest
  | [] => []

theorem unescaped_plain (char : Char) (plain : char ≠ '~') (rest : List Char) :
    unescapedKey (char :: rest) = char :: unescapedKey rest := by
  rw [unescapedKey]
  · rintro _ rfl
    exact absurd rfl plain
  · rintro _ rfl
    exact absurd rfl plain

theorem unescaped_chars (chars : List Char) :
    unescapedKey (chars.flatMap fun char =>
      if char = '~' then ['~', '0'] else if char = '/' then ['~', '1'] else [char]) = chars := by
  induction chars with
  | nil => rfl
  | cons char rest ih =>
      rw [List.flatMap_cons]
      by_cases tilde : char = '~'
      · subst tilde
        exact congrArg ('~' :: ·) ih
      · rw [if_neg tilde]
        by_cases slash : char = '/'
        · subst slash
          exact congrArg ('/' :: ·) ih
        · rw [if_neg slash, List.singleton_append, unescaped_plain char tilde, ih]

theorem unescaped_escaped (name : String) :
    String.ofList (unescapedKey (escapedKey name)) = name := by
  rw [escapedKey, unescaped_chars, String.ofList_toList]

theorem escaped_whole (name : String) : '/' ∉ escapedKey name := by
  intro present
  obtain ⟨char, _, among⟩ := List.mem_flatMap.mp present
  split at among
  · simp at among
  · split at among
    · simp at among
    · rename_i different
      exact different (List.mem_singleton.mp among).symm

/-- What stands for a step behind its slash. -/
def token : Step → List Char
  | .key name => escapedKey name
  | .index position => Nat.toDigits 10 position

theorem token_whole (step : Step) : '/' ∉ token step := by
  cases step with
  | key name => exact escaped_whole name
  | index position =>
      intro present
      have digit := Nat.isDigit_of_mem_toDigits (by decide) (by decide) present
      exact absurd digit (by decide)

theorem digits_injective (left right : Nat)
    (same : Nat.toDigits 10 left = Nat.toDigits 10 right) : left = right := by
  have read := congrArg (Nat.ofDigitChars 10 · 0) same
  simpa only [Nat.ofDigitChars_ten_toDigits] using read

end Tokens

section Texts

theorem step_text_chars (step : Step) : (stepText step).toList = '/' :: token step := by
  cases step with
  | key name => simp [stepText, token]
  | index position => simp [stepText, token, Nat.toString_eq_repr, Nat.repr]

theorem text_cons (step : Step) (rest : Pointer) :
    text (step :: rest) = stepText step ++ text rest := by
  simp [text]

theorem text_chars (pointer : Pointer) :
    pointer.text.toList = pointer.flatMap fun step => '/' :: token step := by
  induction pointer with
  | nil => rfl
  | cons step rest ih => rw [text_cons, String.toList_append, step_text_chars, ih, List.flatMap_cons]

def tokens? : List Char → Option (List (List Char))
  | [] => some []
  | '/' :: rest => some (Text.splitChars '/' rest)
  | _ => none

theorem split_tokens (step : Step) (rest : Pointer) :
    Text.splitChars '/' (token step ++ rest.flatMap fun step => '/' :: token step) =
      token step :: rest.map token := by
  induction rest generalizing step with
  | nil => simp [Text.split_chars_whole '/' _ (token_whole step)]
  | cons next rest ih =>
      rw [List.flatMap_cons, List.cons_append, Text.split_chars_joined, ih next,
        Text.split_chars_whole '/' _ (token_whole step)]
      rfl

theorem text_tokens (pointer : Pointer) :
    tokens? pointer.text.toList = some (pointer.map token) := by
  rw [text_chars]
  cases pointer with
  | nil => rfl
  | cons step rest => exact congrArg some (split_tokens step rest)

end Texts

section Naming

/-- The item whose index is written so. -/
def itemNamed? (token : List Char) (items : List Json) : Option Json :=
  ((List.range items.length).find? fun index => Nat.toDigits 10 index == token).bind
    fun index => items[index]?

def named? : List (List Char) → Json → Option Json
  | [], value => some value
  | token :: rest, .obj members =>
      (Keyed.find? (String.ofList (unescapedKey token)) members).bind (named? rest)
  | token :: rest, .arr items => (itemNamed? token items).bind (named? rest)
  | _ :: _, _ => none

/-- The node that a label names; a single slash is the root. -/
def labelled? (label : String) (value : Json) : Option Json :=
  if label = "/" then some value
  else (tokens? label.toList).bind fun tokens => named? tokens value

theorem item_named (items : List Json) (index : Nat) (item : Json)
    (there : items[index]? = some item) :
    itemNamed? (Nat.toDigits 10 index) items = some item := by
  have inside : index < items.length := (List.getElem?_eq_some_iff.mp there).1
  have found : ((List.range items.length).find? fun other =>
      Nat.toDigits 10 other == Nat.toDigits 10 index) = some index := by
    refine List.find?_range_eq_some.mpr ⟨beq_self_eq_true _, List.mem_range.mpr inside, ?_⟩
    intro other before
    have different : Nat.toDigits 10 other ≠ Nat.toDigits 10 index := fun same =>
      Nat.ne_of_lt before (digits_injective other index same)
    simpa using different
  rw [itemNamed?, found, Option.bind_some, there]

theorem named_tokens (pointer : Pointer) (value node : Json)
    (leads : pointer.resolve? value = some node) :
    named? (pointer.map token) value = some node := by
  fun_induction resolve? pointer value with
  | case1 value => exact leads
  | case2 name rest members value found ih =>
      simp only [List.map_cons, named?, token, unescaped_escaped, found, Option.bind_some]
      exact ih leads
  | case3 => cases leads
  | case4 index rest items value found ih =>
      simp only [List.map_cons, named?, token, item_named items index value found,
        Option.bind_some]
      exact ih leads
  | case5 => cases leads
  | case6 => cases leads

/-- Only the key that is empty would be taken for the root. -/
theorem text_not_slash (pointer : Pointer) (other : pointer ≠ [.key ""]) : pointer.text ≠ "/" := by
  intro same
  have tokens := text_tokens pointer
  rw [same] at tokens
  have single : pointer.map token = [[]] := (Option.some.inj tokens).symm
  obtain ⟨step, rest, rfl, empty, none⟩ := List.map_eq_cons_iff.mp single
  obtain rfl := List.map_eq_nil_iff.mp none
  cases step with
  | key name =>
      have key := unescaped_escaped name
      rw [show escapedKey name = [] from empty] at key
      exact other (by rw [← key]; rfl)
  | index position => exact Nat.toDigits_ne_nil empty

theorem label_named (pointer : Pointer) (value node : Json) (other : pointer ≠ [.key ""])
    (leads : pointer.resolve? value = some node) :
    labelled? pointer.label value = some node := by
  unfold labelled? label
  cases pointer with
  | nil => exact leads
  | cons step rest =>
      simp only [List.isEmpty_cons, Bool.false_eq_true, ↓reduceIte]
      rw [if_neg (text_not_slash _ other), text_tokens, Option.bind_some]
      exact named_tokens _ value node leads

end Naming

section Entering

/-- One step into a value. -/
def enter? : Step → Json → Option Json
  | .key name, .obj members => Keyed.find? name members
  | .index position, .arr items => items[position]?
  | _, _ => none

theorem resolve_cons (step : Step) (rest : Pointer) (value : Json) :
    resolve? (step :: rest) value = (enter? step value).bind (resolve? rest) := by
  cases step with
  | key name =>
      cases value with
      | obj members =>
          rw [resolve?, enter?]
          cases Keyed.find? name members <;> rfl
      | _ => rfl
  | index position =>
      cases value with
      | arr items =>
          rw [resolve?, enter?]
          cases items[position]? <;> rfl
      | _ => rfl

theorem resolve_append (front back : Pointer) (value : Json) :
    resolve? (front ++ back) value = (resolve? front value).bind (resolve? back) := by
  induction front generalizing value with
  | nil => rfl
  | cons step rest ih =>
      rw [List.cons_append, resolve_cons, resolve_cons]
      cases enter? step value with
      | none => rfl
      | some inner => exact ih inner

/-- Into one value two steps cannot be written alike. -/
theorem entered_token (left right : Step) (value : Json) (enters : (enter? left value).isSome)
    (goes : (enter? right value).isSome) (same : token left = token right) : left = right := by
  cases value with
  | obj members =>
      cases left with
      | index position => cases enters
      | key name =>
          cases right with
          | index position => cases goes
          | key other =>
              have keys := congrArg (fun token => String.ofList (unescapedKey token)) same
              simp only [token, unescaped_escaped] at keys
              rw [keys]
  | arr items =>
      cases left with
      | key name => cases enters
      | index position =>
          cases right with
          | key name => cases goes
          | index other => rw [digits_injective position other same]
  | null => cases left <;> cases enters
  | bool flag => cases left <;> cases enters
  | num number => cases left <;> cases enters
  | str text => cases left <;> cases enters

end Entering

section Continuing

/-- Whether a label is that of a node at or below the node of another one, by the texts alone. -/
def isAtOrBelow (base label : String) : Bool :=
  label == base || (base.toList ++ ['/']).isPrefixOf label.toList

variable (base pointer : Pointer)

theorem label_of_filled (filled : base ≠ []) : base.label = base.text := by
  cases base with
  | nil => exact absurd rfl filled
  | cons step rest => rfl

theorem label_append (filled : base ≠ []) :
    (base ++ pointer).label = base.label ++ pointer.text := by
  rw [label_of_filled base filled, label_of_filled (base ++ pointer) (by simp [filled])]
  apply String.toList_inj.mp
  rw [String.toList_append, text_chars, text_chars, text_chars, List.flatMap_append]

theorem continued_label (filled : base ≠ []) (continues : base <+: pointer) :
    isAtOrBelow base.label pointer.label = true := by
  obtain ⟨rest, rfl⟩ := continues
  rw [label_of_filled base filled, label_of_filled (base ++ rest) (by simp [filled]), isAtOrBelow]
  cases rest with
  | nil => simp
  | cons step rest =>
      have further : base.text.toList ++ ['/'] <+: (base ++ step :: rest).text.toList := by
        rw [text_chars (base ++ step :: rest), text_chars base, List.flatMap_append,
          List.flatMap_cons]
        exact (List.prefix_append_right_inj _).mpr (List.cons_prefix_cons.mpr ⟨rfl, List.nil_prefix⟩)
      simp [List.isPrefixOf_iff_prefix.mpr further]

theorem prefix_of_tokens (value : Json) (leads : (base.resolve? value).isSome)
    (reaches : (pointer.resolve? value).isSome)
    (continues : base.map token <+: pointer.map token) : base <+: pointer := by
  induction base generalizing pointer value with
  | nil => exact List.nil_prefix
  | cons step rest ih =>
      cases pointer with
      | nil => simp at continues
      | cons first others =>
          obtain ⟨same, further⟩ := List.cons_prefix_cons.mp continues
          rw [resolve_cons] at leads reaches
          cases enters : enter? step value with
          | none =>
              rw [enters] at leads
              cases leads
          | some inner =>
              have goes : (enter? first value).isSome := by
                cases went : enter? first value with
                | none =>
                    rw [went] at reaches
                    cases reaches
                | some _ => rfl
              obtain rfl := entered_token step first value (by rw [enters]; rfl) goes same
              rw [enters] at leads reaches
              exact List.cons_prefix_cons.mpr ⟨rfl, ih others inner leads reaches further⟩

theorem tokens_continued (filled : base ≠ []) (more : List Char)
    (same : pointer.text.toList = base.text.toList ++ '/' :: more) :
    base.map token <+: pointer.map token := by
  cases base with
  | nil => exact absurd rfl filled
  | cons step rest =>
      have tokens := text_tokens pointer
      rw [same, text_chars, List.flatMap_cons, List.cons_append, List.cons_append, tokens?,
        Text.split_chars_joined, split_tokens] at tokens
      exact ⟨_, Option.some.inj tokens⟩

theorem root_not_within (other : base ≠ [.key ""]) (filled : base ≠ []) :
    isAtOrBelow base.label (label []) = false := by
  rw [label_of_filled base filled, isAtOrBelow, Bool.or_eq_false_iff]
  constructor
  · exact beq_false_of_ne (Ne.symm (text_not_slash base other))
  · refine Bool.eq_false_iff.mpr fun within => ?_
    have short := (List.isPrefixOf_iff_prefix.mp within).length_le
    have root : (label []).toList.length = 1 := rfl
    cases base with
    | nil => exact filled rfl
    | cons step rest =>
        rw [text_chars, List.flatMap_cons, root] at short
        simp at short

/-- One label is at or below another exactly when the one pointer continues the other, for pointers
to nodes of one value. -/
theorem at_or_below_iff (value : Json) (filled : base ≠ []) (other : base ≠ [.key ""])
    (leads : (base.resolve? value).isSome) (reaches : (pointer.resolve? value).isSome) :
    isAtOrBelow base.label pointer.label = true ↔ base <+: pointer := by
  constructor
  · intro within
    by_cases root : pointer = []
    · rw [root, root_not_within base other filled] at within
      cases within
    · apply prefix_of_tokens base pointer value leads reaches
      rw [label_of_filled base filled, label_of_filled pointer root, isAtOrBelow] at within
      rcases Bool.or_eq_true_iff.mp within with same | further
      · have tokens := text_tokens pointer
        rw [LawfulBEq.eq_of_beq same, text_tokens] at tokens
        exact Option.some.inj tokens ▸ List.prefix_rfl
      · obtain ⟨more, same⟩ := List.isPrefixOf_iff_prefix.mp further
        apply tokens_continued base pointer filled more
        rw [← same, List.append_assoc]
        rfl
  · exact continued_label base pointer filled

end Continuing

end FormEngine.Json.Pointer
