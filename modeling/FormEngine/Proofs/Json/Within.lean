import FormEngine.Proofs.Json.Scan

/-!
Reading within a limit on brackets, beside reading without one. On a text that can be read at all
the limited reader either gives the same value, and then a scan never saw the limit reached, or it
gives up, and then the scan did.
-/

namespace FormEngine.Json

/-- How a limited reading ends where the unlimited one gives `value` and leaves `rest`. A scan
enters in one state and at one depth and comes out of the text taken at another depth. -/
def Settles {Value : Type} (limit : Nat) (before : Scan × Nat) (after : Nat)
    (limited : Reading Value) (value : Value) (input rest : List Char) : Prop :=
  (limited = .ok (value, rest) ∧
    nestingReachesFrom limit before.1 before.2 input =
      nestingReachesFrom limit .outside after rest) ∨
  ((∃ fault, limited = .error fault) ∧ nestingReachesFrom limit before.1 before.2 input = true)

section Settling

variable {Value Result : Type} (limit after : Nat) (value : Value) (rest : List Char)

theorem settles_from (before middle : Scan × Nat) (limited : Reading Value)
    (input others : List Char)
    (same : nestingReachesFrom limit before.1 before.2 input =
      nestingReachesFrom limit middle.1 middle.2 others)
    (settled : Settles limit middle after limited value others rest) :
    Settles limit before after limited value input rest := by
  simpa [Settles, same] using settled

theorem settles_map (before : Scan × Nat) (build : Value → Result) (limited : Reading Value)
    (input : List Char) (settled : Settles limit before after limited value input rest) :
    Settles limit before after (limited.mapValue build) (build value) input rest := by
  rcases settled with ⟨same, scanned⟩ | ⟨⟨fault, stopped⟩, reached⟩
  · exact Or.inl ⟨by simp [same, Reading.mapValue], scanned⟩
  · exact Or.inr ⟨⟨fault, by simp [stopped, Reading.mapValue]⟩, reached⟩

-- A reading whose first part takes the text up to `others` and whose second part starts there.
theorem settles_bind (before : Scan × Nat) (between : Nat) (first : Result)
    (part : Reading Result) (limited : Reading Value) (input others : List Char)
    (settled : Settles limit before between part first input others)
    (later : part = .ok (first, others) →
      Settles limit (.outside, between) after limited value others rest)
    (stops : ∀ fault, part = .error fault → limited = .error fault) :
    Settles limit before after limited value input rest := by
  rcases settled with ⟨same, scanned⟩ | ⟨⟨fault, stopped⟩, reached⟩
  · exact settles_from limit after value rest before (.outside, between) limited input others
      scanned (later same)
  · exact Or.inr ⟨⟨fault, stops fault stopped⟩, reached⟩

theorem map_value_ok (build : Value → Result) (reading : Reading Value) (result : Result)
    (read : reading.mapValue build = .ok (result, rest)) :
    ∃ value, reading = .ok (value, rest) ∧ result = build value := by
  cases reading with
  | error fault => simp [Reading.mapValue] at read
  | ok taken =>
      obtain ⟨value, others⟩ := taken
      simp only [Reading.mapValue, Except.ok.injEq, Prod.mk.injEq] at read
      exact ⟨value, by simp [read.2], read.1.symm⟩

end Settling

/-- The limited readers of one fuel settle. Inside brackets the scan is one level deeper. -/
structure Within (limit fuel : Nat) : Prop where
  value : ∀ depth room input value rest, depth + room + 1 = limit →
    readValue fuel none input = .ok (value, rest) →
    Settles limit (.outside, depth) depth (readValue fuel (some room) input) value input rest
  items : ∀ depth room first taken input items rest, depth + 1 + room + 1 = limit →
    readItems fuel none first taken input = .ok (items, rest) →
    Settles limit (.outside, depth + 1) depth (readItems fuel (some room) first taken input) items
      input rest
  members : ∀ depth room first taken input members rest, depth + 1 + room + 1 = limit →
    readMembers fuel none first taken input = .ok (members, rest) →
    Settles limit (.outside, depth + 1) depth (readMembers fuel (some room) first taken input)
      members input rest
  member : ∀ depth room input member rest, depth + room + 1 = limit →
    readMember fuel none input = .ok (member, rest) →
    Settles limit (.inString, depth) depth (readMember fuel (some room) input) member input rest

section Steps

theorem word_within (limit depth : Nat) (first : Char) (word : List Char) (value result : Json)
    (input rest : List Char) (plain : ∀ char ∈ first :: word, Plain char)
    (read : readWord word value input = .ok (result, rest)) :
    Settles limit (.outside, depth) depth (readWord word value input) result (first :: input)
      rest := by
  obtain ⟨head, tail⟩ := List.forall_mem_cons.mp plain
  exact Or.inl ⟨read, passes_cons first input rest head
    (passes_word word tail value result input rest read) limit depth⟩

-- An opening bracket needs room, and the scan reaches the limit just where there is none.
theorem bracket_within {Value : Type} (limit depth room : Nat) (bracket : Char)
    (input : List Char) (inner : Option Nat → Reading Value) (value : Value) (rest : List Char)
    (opening : isOpening bracket = true) (level : depth + room + 1 = limit)
    (settled : ∀ room, depth + 1 + room + 1 = limit →
      Settles limit (.outside, depth + 1) depth (inner (some room)) value input rest) :
    Settles limit (.outside, depth) depth
      (match roomWithin (some room) with
        | none => stopAt .tooDeep (bracket :: input)
        | some room => inner room) value (bracket :: input) rest := by
  have notQuote : bracket ≠ '"' := by
    rintro rfl
    simp [isOpening] at opening
  cases room with
  | zero =>
      have reached : limit ≤ depth + 1 := by omega
      exact Or.inr ⟨⟨_, rfl⟩, by simp [nestingReachesFrom, notQuote, opening, reached]⟩
  | succ room =>
      have below : ¬ limit ≤ depth + 1 := by omega
      refine settles_from limit depth value rest (.outside, depth) (.outside, depth + 1) _ _ input
        ?_ (settled room (by omega))
      simp [nestingReachesFrom, notQuote, opening, below]

variable (limit fuel : Nat) (ih : Within limit fuel) (depth room : Nat) (input : List Char)

include ih

theorem value_within (value : Json) (rest : List Char) (level : depth + room + 1 = limit)
    (read : readValue (fuel + 1) none input = .ok (value, rest)) :
    Settles limit (.outside, depth) depth (readValue (fuel + 1) (some room) input) value
      input rest := by
  have blanks := passes_blanks input limit depth
  unfold readValue at read ⊢
  generalize skipBlanks input = chars at *
  apply settles_from limit depth value rest (.outside, depth) (.outside, depth) _ input chars blanks
  split at read
  · simp [stopAt] at read
  · obtain ⟨text, readText, rfl⟩ := map_value_ok rest _ _ value read
    refine Or.inl ⟨read, ?_⟩
    simpa [nestingReachesFrom] using passes_string _ _ _ _ rest readText limit depth
  · rename_i others
    obtain ⟨items, readItems, rfl⟩ := map_value_ok rest _ _ value read
    exact bracket_within limit depth room '[' others _ _ rest rfl level
      fun room level => settles_map limit depth items rest _ Json.arr _ others
        (ih.items depth room true [] others items rest level readItems)
  · rename_i others
    obtain ⟨members, readMembers, rfl⟩ := map_value_ok rest _ _ value read
    exact bracket_within limit depth room '\x7b' others _ _ rest rfl level
      fun room level => settles_map limit depth members rest _ Json.obj _ others
        (ih.members depth room true [] others members rest level readMembers)
  · exact word_within limit depth 'n' ['u', 'l', 'l'] _ _ _ rest
      (by simp [Plain, isOpening, isClosing]) read
  · exact word_within limit depth 't' ['r', 'u', 'e'] _ _ _ rest
      (by simp [Plain, isOpening, isClosing]) read
  · exact word_within limit depth 'f' ['a', 'l', 's', 'e'] _ _ _ rest
      (by simp [Plain, isOpening, isClosing]) read
  · rename_i others
    obtain ⟨number, readNumber, rfl⟩ := map_value_ok rest _ _ value read
    exact Or.inl ⟨read, passes_cons '-' others rest (by simp [Plain, isOpening, isClosing])
      (passes_number true number others rest readNumber) limit depth⟩
  · split at read
    · rename_i digit
      obtain ⟨number, readNumber, rfl⟩ := map_value_ok rest _ _ value read
      refine Or.inl ⟨by simpa [digit] using read, ?_⟩
      exact passes_number false number _ rest readNumber limit depth
    · simp [stopAt] at read

theorem item_within (taken items : List Json) (rest : List Char)
    (level : depth + 1 + room + 1 = limit)
    (read : (match readValue fuel none input with
      | .ok (item, others) => readItems fuel none false (item :: taken) others
      | .error fault => .error fault) = .ok (items, rest)) :
    Settles limit (.outside, depth + 1) depth
      (match readValue fuel (some room) input with
        | .ok (item, others) => readItems fuel (some room) false (item :: taken) others
        | .error fault => .error fault) items input rest := by
  cases readItem : readValue fuel none input with
  | error fault => simp [readItem] at read
  | ok result =>
      obtain ⟨item, others⟩ := result
      simp only [readItem] at read
      apply settles_bind limit depth items rest _ (depth + 1) item _ _ input others
        (ih.value (depth + 1) room input item others level readItem)
      · intro same
        rw [same]
        exact ih.items depth room false (item :: taken) others items rest level read
      · intro fault stopped
        rw [stopped]

theorem items_within (first : Bool) (taken items : List Json) (rest : List Char)
    (level : depth + 1 + room + 1 = limit)
    (read : readItems (fuel + 1) none first taken input = .ok (items, rest)) :
    Settles limit (.outside, depth + 1) depth
      (readItems (fuel + 1) (some room) first taken input) items input rest := by
  have blanks := passes_blanks input limit (depth + 1)
  unfold readItems at read ⊢
  generalize skipBlanks input = chars at *
  apply settles_from limit depth items rest _ (.outside, depth + 1) _ input chars blanks
  split at read
  · simp [stopAt] at read
  · cases read
    exact Or.inl ⟨rfl, by simp [nestingReachesFrom, isOpening, isClosing]⟩
  · rename_i next others notClosing
    cases first with
    | true => exact item_within limit fuel ih depth room _ taken items rest level read
    | false =>
        simp only [Bool.false_eq_true, ↓reduceIte] at read ⊢
        by_cases comma : next = ','
        · subst comma
          simp only [↓reduceIte] at read ⊢
          have spaced := passes_blanks others limit (depth + 1)
          generalize skipBlanks others = more at *
          apply settles_from limit depth items rest _ (.outside, depth + 1) _ _ more
          · simpa [nestingReachesFrom, isOpening, isClosing] using spaced
          · split at read
            · simp [stopAt] at read
            · simp [stopAt] at read
            · exact item_within limit fuel ih depth room _ taken items rest level read
        · simp [comma, stopAt] at read

theorem named_within (taken members : List (String × Json)) (rest : List Char)
    (level : depth + 1 + room + 1 = limit)
    (read : (match readMember fuel none input with
      | .ok ((name, value), others) =>
          readMembers fuel none false (Keyed.insert name value taken) others
      | .error fault => .error fault) = .ok (members, rest)) :
    Settles limit (.inString, depth + 1) depth
      (match readMember fuel (some room) input with
        | .ok ((name, value), others) =>
            readMembers fuel (some room) false (Keyed.insert name value taken) others
        | .error fault => .error fault) members input rest := by
  cases readNamed : readMember fuel none input with
  | error fault => simp [readNamed] at read
  | ok result =>
      obtain ⟨⟨name, value⟩, others⟩ := result
      simp only [readNamed] at read
      apply settles_bind limit depth members rest _ (depth + 1) (name, value) _ _ input others
        (ih.member (depth + 1) room input (name, value) others level readNamed)
      · intro same
        rw [same]
        exact ih.members depth room false (Keyed.insert name value taken) others members rest level
          read
      · intro fault stopped
        rw [stopped]

theorem members_within (first : Bool) (taken members : List (String × Json)) (rest : List Char)
    (level : depth + 1 + room + 1 = limit)
    (read : readMembers (fuel + 1) none first taken input = .ok (members, rest)) :
    Settles limit (.outside, depth + 1) depth
      (readMembers (fuel + 1) (some room) first taken input) members input rest := by
  have blanks := passes_blanks input limit (depth + 1)
  unfold readMembers at read ⊢
  generalize skipBlanks input = chars at *
  apply settles_from limit depth members rest _ (.outside, depth + 1) _ input chars blanks
  split at read
  · simp [stopAt] at read
  · cases read
    exact Or.inl ⟨rfl, by simp [nestingReachesFrom, isOpening, isClosing]⟩
  · cases first with
    | false => simp [stopAt] at read
    | true =>
        refine settles_from limit depth members rest _ (.inString, depth + 1) _ _ _ ?_
          (named_within limit fuel ih depth room _ taken members rest level read)
        simp [nestingReachesFrom]
  · rename_i others
    cases first with
    | true => simp [stopAt] at read
    | false =>
        simp only [Bool.false_eq_true, ↓reduceIte] at read ⊢
        have spaced := passes_blanks others limit (depth + 1)
        generalize skipBlanks others = more at *
        apply settles_from limit depth members rest _ (.outside, depth + 1) _ _ more
        · simpa [nestingReachesFrom, isOpening, isClosing] using spaced
        · split at read
          · simp [stopAt] at read
          · refine settles_from limit depth members rest _ (.inString, depth + 1) _ _ _ ?_
              (named_within limit fuel ih depth room _ taken members rest level read)
            simp [nestingReachesFrom]
          · simp [stopAt] at read
          · simp [stopAt] at read
  · split at read <;> simp [stopAt] at read

theorem member_within (member : String × Json) (rest : List Char)
    (level : depth + room + 1 = limit)
    (read : readMember (fuel + 1) none input = .ok (member, rest)) :
    Settles limit (.inString, depth) depth (readMember (fuel + 1) (some room) input) member input
      rest := by
  unfold readMember at read ⊢
  cases readName : readString fuel [] input with
  | error fault => simp [readName] at read
  | ok result =>
      obtain ⟨name, others⟩ := result
      have named := passes_string fuel [] name input others readName limit depth
      have blanks := passes_blanks others limit depth
      simp only [readName] at read ⊢
      generalize skipBlanks others = chars at *
      apply settles_from limit depth member rest _ (.outside, depth) _ input chars
        (named.trans blanks)
      split at read
      · simp [stopAt] at read
      · rename_i more
        apply settles_from limit depth member rest _ (.outside, depth) _ _ more
          (passes_plain ':' more (by simp [Plain, isOpening, isClosing]) limit depth)
        cases readHeld : readValue fuel none more with
        | error fault => simp [readHeld] at read
        | ok held =>
            obtain ⟨value, left⟩ := held
            simp only [readHeld] at read
            cases read
            apply settles_bind limit depth (name, value) rest _ depth value _ _ more rest
              (ih.value depth room more value rest level readHeld)
            · intro same
              rw [same]
              exact Or.inl ⟨rfl, rfl⟩
            · intro fault stopped
              rw [stopped]
      · simp [stopAt] at read

end Steps

/-- The four readers call one another with less fuel, so one induction serves them all. -/
theorem within_limit (limit fuel : Nat) : Within limit fuel := by
  induction fuel with
  | zero =>
      constructor <;> intros <;>
        simp_all [readValue, readItems, readMembers, readMember, stopBefore]
  | succ fuel ih =>
      exact {
        value := fun depth room input value rest =>
          value_within limit fuel ih depth room input value rest
        items := fun depth room first taken input items rest =>
          items_within limit fuel ih depth room input first taken items rest
        members := fun depth room first taken input members rest =>
          members_within limit fuel ih depth room input first taken members rest
        member := fun depth room input member rest =>
          member_within limit fuel ih depth room input member rest }

section Text

variable (room : Nat) (text : String) (value : Json) (readable : read? text = some value)

theorem outside_blanks (limit depth : Nat) (rest : List Char) (blank : skipBlanks rest = []) :
    nestingReachesFrom limit .outside depth rest = false := by
  rw [passes_blanks rest limit depth, blank]
  rfl

theorem read_text_ok (room : Option Nat) (input : List Char) :
    readText room input = .ok value ↔
      ∃ rest, readValue (3 * input.length + 3) room input = .ok (value, rest) ∧
        skipBlanks rest = [] := by
  simp only [readText]
  cases read : readValue (3 * input.length + 3) room input with
  | error fault => simp [bind, Except.bind]
  | ok result =>
      obtain ⟨taken, others⟩ := result
      have ends : (∃ rest, Except.ok (taken, others) = (Except.ok (value, rest) : Reading Json) ∧
          skipBlanks rest = []) ↔ taken = value ∧ skipBlanks others = [] := by
        simp [and_assoc]
      rw [ends]
      cases blank : skipBlanks others with
      | nil => simp [bind, Except.bind, blank]
      | cons _ _ => simp [bind, Except.bind, blank, stopAt]

include readable

/-- A limited reader refuses a readable text exactly when its brackets nest past what it takes. -/
theorem read_limited_within :
    (nestingReaches (room + 1) text = false ∧ readLimited (some room) text = .ok value) ∨
      (nestingReaches (room + 1) text = true ∧
        ∃ error, readLimited (some room) text = .error error) := by
  have unlimited : readText none text.toList = .ok value := by
    cases read : readText none text.toList with
    | error fault => simp [read?, read, Except.toOption] at readable
    | ok result => simpa [read?, read, Except.toOption] using readable
  obtain ⟨rest, read, blank⟩ := (read_text_ok value none text.toList).mp unlimited
  rcases (within_limit (room + 1) _).value 0 room text.toList value rest (by omega) read with
    ⟨same, scanned⟩ | ⟨⟨fault, stopped⟩, reached⟩
  · left
    refine ⟨by rw [nestingReaches, scanned, outside_blanks _ _ rest blank], ?_⟩
    simp only [readLimited, (read_text_ok value (some room) text.toList).mpr ⟨rest, same, blank⟩]
  · right
    refine ⟨reached, fault.locate text.toList, ?_⟩
    simp [readLimited, readText, stopped, bind, Except.bind]

end Text

end FormEngine.Json
