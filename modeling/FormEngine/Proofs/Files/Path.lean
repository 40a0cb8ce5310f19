import FormEngine.Files.Path
import FormEngine.Proofs.Values.Path
import FormEngine.Text.Blank

/-!
The outermost pieces of a path. Blanks around a path hold no separator, so they lengthen its first
and its last piece and leave those between as they are. Whether all steps of the longer path fit is
then decided at its two ends.
-/

namespace FormEngine

namespace Text

section Splitting

variable (separator : Char) (chars : List Char)

theorem split_chars_front (front : List Char) (absent : separator ∉ front) :
    ∃ piece pieces, splitChars separator chars = piece :: pieces ∧
      splitChars separator (front ++ chars) = (front ++ piece) :: pieces := by
  induction front with
  | nil =>
      cases split : splitChars separator chars with
      | nil => exact absurd split (split_chars_filled separator chars)
      | cons piece pieces => exact ⟨piece, pieces, rfl, split⟩
  | cons char rest ih =>
      have different : char ≠ separator := fun same => absent (by simp [same])
      have later : separator ∉ rest := fun present => absent (List.mem_cons_of_mem _ present)
      obtain ⟨piece, pieces, split, longer⟩ := ih later
      exact ⟨piece, pieces, split, by simp [splitChars, different, longer]⟩

theorem split_chars_back (back : List Char) (absent : separator ∉ back) :
    ∃ pieces piece, splitChars separator chars = pieces ++ [piece] ∧
      splitChars separator (chars ++ back) = pieces ++ [piece ++ back] := by
  induction chars with
  | nil => exact ⟨[], [], rfl, split_chars_whole separator back absent⟩
  | cons char rest ih =>
      obtain ⟨pieces, piece, split, longer⟩ := ih
      by_cases same : char = separator
      · exact ⟨[] :: pieces, piece, by simp [splitChars, same, split],
          by simp [splitChars, same, longer]⟩
      · cases pieces with
        | nil =>
            exact ⟨[], char :: piece, by simp [splitChars, same, split],
              by simp [splitChars, same, longer]⟩
        | cons first pieces =>
            exact ⟨(char :: first) :: pieces, piece, by simp [splitChars, same, split],
              by simp [splitChars, same, longer]⟩

theorem split_chars_head :
    (splitChars separator chars).head? = some (chars.takeWhile fun char => char != separator) := by
  induction chars with
  | nil => rfl
  | cons char rest ih =>
      by_cases same : char = separator
      · simp [splitChars, same]
      · cases split : splitChars separator rest with
        | nil => exact absurd split (split_chars_filled separator rest)
        | cons piece pieces =>
            have first : piece = rest.takeWhile fun char => char != separator := by
              simpa [split] using ih
            simp [splitChars, same, split, first]

-- What stands behind the last separator is read from the end; then a separator comes, or nothing.
theorem split_chars_last :
    (splitChars separator chars).getLast? =
      some (chars.reverse.takeWhile fun char => char != separator).reverse := by
  have whole := List.takeWhile_append_dropWhile
    (p := fun char => char != separator) (l := chars.reverse)
  have absent : separator ∉ (chars.reverse.takeWhile fun char => char != separator).reverse := by
    intro present
    have passed := List.all_eq_true.mp List.all_takeWhile separator (List.mem_reverse.mp present)
    simp at passed
  generalize chars.reverse.takeWhile (fun char => char != separator) = last at whole absent
  cases front : chars.reverse.dropWhile fun char => char != separator with
  | nil =>
      have same : chars = last.reverse := by
        rw [front, List.append_nil] at whole
        rw [whole, List.reverse_reverse]
      rw [same, split_chars_whole separator _ absent]
      rfl
  | cons mark rest =>
      have marked : mark = separator := by
        have stopped := List.head?_dropWhile_not (fun char => char != separator) chars.reverse
        rw [front] at stopped
        simpa using stopped
      have same : chars = rest.reverse ++ separator :: last.reverse := by
        have turned := congrArg List.reverse whole
        rw [front, marked] at turned
        simpa using turned.symm
      rw [same, split_chars_joined, split_chars_whole separator _ absent, List.getLast?_concat]

end Splitting

section Blanks

/-- Trimming takes blanks away from both ends and nothing else. -/
theorem trimmed_between (chars : List Char) :
    ∃ front back, chars = front ++ (trimChars chars ++ back) ∧
      (∀ char ∈ front, isBlank char = true) ∧ ∀ char ∈ back, isBlank char = true := by
  refine ⟨chars.takeWhile isBlank, ((chars.dropWhile isBlank).reverse.takeWhile isBlank).reverse,
    ?_, ?_, ?_⟩
  · rw [trimChars, ← List.reverse_append, List.takeWhile_append_dropWhile, List.reverse_reverse,
      List.takeWhile_append_dropWhile]
  · intro char present
    exact List.all_eq_true.mp List.all_takeWhile char present
  · intro char present
    exact List.all_eq_true.mp List.all_takeWhile char (List.mem_reverse.mp present)

theorem blanks_hold_no_separator (blanks : List Char)
    (blank : ∀ char ∈ blanks, isBlank char = true) : '/' ∉ blanks := by
  intro present
  exact absurd (blank '/' present) (by decide)

end Blanks

end Text

namespace FilePath

def PieceFits (piece : List Char) : Prop := (String.ofList piece).utf8ByteSize ≤ maxStepBytes

/-- What stands before the first separator, and behind the last one. -/
def firstPiece (path : String) : List Char := path.toList.takeWhile fun char => char != '/'

def lastPiece (path : String) : List Char :=
  (path.toList.reverse.takeWhile fun char => char != '/').reverse

theorem last_piece_whole (path : String) (absent : '/' ∉ path.toList) :
    lastPiece path = path.toList := by
  have last := Text.split_chars_last '/' path.toList
  rw [Text.split_chars_whole '/' path.toList absent] at last
  exact (Option.some.inj last).symm

section Steps

theorem later_step_fits (piece : List Char) :
    (∀ step, laterStep? piece = some step → step.text.utf8ByteSize ≤ maxStepBytes) ↔
      PieceFits piece := by
  unfold laterStep?
  split
  · rename_i skipped
    have short : PieceFits piece := by
      rcases skipped with rfl | rfl
      · exact Nat.zero_le _
      · exact (by decide : (1 : Nat) ≤ maxStepBytes)
    simp [short]
  · split
    · rename_i upward
      subst upward
      simp [PieceFits, Step.text]
    · simp [PieceFits, Step.text]

theorem first_step_fits (piece : List Char) (rest : List (List Char)) :
    (∀ step, firstStep? piece rest = some step → step.text.utf8ByteSize ≤ maxStepBytes) ↔
      PieceFits piece := by
  unfold firstStep?
  split
  · rename_i empty
    subst empty
    have short : PieceFits [] := Nat.zero_le _
    cases rest with
    | nil => simp [short]
    | cons next others =>
        have root : Step.root.text.utf8ByteSize ≤ maxStepBytes := by decide
        simp [short, root]
  · split
    · rename_i here
      subst here
      simp [PieceFits, Step.text]
    · exact later_step_fits piece

/-- A path is judged by its pieces; those that are no names are short. -/
theorem steps_fit_iff (path : String) :
    stepsFit path = true ↔ ∀ piece ∈ Text.splitChars '/' path.toList, PieceFits piece := by
  unfold stepsFit steps
  rw [List.all_eq_true]
  cases Text.splitChars '/' path.toList with
  | nil => simp
  | cons first rest =>
      rw [List.forall_mem_cons, ← first_step_fits first rest]
      simp only [← later_step_fits, List.mem_append, Option.mem_toList, List.mem_filterMap,
        decide_eq_true_eq]
      constructor
      · intro each
        constructor
        · intro step taken
          exact each step (Or.inl taken)
        · intro piece present step taken
          exact each step (Or.inr ⟨piece, present, taken⟩)
      · rintro ⟨head, others⟩ step (taken | ⟨piece, present, taken⟩)
        · exact head step taken
        · exact others piece present step taken

end Steps

/-- Around a path whose steps fit, only its two ends can outgrow the limit. -/
theorem widened_fits_iff (path : String) (front core back : List Char)
    (parts : path.toList = front ++ (core ++ back)) (before : '/' ∉ front) (after : '/' ∉ back)
    (fits : ∀ piece ∈ Text.splitChars '/' core, PieceFits piece) :
    stepsFit path = true ↔ PieceFits (firstPiece path) ∧ PieceFits (lastPiece path) := by
  have first := Text.split_chars_head '/' path.toList
  have last := Text.split_chars_last '/' path.toList
  rw [steps_fit_iff]
  constructor
  · intro each
    exact ⟨each _ (List.mem_of_head? first), each _ (List.mem_of_getLast? last)⟩
  · rintro ⟨firstFits, lastFits⟩ piece present
    obtain ⟨inner, final, split, longer⟩ := Text.split_chars_back '/' core back after
    obtain ⟨start, others, cut, whole⟩ := Text.split_chars_front '/' (core ++ back) front before
    rw [← parts] at whole
    rw [whole] at first last present
    rcases List.mem_cons.mp present with rfl | later
    · have isFirst : front ++ start = firstPiece path := Option.some.inj first
      exact isFirst ▸ firstFits
    · cases inner with
      | nil =>
          have none : others = [] := (List.cons.inj (cut.symm.trans longer)).2
          simp [none] at later
      | cons other inner =>
          have same : others = inner ++ [final ++ back] :=
            (List.cons.inj (cut.symm.trans longer)).2
          rw [same] at later last
          rcases List.mem_append.mp later with between | ends
          · exact fits piece (by simp [split, between])
          · rw [← List.cons_append, List.getLast?_concat] at last
            have isLast : final ++ back = lastPiece path := Option.some.inj last
            obtain rfl := List.mem_singleton.mp ends
            exact isLast ▸ lastFits

end FilePath

end FormEngine
