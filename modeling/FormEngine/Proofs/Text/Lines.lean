import FormEngine.Proofs.Text.Order

/-!
Lines of texts and of files. A separator ends the line before it, and what stands behind the last
one is a line that was not ended. Lines that hold no separator can be told apart again when each of
them was ended, behind anything that ends with a separator itself. In a file a line break is one
byte, and no other character has that byte among its own.
-/

namespace FormEngine.Text

section Lines

variable {Symbol : Type} [DecidableEq Symbol] (separator : Symbol)

/-- The lines that were ended, and what is left behind them. -/
def endedLines : List Symbol → List (List Symbol) × List Symbol
  | [] => ([], [])
  | symbol :: rest =>
      if symbol = separator then ([] :: (endedLines rest).1, (endedLines rest).2)
      else
        match endedLines rest with
        | ([], left) => ([], symbol :: left)
        | (line :: lines, left) => ((symbol :: line) :: lines, left)

theorem line_ended (line rest : List Symbol) (absent : separator ∉ line) :
    endedLines separator (line ++ separator :: rest) =
      (line :: (endedLines separator rest).1, (endedLines separator rest).2) := by
  induction line with
  | nil => simp [endedLines]
  | cons symbol others ih =>
      have different : symbol ≠ separator := fun same => absent (by simp [same])
      have later := ih fun present => absent (List.mem_cons_of_mem _ present)
      simp [endedLines, different, later]

theorem all_lines_ended (lines : List (List Symbol)) (absent : ∀ line ∈ lines, separator ∉ line) :
    endedLines separator (lines.flatMap fun line => line ++ [separator]) = (lines, []) := by
  induction lines with
  | nil => rfl
  | cons line others ih =>
      obtain ⟨here, later⟩ := List.forall_mem_cons.mp absent
      rw [List.flatMap_cons, List.append_assoc, List.singleton_append,
        line_ended separator line _ here, ih later]

theorem ended_append (front back : List Symbol) (whole : (endedLines separator front).2 = []) :
    endedLines separator (front ++ back) =
      ((endedLines separator front).1 ++ (endedLines separator back).1,
        (endedLines separator back).2) := by
  induction front with
  | nil => rfl
  | cons symbol rest ih =>
      by_cases same : symbol = separator
      · have later := ih (by simpa [endedLines, same] using whole)
        simp [endedLines, same, later]
      · cases split : endedLines separator rest with
        | mk lines left =>
            cases lines with
            | nil => simp [endedLines, same, split] at whole
            | cons line lines =>
                have later := ih (by simpa [endedLines, same, split] using whole)
                simp [endedLines, same, split, later]

theorem last_line_ended (front : List Symbol) :
    (endedLines separator (front ++ [separator])).1 ≠ [] ∧
      (endedLines separator (front ++ [separator])).2 = [] := by
  induction front with
  | nil => simp [endedLines]
  | cons symbol rest ih =>
      obtain ⟨some, none⟩ := ih
      by_cases same : symbol = separator
      · simpa [endedLines, same] using none
      · cases split : endedLines separator (rest ++ [separator]) with
        | mk lines left =>
            cases lines with
            | nil => simp [split] at some
            | cons line lines => simpa [endedLines, same, split] using none

/-- Nothing is left when there is nothing at all, or a separator at the end. -/
theorem ended_whole (symbols : List Symbol)
    (closed : ∀ last ∈ symbols.getLast?, last = separator) :
    (endedLines separator symbols).2 = [] := by
  rcases List.eq_nil_or_concat symbols with rfl | ⟨front, last, rfl⟩
  · rfl
  · obtain rfl := closed last (by simp)
    simpa using (last_line_ended last front).2

end Lines

section Files

/-- The byte of a line break. -/
def newline : UInt8 := 10

theorem char_holds_no_newline (char : Char) (other : char ≠ '\n') :
    newline ∉ String.utf8EncodeChar char := by
  have code : char.val.toNat ≠ 10 := fun same => other (Char.ext (UInt32.toNat_inj.mp same))
  have bound : char.val.toNat < 1114112 := by
    rcases char.valid with low | high
    · exact Nat.lt_trans low (by decide)
    · exact high.2
  have ten : newline.toNat = 10 := rfl
  unfold String.utf8EncodeChar
  dsimp only
  generalize char.val.toNat = value at code bound ⊢
  intro present
  repeat' split at present
  all_goals
    simp only [List.mem_cons, List.not_mem_nil, or_false, ← UInt8.toNat_inj, ten,
      UInt8.toNat_ofNat'] at present
    omega

theorem bytes_hold_no_newline (text : String) (absent : '\n' ∉ text.toList) :
    newline ∉ bytes text := by
  rw [bytes_of_chars]
  intro present
  obtain ⟨char, listed, within⟩ := List.mem_flatMap.mp present
  exact char_holds_no_newline char (fun same => absent (same ▸ listed)) within

theorem bytes_append (left right : String) : bytes (left ++ right) = bytes left ++ bytes right := by
  simp [bytes_of_chars]

theorem bytes_of_line (text : String) : bytes (text ++ "\n") = bytes text ++ [newline] := by
  rw [bytes_append]
  rfl

end Files

end FormEngine.Text
