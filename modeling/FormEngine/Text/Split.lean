/-!
Splitting text at a separating character. There is one piece more than there are separators, and
pieces may be empty.
-/

namespace FormEngine.Text

def splitChars (separator : Char) : List Char → List (List Char)
  | [] => [[]]
  | char :: rest =>
      if char = separator then [] :: splitChars separator rest
      else
        match splitChars separator rest with
        | [] => [[char]]
        | piece :: pieces => (char :: piece) :: pieces

/-- What stands before the last separator and what stands behind it. -/
def splitLast? (separator : Char) : List Char → Option (List Char × List Char)
  | [] => none
  | char :: rest =>
      match splitLast? separator rest with
      | some (front, back) => some (char :: front, back)
      | none => if char = separator then some ([], rest) else none

end FormEngine.Text
