import FormEngine.Text.Split

/-!
Dotted paths. A path names a field by the ids from the root down to it; the ids themselves hold no
dot, so a path splits back into them. The empty text is a path of one empty segment.
-/

namespace FormEngine.Path

def segments (path : String) : List String :=
  (Text.splitChars '.' path.toList).map String.ofList

/-- The path before the last dot and the segment behind it. -/
def splitLast? (path : String) : Option (String × String) :=
  (Text.splitLast? '.' path.toList).map fun (front, back) =>
    (String.ofList front, String.ofList back)

def lastSegment (path : String) : String :=
  (segments path).getLastD ""

/-- An id below a parent path; the empty path is the root. -/
def child (parent id : String) : String :=
  if parent.isEmpty then id else parent ++ "." ++ id

/-- A dotted path is read as its segments, so relations between paths are relations of lists. -/
def Leads (path longer : String) : Prop := segments path <+: segments longer

def Incomparable (left right : String) : Prop := ¬ Leads left right ∧ ¬ Leads right left

end FormEngine.Path
