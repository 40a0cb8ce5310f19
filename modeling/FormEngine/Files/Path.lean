import FormEngine.Text.Split

/-!
Paths of files, read as steps from a directory. Repeated separators count once, and a step that
stays where it is counts only at the start of a path.
-/

namespace FormEngine.FilePath

inductive Step where
  | root
  | here
  | up
  | name (text : String)
  deriving DecidableEq

def Step.text : Step → String
  | .root => "/"
  | .here => "."
  | .up => ".."
  | .name text => text

def laterStep? (piece : List Char) : Option Step :=
  if piece = [] ∨ piece = ['.'] then none
  else if piece = ['.', '.'] then some .up
  else some (.name (String.ofList piece))

/-- An empty first piece in front of a separator is the root. -/
def firstStep? (piece : List Char) (rest : List (List Char)) : Option Step :=
  if piece = [] then (if rest.isEmpty then none else some .root)
  else if piece = ['.'] then some .here
  else laterStep? piece

def steps (path : String) : List Step :=
  match Text.splitChars '/' path.toList with
  | [] => []
  | first :: rest => (firstStep? first rest).toList ++ rest.filterMap laterStep?

/-- The steps to the directory that holds the path's last step. -/
def parent? (path : String) : Option (List Step) :=
  match (steps path).getLast? with
  | none => none
  | some .root => none
  | some _ => some (steps path).dropLast

def maxBytes : Nat := 4096
def maxStepBytes : Nat := 255

def stepsFit (path : String) : Bool :=
  (steps path).all fun step => step.text.utf8ByteSize ≤ maxStepBytes

/-- A path written with a separator or a stay at its end has to be a directory. -/
def namesDirectory (path : String) : Bool :=
  match (Text.splitChars '/' path.toList).getLast? with
  | some piece => piece = [] ∨ piece = ['.']
  | none => false

end FormEngine.FilePath
