import FormEngine.Json.Basic
import FormEngine.Values.Basic

/-!
Form values as JSON: texts are strings, flags are booleans and groups are objects. A document has
the shape of form values when it is an object made of nothing else and nests at most `maxNesting`
groups, the root counted.
-/

namespace FormEngine

def FormValues.maxNesting : Nat := 32

namespace FormValue

mutual
def toJson : FormValue → Json
  | .text value => .str value
  | .flag value => .bool value
  | .group entries => .obj (entriesToJson entries)

def entriesToJson : List (String × FormValue) → List (String × Json)
  | [] => []
  | (name, value) :: rest => (name, toJson value) :: entriesToJson rest
end

mutual
def ofJson? : Json → Option FormValue
  | .str value => some (.text value)
  | .bool value => some (.flag value)
  | .obj members => (entriesOfJson? members).map .group
  | _ => none

def entriesOfJson? : List (String × Json) → Option (List (String × FormValue))
  | [] => some []
  | (name, value) :: rest =>
      match ofJson? value, entriesOfJson? rest with
      | some value, some entries => some ((name, value) :: entries)
      | _, _ => none
end

end FormValue

namespace FormValues

def toJson (values : FormValues) : Json := .obj (FormValue.entriesToJson values)

def ofJson? : Json → Option FormValues
  | .obj members => FormValue.entriesOfJson? members
  | _ => none

/-- The objects among the members, or nothing if there is anything but texts, flags and objects. -/
def innerObjects? : List (String × Json) → Option (List (List (String × Json)))
  | [] => some []
  | (_, .str _) :: rest => innerObjects? rest
  | (_, .bool _) :: rest => innerObjects? rest
  | (_, .obj members) :: rest => (innerObjects? rest).map (members :: ·)
  | _ :: _ => none

mutual
/-- The objects of a document that are reached through objects. -/
def objectCount : Json → Nat
  | .obj members => objectCountMembers members + 1
  | _ => 0

def objectCountMembers : List (String × Json) → Nat
  | [] => 0
  | (_, value) :: rest => objectCount value + objectCountMembers rest
end

/-- Objects wait on a stack with their depth. The first one that is too deep or holds anything
foreign decides. -/
def shapedFrom : Nat → List (List (String × Json) × Nat) → Bool
  | _, [] => true
  | 0, _ :: _ => false
  | fuel + 1, (members, depth) :: waiting =>
      if maxNesting < depth then false
      else
        match innerObjects? members with
        | none => false
        | some inner =>
            shapedFrom fuel ((inner.map fun members => (members, depth + 1)).reverse ++ waiting)

def hasShape : Json → Bool
  | .obj members => shapedFrom (objectCountMembers members + 1) [(members, 1)]
  | _ => false

end FormValues

end FormEngine
