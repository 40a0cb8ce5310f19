import FormEngine.Keyed
import FormEngine.Values.Path

/-!
Form values: a tree whose inner nodes are groups of values under field ids and whose leaves are
texts and flags. Groups keep their entries in increasing id order, which makes equal trees the same
value.
-/

namespace FormEngine

inductive FormValue where
  | text (value : String)
  | flag (value : Bool)
  | group (entries : List (String × FormValue))

/-- A whole form is a group without a name. -/
abbrev FormValues := List (String × FormValue)

namespace FormValue

instance : Inhabited FormValue := ⟨.text ""⟩

mutual
def decEq : (left right : FormValue) → Decidable (left = right)
  | .text left, .text right =>
      if same : left = right then .isTrue (by rw [same])
      else .isFalse (by intro h; cases h; exact same rfl)
  | .flag left, .flag right =>
      if same : left = right then .isTrue (by rw [same])
      else .isFalse (by intro h; cases h; exact same rfl)
  | .group left, .group right =>
      match decEqEntries left right with
      | .isTrue same => .isTrue (by rw [same])
      | .isFalse differ => .isFalse (by intro h; cases h; exact differ rfl)
  | .text _, .flag _ => .isFalse (by intro h; cases h)
  | .text _, .group _ => .isFalse (by intro h; cases h)
  | .flag _, .text _ => .isFalse (by intro h; cases h)
  | .flag _, .group _ => .isFalse (by intro h; cases h)
  | .group _, .text _ => .isFalse (by intro h; cases h)
  | .group _, .flag _ => .isFalse (by intro h; cases h)

def decEqEntries : (left right : List (String × FormValue)) → Decidable (left = right)
  | [], [] => .isTrue rfl
  | [], _ :: _ => .isFalse (by intro h; cases h)
  | _ :: _, [] => .isFalse (by intro h; cases h)
  | (name, left) :: lefts, (label, right) :: rights =>
      if same : name = label then
        match decEq left right with
        | .isTrue equal =>
            match decEqEntries lefts rights with
            | .isTrue rest => .isTrue (by rw [same, equal, rest])
            | .isFalse differ => .isFalse (by intro h; cases h; exact differ rfl)
        | .isFalse differ => .isFalse (by intro h; cases h; exact differ rfl)
      else .isFalse (by intro h; cases h; exact same rfl)
end

instance : DecidableEq FormValue := decEq

mutual
/-- Every group has its entries in key order. -/
def Ordered : FormValue → Prop
  | .group entries => Keyed.Sorted entries ∧ OrderedEntries entries
  | _ => True

def OrderedEntries : List (String × FormValue) → Prop
  | [] => True
  | (_, value) :: rest => Ordered value ∧ OrderedEntries rest
end

mutual
/-- How deep groups nest; a text or a flag has nesting zero. -/
def nesting : FormValue → Nat
  | .group entries => nestingEntries entries + 1
  | _ => 0

def nestingEntries : List (String × FormValue) → Nat
  | [] => 0
  | (_, value) :: rest => max (nesting value) (nestingEntries rest)
end

def asText : FormValue → Option String
  | .text value => some value
  | _ => none

def asFlag : FormValue → Option Bool
  | .flag value => some value
  | _ => none

def asGroup : FormValue → Option FormValues
  | .group entries => some entries
  | _ => none

/-- A flag is never blank. -/
def isBlank : FormValue → Bool
  | .text value => value.isEmpty
  | .flag _ => false
  | .group entries => entries.isEmpty

/-- The text a look-up sends for a value; groups have none. -/
def payloadText : FormValue → Option String
  | .text value => some value
  | .flag true => some "true"
  | .flag false => some "false"
  | .group _ => none

end FormValue

namespace FormValues

def Ordered (values : FormValues) : Prop :=
  Keyed.Sorted values ∧ FormValue.OrderedEntries values

def empty : FormValues := []

/-- Entries of the second tree replace whole entries of the first. -/
def mergedWith (base overrides : FormValues) : FormValues := Keyed.merge base overrides

section Paths

/-- What the segments select; nothing below a text or a flag. -/
def getAt : List String → FormValues → Option FormValue
  | [], _ => none
  | [segment], values => Keyed.find? segment values
  | segment :: next :: rest, values =>
      match Keyed.find? segment values with
      | some (.group entries) => getAt (next :: rest) entries
      | _ => none

/-- A missing or ungrouped value on the way gives place to a new group. -/
def setAt : List String → FormValue → FormValues → FormValues
  | [], _, values => values
  | [segment], value, values => Keyed.insert segment value values
  | segment :: next :: rest, value, values =>
      let inner :=
        match Keyed.find? segment values with
        | some (.group entries) => entries
        | _ => []
      Keyed.insert segment (.group (setAt (next :: rest) value inner)) values

def getPath (path : String) (values : FormValues) : Option FormValue :=
  getAt (Path.segments path) values

/-- The segments before the last dot lead to the group that the value is put into. -/
def setPath (path : String) (value : FormValue) (values : FormValues) : FormValues :=
  match Path.splitLast? path with
  | some (parents, leaf) => setAt (Path.segments parents ++ [leaf]) value values
  | none => Keyed.insert path value values

end Paths

end FormValues

end FormEngine
