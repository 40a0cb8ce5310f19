import FormEngine.Json.Basic

/-!
Nesting against a limit, in a text and in a value. The text need not be JSON: brackets inside string
literals do not count, and a closing bracket without a partner is ignored. A value is walked over
with a stack.
-/

namespace FormEngine.Json

/-- Where a scan stands: outside strings, inside one, or after a backslash inside one. -/
inductive Scan where
  | outside
  | inString
  | escaped
  deriving DecidableEq

def isOpening (char : Char) : Bool := char == '[' || char == '\x7b'
def isClosing (char : Char) : Bool := char == ']' || char == '\x7d'

def nestingReachesFrom (limit : Nat) : Scan → Nat → List Char → Bool
  | _, _, [] => false
  | .escaped, depth, _ :: rest => nestingReachesFrom limit .inString depth rest
  | .inString, depth, char :: rest =>
      if char = '\\' then nestingReachesFrom limit .escaped depth rest
      else if char = '"' then nestingReachesFrom limit .outside depth rest
      else nestingReachesFrom limit .inString depth rest
  | .outside, depth, char :: rest =>
      if char = '"' then nestingReachesFrom limit .inString depth rest
      else if isOpening char then
        if limit ≤ depth + 1 then true else nestingReachesFrom limit .outside (depth + 1) rest
      else if isClosing char then nestingReachesFrom limit .outside (depth - 1) rest
      else nestingReachesFrom limit .outside depth rest

def nestingReaches (limit : Nat) (text : String) : Bool :=
  nestingReachesFrom limit .outside 0 text.toList

/-- What stands in an array or an object; nothing stands in a scalar. -/
def inside? : Json → Option (List Json)
  | .arr items => some items
  | .obj members => some (members.map Prod.snd)
  | _ => none

mutual
/-- The value itself and all values within it. -/
def valueCount : Json → Nat
  | .arr items => valueCountItems items + 1
  | .obj members => valueCountMembers members + 1
  | _ => 1

def valueCountItems : List Json → Nat
  | [] => 0
  | item :: rest => valueCount item + valueCountItems rest

def valueCountMembers : List (String × Json) → Nat
  | [] => 0
  | (_, value) :: rest => valueCount value + valueCountMembers rest
end

/-- Values wait on a stack with the number of arrays and objects around them. The first array or
object that is too deep decides. -/
def nestsBeyondFrom (limit : Nat) : Nat → List (Json × Nat) → Bool
  | _, [] => false
  | 0, _ :: _ => false
  | fuel + 1, (value, depth) :: waiting =>
      match value.inside? with
      | none => nestsBeyondFrom limit fuel waiting
      | some values =>
          if limit < depth + 1 then true
          else
            nestsBeyondFrom limit fuel
              ((values.map fun value => (value, depth + 1)).reverse ++ waiting)

/-- Whether arrays and objects nest deeper than the limit. -/
def nestsBeyond (limit : Nat) (value : Json) : Bool :=
  nestsBeyondFrom limit value.valueCount [(value, 0)]

end FormEngine.Json
