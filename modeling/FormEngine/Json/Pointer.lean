import FormEngine.Json.Basic

/-!
Pointers into JSON values: a list of steps, each a member key or an item index. In text every step
follows a slash, with the tilde and the slash of a key written as `~0` and `~1`.
-/

namespace FormEngine.Json

inductive Step where
  | key (name : String)
  | index (position : Nat)
  deriving DecidableEq

abbrev Pointer := List Step

namespace Pointer

def escapedKey (name : String) : List Char :=
  name.toList.flatMap fun char =>
    if char = '~' then ['~', '0'] else if char = '/' then ['~', '1'] else [char]

def stepText : Step → String
  | .key name => "/" ++ String.ofList (escapedKey name)
  | .index position => "/" ++ toString position

def text (pointer : Pointer) : String :=
  String.join (pointer.map stepText)

/-- The root is named by a single slash when it stands alone before a message. -/
def label (pointer : Pointer) : String :=
  if pointer.isEmpty then "/" else pointer.text

def resolve? : Pointer → Json → Option Json
  | [], value => some value
  | .key name :: rest, .obj members =>
      match Keyed.find? name members with
      | some value => resolve? rest value
      | none => none
  | .index position :: rest, .arr items =>
      match items[position]? with
      | some value => resolve? rest value
      | none => none
  | _ :: _, _ => none

end Pointer

end FormEngine.Json
