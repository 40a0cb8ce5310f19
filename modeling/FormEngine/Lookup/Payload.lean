import FormEngine.Values.Basic

/-!
Payloads of look-ups. Each source field contributes its text under its last segment and under its
full path; where the two collide the full path wins. The receiving side completes a payload in the
same way, which changes nothing in one built here.
-/

namespace FormEngine

abbrev Payload := List (String × String)

namespace Payload

/-- The texts of the sources, if every one has a text that is not empty. -/
def texts? : List String → List (Option FormValue) → Option (List (String × String))
  | source :: sources, value :: values =>
      match value.bind FormValue.payloadText with
      | none => none
      | some text =>
          if text.isEmpty then none
          else (texts? sources values).map fun rest => (source, text) :: rest
  | _, _ => some []

def underSegments (texts : List (String × String)) (payload : Payload) : Payload :=
  texts.foldl (fun payload entry =>
    Keyed.insert (Path.lastSegment entry.1) entry.2 payload) payload

def underPaths (texts : List (String × String)) (payload : Payload) : Payload :=
  texts.foldl (fun payload entry => Keyed.insert entry.1 entry.2 payload) payload

def build? (sources : List String) (values : List (Option FormValue)) : Option Payload :=
  (texts? sources values).map fun texts => underPaths texts (underSegments texts [])

def complete (payload : Payload) : Payload := underPaths payload (underSegments payload [])

end Payload

end FormEngine
