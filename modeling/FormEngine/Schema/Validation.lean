import FormEngine.Json.Reader
import FormEngine.Json.Nesting
import FormEngine.Schema.Contract
import FormEngine.Schema.Decode
import FormEngine.Values.Path

/-!
Validation of form schema documents. The stages are tried in order and the first that objects gives
the verdict: size, reading, contract, model, sibling ids, group depth. The contract and the sibling
check report everything they find.

A text that cannot be read and whose brackets nest past what a reader takes is too deep rather than
malformed, so a document gets the same verdict as text and as a value.
-/

namespace FormEngine

structure SchemaLimits where
  maxBytes : Nat
  maxGroupDepth : Nat
  deriving DecidableEq

namespace SchemaLimits

def mebibyte : Nat := 1024 * 1024

def standard : SchemaLimits := ⟨5 * mebibyte, 10⟩

end SchemaLimits

inductive SchemaFault where
  | unreadable (error : Json.ReadError)
  | oversized (limit : Nat)
  | contract (violations : List Contract.Violation)
  | model (error : DecodeError)
  | duplicateIds (places : List (Json.Pointer × String))
  | tooDeep (limit : Nat)

inductive IssueKind where
  | malformedInput
  | oversizedInput
  | schemaViolation
  | depthExceeded
  deriving DecidableEq

def IssueKind.label : IssueKind → String
  | .malformedInput => "malformed_input"
  | .oversizedInput => "oversized_input"
  | .schemaViolation => "schema_violation"
  | .depthExceeded => "depth_exceeded"

namespace SchemaFault

def kind : SchemaFault → IssueKind
  | .unreadable _ => .malformedInput
  | .oversized _ => .oversizedInput
  | .contract _ => .schemaViolation
  | .model _ => .schemaViolation
  | .duplicateIds _ => .schemaViolation
  | .tooDeep _ => .depthExceeded

def sizeText (limit : Nat) : String :=
  if limit % SchemaLimits.mebibyte = 0 then toString (limit / SchemaLimits.mebibyte) ++ "MB"
  else toString limit ++ " bytes"

def errors : SchemaFault → List String
  | .unreadable error => ["Invalid JSON: " ++ error.message]
  | .oversized limit => ["Schema exceeds maximum size of " ++ sizeText limit]
  | .contract violations => violations.map Contract.Violation.text
  | .model error => ["/: " ++ error.message]
  | .duplicateIds places =>
      places.map fun place => place.1.label ++ ": duplicate field id '" ++ place.2 ++ "'"
  | .tooDeep limit => ["Groups nested too deeply. Maximum depth is " ++ toString limit]

/-- What the reader said, for a text that could not be read. -/
def parseError : SchemaFault → Option String
  | .unreadable error => some error.message
  | _ => none

/-- The errors of a document that could be read. -/
def validationErrors (fault : SchemaFault) : List String :=
  if fault.kind = .malformedInput then [] else fault.errors

end SchemaFault

namespace Field

section Siblings

/-- The fields of one list that repeat the id of an earlier one. -/
def repeatedIn (seen : List String) (place : Json.Pointer) :
    List (Field × Nat) → List (Json.Pointer × String)
  | [] => []
  | (field, index) :: rest =>
      if seen.contains field.id then
        (place ++ [.index index, .key "id"], field.id) :: repeatedIn seen place rest
      else repeatedIn (field.id :: seen) place rest

/-- The lists of children below one list, with their places. -/
def childLists (place : Json.Pointer) (level : List (Field × Nat)) :
    List (List Field × Json.Pointer) :=
  level.filterMap fun entry =>
    entry.1.children?.map fun children => (children, place ++ [.index entry.2, .key "fields"])

mutual
def groupCount : Field → Nat
  | .leaf _ _ => 0
  | .group _ _ fields => groupCountAll fields + 1

def groupCountAll : List Field → Nat
  | [] => 0
  | field :: rest => groupCount field + groupCountAll rest
end

/-- Lists of fields wait in a queue, so all lists of one depth come before the next depth. -/
def repeatedFrom : Nat → List (List Field × Json.Pointer) → List (Json.Pointer × String)
  | 0, _ => []
  | _ + 1, [] => []
  | fuel + 1, (level, place) :: waiting =>
      repeatedIn [] place level.zipIdx ++
        repeatedFrom fuel (waiting ++ childLists place level.zipIdx)

def duplicateIds (fields : List Field) : List (Json.Pointer × String) :=
  repeatedFrom (groupCountAll fields + 1) [(fields, [.key "fields"])]

end Siblings

/-- Lists of fields wait on a stack with the number of groups around them. The first list that is too
deep decides. -/
def groupsBeyondFrom (limit : Nat) : Nat → List (List Field × Nat) → Bool
  | _, [] => false
  | 0, _ :: _ => false
  | fuel + 1, (level, depth) :: waiting =>
      if limit < depth then true
      else
        groupsBeyondFrom limit fuel
          (((level.filterMap children?).map fun children => (children, depth + 1)).reverse ++ waiting)

/-- Whether groups nest deeper than the limit. -/
def groupsBeyond (limit : Nat) (fields : List Field) : Bool :=
  groupsBeyondFrom limit (groupCountAll fields + 1) [(fields, 0)]

mutual
/-- How many lists of fields nest below a field. -/
def groupDepth : Field → Nat
  | .leaf _ _ => 0
  | .group _ _ fields => groupDepthAll fields + 1

def groupDepthAll : List Field → Nat
  | [] => 0
  | field :: rest => max (groupDepth field) (groupDepthAll rest)
end

end Field

namespace SchemaLimits

/-- A reader takes one bracket less than this inside one another. -/
def maxNesting : Nat := 128

def validateRead (limits : SchemaLimits) (value : Json) : Except SchemaFault FormSchema :=
  match FormSchema.contractViolations value with
  | first :: rest => .error (.contract (first :: rest))
  | [] =>
      match Decode.formSchema value with
      | .error error => .error (.model error)
      | .ok schema =>
          match Field.duplicateIds schema.fields with
          | first :: rest => .error (.duplicateIds (first :: rest))
          | [] =>
              if Field.groupsBeyond limits.maxGroupDepth schema.fields then
                .error (.tooDeep limits.maxGroupDepth)
              else .ok schema

def validateValue (limits : SchemaLimits) (value : Json) : Except SchemaFault FormSchema :=
  if limits.maxBytes < value.byteSize then .error (.oversized limits.maxBytes)
  else if value.nestsBeyond maxNesting then .error (.tooDeep limits.maxGroupDepth)
  else limits.validateRead value

def validateText (limits : SchemaLimits) (text : String) : Except SchemaFault FormSchema :=
  if limits.maxBytes < text.utf8ByteSize then .error (.oversized limits.maxBytes)
  else
    match Json.readLimited (some (maxNesting - 1)) text with
    | .ok value => limits.validateRead value
    | .error error =>
        if Json.nestingReaches maxNesting text then .error (.tooDeep limits.maxGroupDepth)
        else .error (.unreadable error)

end SchemaLimits

end FormEngine
