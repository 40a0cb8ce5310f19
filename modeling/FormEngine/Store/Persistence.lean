import FormEngine.Json.Printer
import FormEngine.Json.Reader
import FormEngine.Store.Basic
import FormEngine.Values.Shape

/-!
Saving and loading form values. Only documents with the shape of form values are saved, as compact
text within a size limit; both checks come before the store is touched. What cannot be loaded as
form values within the limit counts as not there.
-/

namespace FormEngine

inductive PersistError where
  | invalidShape
  | tooLarge (limit size : Nat)
  | store (failure : StoreFailure)
  deriving DecidableEq

namespace PersistError

def message : PersistError → String
  | .invalidShape => "values are not a valid form value tree"
  | .tooLarge limit size =>
      "serialized values exceed size limit: " ++ toString size ++ " > " ++ toString limit
  | .store failure => failure.message

def label : PersistError → String
  | .invalidShape => "InvalidShape"
  | .tooLarge _ _ => "TooLarge"
  | .store failure => failure.label

end PersistError

namespace Persistence

def standardLimit : Nat := 1024 * 1024

/-- A reader takes one bracket less than this inside one another. -/
def maxNesting : Nat := 128

variable {Store : Type} (operations : StoreOperations Store)

def persist (store : Store) (key : String) (values : Json) (limit : Nat) :
    Except PersistError Store :=
  if !FormValues.hasShape values then .error .invalidShape
  else if limit < values.byteSize then .error (.tooLarge limit values.byteSize)
  else
    match operations.set store key values.compact with
    | .ok store => .ok store
    | .error failure => .error (.store failure)

def ofPayload? (limit : Nat) (payload : String) : Option FormValues :=
  if limit < payload.utf8ByteSize then none
  else
    match Json.readLimited (some (maxNesting - 1)) payload with
    | .error _ => none
    | .ok value => if FormValues.hasShape value then FormValues.ofJson? value else none

def load (store : Store) (key : String) (limit : Nat) : Option FormValues :=
  match operations.get store key with
  | .ok (some payload) => ofPayload? limit payload
  | _ => none

def clear (store : Store) (key : String) : Except StoreFailure Store :=
  operations.remove store key

end Persistence

end FormEngine
