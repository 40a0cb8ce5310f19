import FormEngine.Lookup.Payload
import FormEngine.Lookup.Tables

/-!
Endpoints of look-ups: those that are built in, what they answer, and the list of those that may be
called at all.
-/

namespace FormEngine.Lookup

def addressEndpoint : String := "fetchAddressFromPostalCode"
def companyEndpoint : String := "fetchCompanyDetails"
def documentEndpoint : String := "validateDocument"

def builtinEndpoints : List String := [addressEndpoint, companyEndpoint, documentEndpoint]

/-- No answer for an unknown endpoint, a missing key or a key that no table holds. -/
def answer (endpoint : String) (payload : Payload) : Option FormValues :=
  let complete := payload.complete
  let value (key : String) : Option String := Keyed.find? key complete
  if endpoint = addressEndpoint then
    ((value "postalCode").or (value "contactInfo.postalCode")).bind addressFor
  else if endpoint = companyEndpoint then
    ((value "eik").or (value "bulstat")).bind companyFor
  else if endpoint = documentEndpoint then
    some (documentCheck ((value "documentType").getD "") ((value "documentNumber").getD ""))
  else none

/-- The endpoints that may be called, sorted and each once. -/
structure Allowlist where
  endpoints : List String
  deriving DecidableEq

namespace Allowlist

def ofList (endpoints : List String) : Allowlist := ⟨Keyed.nameSet endpoints⟩

def builtin : Allowlist := ofList builtinEndpoints

def allows (allowlist : Allowlist) (endpoint : String) : Bool :=
  allowlist.endpoints.contains endpoint

end Allowlist

end FormEngine.Lookup
