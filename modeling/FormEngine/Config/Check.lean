import FormEngine.Config.Basic
import FormEngine.Text.Blank

/-!
Which settings are accepted. Sections are checked in their order and the first fault is the one
reported. Paths are judged without the blanks around them.
-/

namespace FormEngine.Config

inductive DebounceField where
  | integrations
  | autoSave
  deriving DecidableEq

def DebounceField.name : DebounceField → String
  | .integrations => "integrations.default_debounce_ms"
  | .autoSave => "autosave.debounce_ms"

inductive PathField where
  | diagnostics
  | valueStore
  deriving DecidableEq

def PathField.name : PathField → String
  | .diagnostics => "diagnostics.path"
  | .valueStore => "value_store.path"

def mebibyte : Nat := 1024 * 1024
def maxFileBytes : Nat := mebibyte
def schemaBytesCeiling : Nat := 64 * mebibyte
def groupDepthCeiling : Nat := 32
def debounceCeiling : Nat := 60000
def maxEndpoints : Nat := 64
def maxEndpointBytes : Nat := 128
def maxKeyPrefixBytes : Nat := 128

inductive Fault where
  | schemaBytes (value : Nat)
  | groupDepth (value : Nat)
  | zeroSavedBytes
  | debounce (field : DebounceField) (value : Nat)
  | noEndpoints
  | tooManyEndpoints
  | blankEndpoint
  | longEndpoint
  | repeatedEndpoint (endpoint : String)
  | blankKeyPrefix
  | longKeyPrefix
  | fileSinkWithoutPath
  | pathWithoutFileSink
  | memoryWithPath
  | durableWithoutPath
  | blankPath (field : PathField)
  | longPath (field : PathField)
  | longPathStep (field : PathField)
  | longConfigPath
  | longConfigPathStep
  | largeFile
  | notUtf8
  | store (error : DurableStore.Error)
  deriving DecidableEq

namespace Fault

def outOfRange (field : String) (value : Nat) (range : String) : String :=
  field ++ " out of range: " ++ toString value ++ " (" ++ range ++ ")"

def detail : Fault → String
  | .schemaBytes value =>
      outOfRange "limits.max_schema_bytes" value ("max " ++ toString schemaBytesCeiling)
  | .groupDepth value =>
      outOfRange "limits.max_group_depth" value ("max " ++ toString groupDepthCeiling)
  | .zeroSavedBytes => "limits.max_saved_values_bytes must be greater than zero"
  | .debounce field value =>
      outOfRange field.name value ("expected 1..=" ++ toString debounceCeiling)
  | .noEndpoints => "integrations.allowed_endpoints must be non-empty"
  | .tooManyEndpoints =>
      "integrations.allowed_endpoints exceeds " ++ toString maxEndpoints ++ " entries"
  | .blankEndpoint => "integrations.allowed_endpoints entries must be non-empty"
  | .longEndpoint => "integrations.allowed_endpoints entry exceeds max length"
  | .repeatedEndpoint endpoint =>
      "integrations.allowed_endpoints contains duplicate entry: " ++ endpoint
  | .blankKeyPrefix => "autosave.key_prefix must be non-empty"
  | .longKeyPrefix => "autosave.key_prefix exceeds max length"
  | .fileSinkWithoutPath => "file diagnostics sink requires path"
  | .pathWithoutFileSink => "diagnostics.path is only valid for the file sink"
  | .memoryWithPath => "memory value_store must not set path"
  | .durableWithoutPath => "sqlite value_store requires path"
  | .blankPath field => field.name ++ " must be non-empty"
  | .longPath field => field.name ++ " exceeds max length"
  | .longPathStep field => field.name ++ " path component too long"
  | .longConfigPath => "config path exceeds max length"
  | .longConfigPathStep => "config path component too long"
  | .largeFile => "config file exceeds size limit"
  | .notUtf8 => "config file must be utf-8"
  | .store error => error.message

def message (fault : Fault) : String := "invalid config: " ++ fault.detail

end Fault

section Checks

def checkDebounce (field : DebounceField) (value : Nat) : Except Fault Unit :=
  if value = 0 ∨ debounceCeiling < value then .error (.debounce field value) else .ok ()

def checkPath (field : PathField) (path : String) : Except Fault Unit :=
  let trimmed := Text.trim path
  if trimmed.isEmpty then .error (.blankPath field)
  else if FilePath.maxBytes < trimmed.utf8ByteSize then .error (.longPath field)
  else if !FilePath.stepsFit trimmed then .error (.longPathStep field)
  else .ok ()

-- `seen` holds the endpoints before.
def checkEndpoints (seen : List String) : List String → Except Fault Unit
  | [] => .ok ()
  | endpoint :: rest =>
      if Text.isBlankText endpoint then .error .blankEndpoint
      else if maxEndpointBytes < endpoint.utf8ByteSize then .error .longEndpoint
      else if seen.contains endpoint then .error (.repeatedEndpoint endpoint)
      else checkEndpoints (endpoint :: seen) rest

def LimitSection.check (limits : LimitSection) : Except Fault Unit :=
  if limits.maxSchemaBytes = 0 ∨ schemaBytesCeiling < limits.maxSchemaBytes then
    .error (.schemaBytes limits.maxSchemaBytes)
  else if limits.maxGroupDepth = 0 ∨ groupDepthCeiling < limits.maxGroupDepth then
    .error (.groupDepth limits.maxGroupDepth)
  else if limits.maxSavedBytes = 0 then .error .zeroSavedBytes
  else .ok ()

def IntegrationSection.check (integrations : IntegrationSection) : Except Fault Unit := do
  checkDebounce .integrations integrations.defaultDebounce
  if integrations.allowedEndpoints.isEmpty then .error .noEndpoints
  else if maxEndpoints < integrations.allowedEndpoints.length then .error .tooManyEndpoints
  else checkEndpoints [] integrations.allowedEndpoints

def AutoSaveSection.check (autoSave : AutoSaveSection) : Except Fault Unit := do
  checkDebounce .autoSave autoSave.debounce
  if Text.isBlankText autoSave.keyPrefix then .error .blankKeyPrefix
  else if maxKeyPrefixBytes < autoSave.keyPrefix.utf8ByteSize then .error .longKeyPrefix
  else .ok ()

def DiagnosticsSection.check (diagnostics : DiagnosticsSection) : Except Fault Unit :=
  match diagnostics.sink, diagnostics.path with
  | .file, some path => checkPath .diagnostics path
  | .file, none => .error .fileSinkWithoutPath
  | _, some _ => .error .pathWithoutFileSink
  | _, none => .ok ()

def ValueStoreSection.check (valueStore : ValueStoreSection) : Except Fault Unit :=
  match valueStore.kind, valueStore.path with
  | .memory, some _ => .error .memoryWithPath
  | .memory, none => .ok ()
  | .durable, none => .error .durableWithoutPath
  | .durable, some path => checkPath .valueStore path

def check (config : Config) : Except Fault Unit := do
  config.limits.check
  config.integrations.check
  config.autoSave.check
  config.diagnostics.check
  config.valueStore.check

end Checks

end FormEngine.Config
