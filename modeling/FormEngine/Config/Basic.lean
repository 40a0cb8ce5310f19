import FormEngine.AutoSave.Loop
import FormEngine.Lookup.Endpoint
import FormEngine.Schema.Validation
import FormEngine.Store.Durable

/-!
The settings of an engine, section by section, with what holds where nothing is given. Limits,
allowed endpoints and the settings of autosaving and of the durable store follow from them.
-/

namespace FormEngine

inductive SinkKind where
  | discard
  | standardError
  | file
  deriving DecidableEq

def SinkKind.all : List SinkKind := [.discard, .standardError, .file]

def SinkKind.tag : SinkKind → String
  | .discard => "none"
  | .standardError => "stderr"
  | .file => "file"

inductive StoreKind where
  | memory
  | durable
  deriving DecidableEq

def StoreKind.all : List StoreKind := [.memory, .durable]

def StoreKind.tag : StoreKind → String
  | .memory => "memory"
  | .durable => "sqlite"

namespace Config

structure LimitSection where
  maxSchemaBytes : Nat
  maxGroupDepth : Nat
  maxSavedBytes : Nat
  deriving DecidableEq

structure IntegrationSection where
  defaultDebounce : Nat
  allowedEndpoints : List String
  deriving DecidableEq

structure AutoSaveSection where
  enabled : Bool
  debounce : Nat
  keyPrefix : String
  deriving DecidableEq

structure DiagnosticsSection where
  sink : SinkKind
  path : Option String
  deriving DecidableEq

structure ValueStoreSection where
  kind : StoreKind
  path : Option String
  busyTimeout : Nat
  journalMode : JournalMode
  syncMode : SyncMode
  deriving DecidableEq

def LimitSection.standard : LimitSection :=
  ⟨SchemaLimits.standard.maxBytes, SchemaLimits.standard.maxGroupDepth, Persistence.standardLimit⟩

def IntegrationSection.standard : IntegrationSection :=
  ⟨Integration.defaultDebounce, Lookup.builtinEndpoints⟩

def AutoSaveSection.standard : AutoSaveSection :=
  ⟨true, AutoSave.Settings.standardDebounce, AutoSave.Settings.standardPrefix⟩

def DiagnosticsSection.standard : DiagnosticsSection := ⟨.discard, none⟩

def ValueStoreSection.standard : ValueStoreSection :=
  ⟨.memory, none, DurableStore.standardBusyTimeout, .wal, .full⟩

end Config

structure Config where
  limits : Config.LimitSection
  integrations : Config.IntegrationSection
  autoSave : Config.AutoSaveSection
  diagnostics : Config.DiagnosticsSection
  valueStore : Config.ValueStoreSection
  deriving DecidableEq

namespace Config

def standard : Config :=
  ⟨.standard, .standard, .standard, .standard, .standard⟩

def schemaLimits (config : Config) : SchemaLimits :=
  ⟨config.limits.maxSchemaBytes, config.limits.maxGroupDepth⟩

def allowlist (config : Config) : Lookup.Allowlist :=
  .ofList config.integrations.allowedEndpoints

def autoSaveSettings (config : Config) : AutoSave.Settings :=
  ⟨config.autoSave.enabled, config.autoSave.debounce, config.autoSave.keyPrefix,
    config.limits.maxSavedBytes⟩

/-- A payload may be as large as saved values may be. -/
def storeSettings (config : Config) (path : String) : DurableStore.Settings :=
  ⟨path, config.valueStore.busyTimeout, config.valueStore.journalMode,
    config.valueStore.syncMode, config.limits.maxSavedBytes⟩

end Config

end FormEngine
