import FormEngine.Config.Basic
import FormEngine.Schema.Decode

/-!
Reading settings from a tree of values. Sections and keys may be left out; a key that no setting has
is a fault. Trees come from two formats, which differ in how the empty content of a tag is written
and in whether a list given for a section may be too long.
-/

namespace FormEngine.Config

inductive Format where
  | json
  | toml
  deriving DecidableEq

def Format.isNothing : Format → Json → Bool
  | .json, .null => true
  | .toml, .arr [] => true
  | .toml, .obj [] => true
  | _, _ => false

def Format.allowsSurplus : Format → Bool
  | .json => false
  | .toml => true

section Sections

variable (format : Format)

/-- The given keys, all of them known; a list gives the first keys in their order. -/
def givenKeys (names : List String) : Decoder (List (String × Json))
  | .obj members =>
      if (Keyed.keys members).all names.contains then .ok members else Decode.mismatch
  | .arr values =>
      if format.allowsSurplus || values.length ≤ names.length then .ok (names.zip values)
      else Decode.mismatch
  | _ => Decode.mismatch

def orStandard {Value : Type} (members : List (String × Json)) (name : String)
    (standard : Value) (decode : Decoder Value) : Except DecodeError Value :=
  match Keyed.find? name members with
  | some value => decode value
  | none => .ok standard

def tagNamed {Value : Type} (all : List Value) (tag : Value → String) (name : String) :
    Except DecodeError Value :=
  match all.find? fun known => tag known == name with
  | some known => .ok known
  | none => Decode.mismatch

/-- One of several tags, as a text or as the only key of a table with nothing in it. -/
def tagged {Value : Type} (all : List Value) (tag : Value → String) : Decoder Value
  | .str name => tagNamed all tag name
  | .obj [(name, content)] =>
      if format.isNothing content then tagNamed all tag name else Decode.mismatch
  | _ => Decode.mismatch

def maybePath : Decoder (Option String)
  | .null => .ok none
  | value => (Decode.text value).map some

def LimitSection.decode : Decoder LimitSection := fun value => do
  let standard := LimitSection.standard
  let members ← givenKeys format
    ["max_schema_bytes", "max_group_depth", "max_saved_values_bytes"] value
  let maxSchemaBytes ← orStandard members "max_schema_bytes" standard.maxSchemaBytes Decode.whole
  let maxGroupDepth ← orStandard members "max_group_depth" standard.maxGroupDepth Decode.whole
  let maxSavedBytes ←
    orStandard members "max_saved_values_bytes" standard.maxSavedBytes Decode.whole
  .ok { maxSchemaBytes, maxGroupDepth, maxSavedBytes }

def IntegrationSection.decode : Decoder IntegrationSection := fun value => do
  let standard := IntegrationSection.standard
  let members ← givenKeys format ["default_debounce_ms", "allowed_endpoints"] value
  let defaultDebounce ←
    orStandard members "default_debounce_ms" standard.defaultDebounce Decode.whole
  let allowedEndpoints ←
    orStandard members "allowed_endpoints" standard.allowedEndpoints (Decode.list Decode.text)
  .ok { defaultDebounce, allowedEndpoints }

def AutoSaveSection.decode : Decoder AutoSaveSection := fun value => do
  let standard := AutoSaveSection.standard
  let members ← givenKeys format ["enabled", "debounce_ms", "key_prefix"] value
  let enabled ← orStandard members "enabled" standard.enabled Decode.flag
  let debounce ← orStandard members "debounce_ms" standard.debounce Decode.whole
  let keyPrefix ← orStandard members "key_prefix" standard.keyPrefix Decode.text
  .ok { enabled, debounce, keyPrefix }

def DiagnosticsSection.decode : Decoder DiagnosticsSection := fun value => do
  let members ← givenKeys format ["sink", "path"] value
  let sink ← orStandard members "sink" .discard (tagged format SinkKind.all SinkKind.tag)
  let path ← orStandard members "path" none maybePath
  .ok { sink, path }

def aJournalMode : Decoder JournalMode := tagged format JournalMode.all JournalMode.tag
def aSyncMode : Decoder SyncMode := tagged format SyncMode.all SyncMode.tag

def ValueStoreSection.decode : Decoder ValueStoreSection := fun value => do
  let standard := ValueStoreSection.standard
  let members ← givenKeys format
    ["type", "path", "busy_timeout_ms", "journal_mode", "sync_mode"] value
  let kind ← orStandard members "type" .memory (tagged format StoreKind.all StoreKind.tag)
  let path ← orStandard members "path" none maybePath
  let busyTimeout ← orStandard members "busy_timeout_ms" standard.busyTimeout Decode.whole
  let journalMode ← orStandard members "journal_mode" standard.journalMode (aJournalMode format)
  let syncMode ← orStandard members "sync_mode" standard.syncMode (aSyncMode format)
  .ok { kind, path, busyTimeout, journalMode, syncMode }

def decode : Decoder Config := fun value => do
  let members ← givenKeys format
    ["limits", "integrations", "autosave", "diagnostics", "value_store"] value
  let limits ← orStandard members "limits" .standard (LimitSection.decode format)
  let integrations ← orStandard members "integrations" .standard (IntegrationSection.decode format)
  let autoSave ← orStandard members "autosave" .standard (AutoSaveSection.decode format)
  let diagnostics ← orStandard members "diagnostics" .standard (DiagnosticsSection.decode format)
  let valueStore ← orStandard members "value_store" .standard (ValueStoreSection.decode format)
  .ok { limits, integrations, autoSave, diagnostics, valueStore }

end Sections

/-- The settings of a durable store that is configured by itself; only the path has to be given. -/
def durableSettings : Decoder DurableStore.Settings := fun value => do
  let members ← givenKeys .json
    ["path", "busy_timeout_ms", "journal_mode", "sync_mode", "max_payload_bytes"] value
  let path ← Decode.required members "path" Decode.text
  let standard := DurableStore.Settings.standard path
  let busyTimeout ← orStandard members "busy_timeout_ms" standard.busyTimeout Decode.whole
  let journalMode ← orStandard members "journal_mode" standard.journalMode (aJournalMode .json)
  let syncMode ← orStandard members "sync_mode" standard.syncMode (aSyncMode .json)
  let maxPayload ← orStandard members "max_payload_bytes" standard.maxPayload Decode.whole
  .ok { path, busyTimeout, journalMode, syncMode, maxPayload }

end FormEngine.Config
