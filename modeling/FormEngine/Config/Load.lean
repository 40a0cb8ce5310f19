import FormEngine.Config.Check
import FormEngine.Config.Decode
import FormEngine.Diagnostics.Event
import FormEngine.Toml.Reader

/-!
Settings from a file, and what is built from them: the place that diagnostic events are written to
and the store of values. A file is refused before it is read when its path is out of bounds, and
before its text is read when it is too large.
-/

namespace FormEngine.Config

inductive LoadError where
  | io
  | unreadable
  | invalid (fault : Fault)
  deriving DecidableEq

section Loading

def checkConfigPath (path : String) : Except Fault Unit :=
  if FilePath.maxBytes < path.utf8ByteSize then .error .longConfigPath
  else if !FilePath.stepsFit path then .error .longConfigPathStep
  else .ok ()

def ofText (text : String) : Except LoadError Config :=
  match Toml.read? text with
  | none => .error .unreadable
  | some tree =>
      match decode .toml tree with
      | .error _ => .error .unreadable
      | .ok config =>
          match config.check with
          | .error fault => .error (.invalid fault)
          | .ok () => .ok config

def ofBytes (content : ByteArray) : Except LoadError Config :=
  if maxFileBytes < content.size then .error (.invalid .largeFile)
  else
    match String.fromUTF8? content with
    | none => .error (.invalid .notUtf8)
    | some text => ofText text

def load (path : String) (tree : FileTree) : Except LoadError Config :=
  match checkConfigPath path with
  | .error fault => .error (.invalid fault)
  | .ok () =>
      match tree.read? path with
      | none => .error .io
      | some content => ofBytes content

end Loading

section Building

/-- Where events go; nothing is kept of those that are not written to a file. -/
inductive Sink where
  | nowhere
  | file (path : String)
  deriving DecidableEq

/-- The file of a sink is begun if it is missing; its directory is not. -/
def buildSink (config : Config) (tree : FileTree) : Except LoadError (Sink × FileTree) :=
  match config.diagnostics.sink, config.diagnostics.path with
  | .file, none => .error (.invalid .fileSinkWithoutPath)
  | .file, some path =>
      match tree.append? path .empty with
      | some tree => .ok (.file path, tree)
      | none => .error .io
  | _, _ => .ok (.nowhere, tree)

def Sink.record (time : Nat) (event : Diagnostics.Event) (sink : Sink) (tree : FileTree) :
    FileTree :=
  match sink with
  | .nowhere => tree
  | .file path => (tree.append? path (Diagnostics.record time event "").toUTF8).getD tree

def textLines (text : String) : List String :=
  let lines := text.splitOn "\n"
  if lines.getLast? == some "" then lines.dropLast else lines

/-- Records events through the sink of the settings: the lines of the diagnostics file afterwards,
if there is one. -/
def recordAll (config : Config) (time : Nat) (events : List Diagnostics.Event)
    (tree : FileTree) : Except LoadError (Option (List String) × FileTree) :=
  match config.buildSink tree with
  | .error error => .error error
  | .ok (sink, tree) =>
      let tree := events.foldl (fun tree event => sink.record time event tree) tree
      let content := (config.diagnostics.path.bind tree.read?).bind String.fromUTF8?
      .ok (content.map textLines, tree)

inductive BuiltStore where
  | memory
  | durable (settings : DurableStore.Settings) (home : DurableStore.Home)

def buildStore (config : Config) (tree : FileTree) : FileTree × Except LoadError BuiltStore :=
  match config.valueStore.kind, config.valueStore.path with
  | .memory, _ => (tree, .ok .memory)
  | .durable, none => (tree, .error (.invalid .durableWithoutPath))
  | .durable, some path =>
      let settings := config.storeSettings path
      match DurableStore.openStore settings tree with
      | (tree, .ok home) => (tree, .ok (.durable settings home))
      | (tree, .error error) => (tree, .error (.invalid (.store error)))

end Building

/-- An example of a settings file; it is accepted as it stands. -/
def exampleText : String :=
  "[limits]
max_schema_bytes = 5242880
max_group_depth = 10
max_saved_values_bytes = 1048576

[integrations]
default_debounce_ms = 500
allowed_endpoints = [\"fetchAddressFromPostalCode\", \"fetchCompanyDetails\", \"validateDocument\"]

[autosave]
enabled = true
debounce_ms = 300
key_prefix = \"schema-form-autosave-\"

[diagnostics]
sink = \"file\"
path = \"schema-form-diagnostics.jsonl\"

[value_store]
type = \"sqlite\"
path = \"schema-form-values.db\"
journal_mode = \"wal\"
sync_mode = \"full\"
busy_timeout_ms = 5000
"

end FormEngine.Config
