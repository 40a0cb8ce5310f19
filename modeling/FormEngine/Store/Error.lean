/-!
What can go wrong with a store in a database file: the causes, and the words for them. The words of
the system and of the database engine are part of them.
-/

namespace FormEngine.DurableStore

inductive Error where
  | noParent
  | parentBlocked
  | zeroByte (place : Nat)
  | unknownHost (host : String)
  | unknownAccess (mode : String)
  | refusedAccess (mode : String)
  | unknownSharing (mode : String)
  | unknownSystem (name : String)
  | cannotOpen (path : String)
  | unreachable
  | deviceFailure
  | readOnly
  | notDatabase
  | noTable
  | versionMismatch (version : Int)
  | zeroLimit
  | emptyPath
  | longPath
  | longStep
  | directory
  | emptyKey
  | longKey
  | tooLarge (limit size : Nat)
  deriving DecidableEq

inductive ErrorKind where
  | io
  | engine
  | versionMismatch
  | invalid
  | tooLarge
  deriving DecidableEq

def ErrorKind.label : ErrorKind → String
  | .io => "Io"
  | .engine => "Db"
  | .versionMismatch => "VersionMismatch"
  | .invalid => "Invalid"
  | .tooLarge => "TooLarge"

namespace Error

def kind : Error → ErrorKind
  | .noParent | .parentBlocked => .io
  | .zeroByte _ | .unknownHost _ | .unknownAccess _ | .refusedAccess _ | .unknownSharing _
  | .unknownSystem _ | .cannotOpen _ | .unreachable | .deviceFailure | .readOnly | .notDatabase
  | .noTable => .engine
  | .versionMismatch _ => .versionMismatch
  | .tooLarge _ _ => .tooLarge
  | .zeroLimit | .emptyPath | .longPath | .longStep | .directory | .emptyKey | .longKey => .invalid

def detail : Error → String
  | .noParent => "store path missing parent directory"
  | .parentBlocked => "File exists (os error 17)"
  | .zeroByte place => "nul byte found in provided data at position: " ++ toString place
  | .unknownHost host => "invalid uri authority: " ++ host
  | .unknownAccess mode => "no such access mode: " ++ mode
  | .refusedAccess mode => "access mode not allowed: " ++ mode
  | .unknownSharing mode => "no such cache mode: " ++ mode
  | .unknownSystem name => "no such vfs: " ++ name
  | .cannotOpen path => "unable to open database file: " ++ path
  | .unreachable => "unable to open database file"
  | .deviceFailure => "disk I/O error"
  | .readOnly => "attempt to write a readonly database"
  | .notDatabase => "file is not a database"
  | .noTable => "no such table: form_values"
  | .versionMismatch version => "unsupported schema version: " ++ toString version
  | .zeroLimit => "max_payload_bytes must be greater than zero"
  | .emptyPath => "store path must not be empty"
  | .longPath => "store path exceeds length limit"
  | .longStep => "store path contains an overlong component"
  | .directory => "store path must be a file, not a directory"
  | .emptyKey => "storage key must not be empty"
  | .longKey => "storage key exceeds length limit"
  | .tooLarge limit size => toString size ++ " bytes (max " ++ toString limit ++ ")"

def message (error : Error) : String :=
  let subject :=
    match error.kind with
    | .io => "io error"
    | .engine => "db error"
    | .versionMismatch => "version mismatch"
    | .invalid => "invalid data"
    | .tooLarge => "payload too large"
  "sqlite store " ++ subject ++ ": " ++ error.detail

end Error

end FormEngine.DurableStore
