import FormEngine.Store.Error
import FormEngine.Text.Hex
import FormEngine.Text.Split

/-!
Names of databases. A name is the path of a file, or a URI of the scheme for files: a path with
escaped bytes, and parameters that say how the database is opened. Some names stand for databases
without a file, which live only while they are open.
-/

namespace FormEngine.DurableStore

section Texts

/-- Bytes that are no text are taken one by one. -/
def textOfBytes (bytes : List UInt8) : String :=
  match String.fromUTF8? ⟨bytes.toArray⟩ with
  | some text => text
  | none => String.ofList (bytes.map fun byte => Char.ofNat byte.toNat)

def escapedByte? (first second : Char) : Option Nat :=
  match Text.hexValue? first, Text.hexValue? second with
  | some high, some low => some (high * 16 + low)
  | _, _ => none

/-- A percent sign and two hexadecimal digits stand for a byte; a zero byte ends the text. -/
def unescape : List Char → List UInt8
  | [] => []
  | char :: rest =>
      let plain := (String.singleton char).toUTF8.toList ++ unescape rest
      if char ≠ '%' then plain
      else
        match rest with
        | first :: second :: more =>
            match escapedByte? first second with
            | some 0 => []
            | some byte => UInt8.ofNat byte :: unescape more
            | none => plain
        | _ => plain

def unescaped (text : List Char) : String := textOfBytes (unescape text)

def splitFirst (mark : Char) (text : List Char) : List Char × List Char :=
  (text.takeWhile fun char => char != mark, (text.dropWhile fun char => char != mark).drop 1)

end Texts

section Addresses

/-- A URI apart: its path and its parameters in their order. -/
structure Address where
  path : String
  parameters : List (String × String)

/-- Parameters without a name do not count. -/
def parametersOf (text : List Char) : List (String × String) :=
  let pairs := (Text.splitChars '&' text).map fun piece =>
    let (name, value) := splitFirst '=' piece
    (unescaped name, unescaped value)
  pairs.filter fun pair => !pair.1.isEmpty

/-- Called after the host. -/
def addressOf (text : List Char) : Address :=
  let (path, query) := splitFirst '?' (splitFirst '#' text).1
  ⟨unescaped path, parametersOf query⟩

/-- Called after the scheme; only this machine may be named as host. -/
def readAddress : List Char → Except Error Address
  | '/' :: '/' :: rest =>
      let host := rest.takeWhile fun char => char != '/'
      if host = [] ∨ host = "localhost".toList then .ok (addressOf (rest.drop host.length))
      else .error (.unknownHost (String.ofList host))
  | rest => .ok (addressOf rest)

end Addresses

section Requests

inductive AccessMode where
  | readOnly
  | readWrite
  | create
  | memory
  deriving DecidableEq

def AccessMode.ofName? : String → Option AccessMode
  | "ro" => some .readOnly
  | "rw" => some .readWrite
  | "rwc" => some .create
  | "memory" => some .memory
  | _ => none

/-- How much a mode asks for. -/
def AccessMode.asked : AccessMode → Nat
  | .memory => 0
  | .readOnly => 1
  | .readWrite => 2
  | .create => 3

/-- How much may be asked for after a mode. -/
def AccessMode.granted : AccessMode → Nat
  | .memory => 3
  | mode => mode.asked

/-- How files are locked, which is also what a log beside a file needs. -/
inductive LockSystem where
  | standard
  | exclusive
  | lockFiles
  | noLocks
  | memory
  deriving DecidableEq

def LockSystem.ofName? : String → Option LockSystem
  | "unix" => some .standard
  | "unix-excl" => some .exclusive
  | "unix-dotfile" => some .lockFiles
  | "unix-none" => some .noLocks
  | "memdb" => some .memory
  | _ => none

/-- What the parameters ask for. -/
structure Request where
  mode : AccessMode
  isShared : Bool
  system : Option String

def Request.standard : Request := ⟨.create, false, none⟩

def Request.read (request : Request) : String × String → Except Error Request
  | ("vfs", name) => .ok { request with system := some name }
  | ("cache", "shared") => .ok { request with isShared := true }
  | ("cache", "private") => .ok { request with isShared := false }
  | ("cache", mode) => .error (.unknownSharing mode)
  | ("mode", name) =>
      match AccessMode.ofName? name with
      | none => .error (.unknownAccess name)
      | some mode =>
          if mode.asked ≤ request.mode.granted then .ok { request with mode }
          else .error (.refusedAccess name)
  | _ => .ok request

def Request.lockSystem (request : Request) : Except Error LockSystem :=
  match request.system with
  | none => .ok .standard
  | some name =>
      match LockSystem.ofName? name with
      | some system => .ok system
      | none => .error (.unknownSystem name)

/-- A number is on unless its last byte is zero; of the words only three are on. -/
def isOn (value : String) : Bool :=
  let chars := value.toList
  let digits := chars.takeWhile fun char => '0' ≤ char && char ≤ '9'
  if digits.isEmpty then ["on", "yes", "true"].contains value.toLower
  else
    let number := digits.foldl (fun sum digit => sum * 10 + (digit.toNat - 48)) 0
    number < 2147483648 && number % 256 != 0

/-- The first parameter of a name counts. -/
def isSet (parameters : List (String × String)) (name : String) : Bool :=
  (parameters.find? fun parameter => parameter.1 == name).any fun parameter => isOn parameter.2

end Requests

/-- Where a database is kept. A shared one without a file is the same for all who open its name. -/
inductive Storage where
  | alone
  | shared (system : LockSystem) (name : String)
  | file (path : String)
  deriving DecidableEq

/-- Where a database is, and how it is opened. A `frozen` file is read as if nothing else could
change it. A log beside the file needs an index, which may also be kept in memory. -/
structure Location where
  storage : Storage
  creates : Bool
  writable : Bool
  frozen : Bool
  allowsLog : Bool
  keepsIndex : Bool

/-- A database of this name is never written to a file. -/
def memoryName : String := ":memory:"

/-- The system of files is asked for the name. -/
def isSought (request : Request) (path : String) : Bool :=
  !path.isEmpty && request.mode ≠ .memory && path ≠ memoryName

def storageOf (request : Request) (system : LockSystem) (path : String) : Storage :=
  let unnamed : Storage := if request.isShared then .shared system path else .alone
  if path.isEmpty then .alone
  else if !isSought request path then unnamed
  else if system = .memory then
    match path.toList with
    | '/' :: _ :: _ => .shared system path
    | '\\' :: _ :: _ => .shared system path
    | _ => unnamed
  else .file path

def locateAddress (address : Address) : Except Error Location := do
  let request ← address.parameters.foldlM Request.read .standard
  let system ← request.lockSystem
  let storage := storageOf request system address.path
  let frozen := isSought request address.path && isSet address.parameters "immutable"
  let unlocked := isSet address.parameters "nolock"
  .ok {
    storage
    creates := request.mode = .create
    writable := request.mode ≠ .readOnly && !frozen
    frozen
    allowsLog := (system = .standard || system = .exclusive) && !unlocked && !frozen
    keepsIndex := system = .standard }

def locatePath (path : String) : Location where
  storage := if path = memoryName then .alone else .file path
  creates := true
  writable := true
  frozen := false
  allowsLog := true
  keepsIndex := true

def locate (name : String) : Except Error Location :=
  let beforeZero := name.toList.takeWhile fun char => char != '\x00'
  if beforeZero.length < name.length then
    .error (.zeroByte (String.ofList beforeZero).utf8ByteSize)
  else
    match name.toList with
    | 'f' :: 'i' :: 'l' :: 'e' :: ':' :: rest =>
        match readAddress rest with
        | .ok address => locateAddress address
        | .error error => .error error
    | _ => .ok (locatePath name)

end FormEngine.DurableStore
