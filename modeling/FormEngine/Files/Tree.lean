import FormEngine.Files.Path
import FormEngine.Store.Database

/-!
A tree of named files and directories. Paths start at the root or at a working directory a little
below it. The tree holds no links, so a step up undoes the step before it.
-/

namespace FormEngine

inductive FileContent where
  | bytes (content : ByteArray)
  | database (content : Database)

inductive FileNode where
  | file (content : FileContent)
  | directory (entries : List (String × FileNode))

namespace FileNode

/-- What the names select, one directory after the other. -/
def find? : List String → FileNode → Option FileNode
  | [], node => some node
  | name :: rest, .directory entries =>
      match Keyed.find? name entries with
      | some inner => find? rest inner
      | none => none
  | _ :: _, .file _ => none

/-- Puts a node into a directory that is there already. -/
def put (added : FileNode) : List String → FileNode → FileNode
  | [], _ => added
  | [name], .directory entries => .directory (Keyed.insert name added entries)
  | name :: next :: rest, .directory entries =>
      match Keyed.find? name entries with
      | some inner => .directory (Keyed.insert name (put added (next :: rest) inner) entries)
      | none => .directory entries
  | _ :: _, .file content => .file content

/-- Takes away what is there under the names, if anything is. -/
def remove : List String → FileNode → FileNode
  | [], node => node
  | [name], .directory entries => .directory (Keyed.erase name entries)
  | name :: next :: rest, .directory entries =>
      match Keyed.find? name entries with
      | some inner => .directory (Keyed.insert name (remove (next :: rest) inner) entries)
      | none => .directory entries
  | _ :: _, .file content => .file content

end FileNode

structure FileTree where
  root : FileNode

namespace FileTree

/-- Names from the root down. -/
abbrev Place := List String

def working : Place := ["tmp", "forms-work"]

def start : FileTree :=
  ⟨.directory [("tmp", .directory [("forms-work", .directory [])])]⟩

def find? (tree : FileTree) (place : Place) : Option FileNode := tree.root.find? place

def put (tree : FileTree) (place : Place) (node : FileNode) : FileTree :=
  ⟨FileNode.put node place tree.root⟩

def remove (tree : FileTree) (place : Place) : FileTree := ⟨FileNode.remove place tree.root⟩

def isFile (tree : FileTree) (place : Place) : Bool :=
  match tree.find? place with
  | some (.file _) => true
  | _ => false

def isDirectory (tree : FileTree) (place : Place) : Bool :=
  match tree.find? place with
  | some (.directory _) => true
  | _ => false

def nameFits (name : String) : Bool :=
  name.utf8ByteSize ≤ FilePath.maxStepBytes && !name.toList.contains '\x00'

/-- Every step starts in a directory; where the last one ends there may be nothing yet. -/
def walk (tree : FileTree) : List FilePath.Step → Place → Option Place
  | [], place => some place
  | step :: rest, place =>
      if tree.isDirectory place then
        match step with
        | .root => walk tree rest []
        | .here => walk tree rest place
        | .up => walk tree rest place.dropLast
        | .name name => if nameFits name then walk tree rest (place ++ [name]) else none
      else none

/-- The same by the names alone: a step up goes back even from where nothing is. -/
def walkNames (tree : FileTree) : List FilePath.Step → Place → Option Place
  | [], place => some place
  | step :: rest, place =>
      match step with
      | .root => walkNames tree rest []
      | .here => walkNames tree rest place
      | .up => walkNames tree rest place.dropLast
      | .name name =>
          if nameFits name && !tree.isFile place then walkNames tree rest (place ++ [name])
          else none

/-- The place of a path that the system takes at all. -/
def resolve? (tree : FileTree) (path : String) : Option Place :=
  if path.isEmpty || FilePath.maxBytes ≤ path.utf8ByteSize then none
  else
    match tree.walk (FilePath.steps path) working with
    | some place =>
        if FilePath.namesDirectory path && !tree.isDirectory place then none else some place
    | none => none

def nodeAt? (tree : FileTree) (path : String) : Option FileNode :=
  (tree.resolve? path).bind tree.find?

def existsAt (tree : FileTree) (path : String) : Bool := (tree.nodeAt? path).isSome

def isDirectoryAt (tree : FileTree) (path : String) : Bool :=
  match tree.nodeAt? path with
  | some (.directory _) => true
  | _ => false

/-- Makes the directories that are missing along the steps. Those made before a hindrance stay. -/
def createAlong : FileTree → List FilePath.Step → Place → FileTree × Bool
  | tree, [], place => (tree, tree.isDirectory place)
  | tree, step :: rest, place =>
      match step with
      | .root => createAlong tree rest []
      | .here => createAlong tree rest place
      | .up => createAlong tree rest place.dropLast
      | .name name =>
          match tree.find? (place ++ [name]) with
          | some (.directory _) => createAlong tree rest (place ++ [name])
          | some (.file _) => (tree, false)
          | none =>
              if nameFits name then
                createAlong (tree.put (place ++ [name]) (.directory [])) rest (place ++ [name])
              else (tree, false)

def createDirectories (tree : FileTree) (steps : List FilePath.Step) : FileTree × Bool :=
  if steps.all fun step => nameFits step.text then tree.createAlong steps working
  else (tree, false)

/-- Replaces what a file held; the directory has to be there. -/
def write? (tree : FileTree) (path : String) (content : ByteArray) : Option FileTree :=
  match tree.resolve? path with
  | none => none
  | some place =>
      if tree.isDirectory place then none
      else some (tree.put place (.file (.bytes content)))

def read? (tree : FileTree) (path : String) : Option ByteArray :=
  match tree.nodeAt? path with
  | some (.file (.bytes content)) => some content
  | _ => none

/-- Adds to the end of a file, which begins empty if it is missing. -/
def append? (tree : FileTree) (path : String) (content : ByteArray) : Option FileTree :=
  match tree.nodeAt? path with
  | some (.file (.bytes held)) => tree.write? path (held ++ content)
  | some _ => none
  | none => tree.write? path content

end FileTree

end FormEngine
