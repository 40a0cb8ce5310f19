import FormEngine.Json.Basic

/-!
TOML documents as trees. A document is a list of sections, each a heading and the entries below it;
from them a tree is built in which every table knows how it came to be. That decides how it may
still grow: a table on the way to a heading may get a heading of its own once, a table made by a
dotted key grows by dotted keys only, and a value never grows.
-/

namespace FormEngine.Toml

/-- A dotted key: the names of the tables on the way, and the name at its end. -/
structure Key where
  way : List String
  name : String
  deriving DecidableEq

structure Entry where
  key : Key
  value : Json

inductive Heading where
  | top
  | table (key : Key)
  | element (key : Key)

structure Section where
  heading : Heading
  entries : List Entry

inductive Origin where
  | heading
  | onTheWay
  | dotted
  deriving DecidableEq

/-- Of the elements of a list only the last one is still open. -/
inductive Node where
  | value (json : Json)
  | table (origin : Origin) (entries : List (String × Node))
  | elements (closed : List (List (String × Node))) (last : List (String × Node))

abbrev Table := List (String × Node)

section Entries

/-- No name is given twice, and a table that a dotted key ends in was made by one. -/
def Table.add : List String → String → Json → Table → Option Table
  | [], name, value, table =>
      if Keyed.contains name table then none
      else some (Keyed.insert name (.value value) table)
  | step :: rest, name, value, table =>
      let growing (inner : Table) (build : Table → Node) : Option Table :=
        (Table.add rest name value inner).map fun grown => Keyed.insert step (build grown) table
      match Keyed.find? step table with
      | none => growing [] (.table .dotted)
      | some (.table .dotted inner) => growing inner (.table .dotted)
      | some (.table .onTheWay inner) =>
          if rest.isEmpty then none else growing inner (.table .onTheWay)
      | some (.table .heading _) => none
      | some (.elements closed last) =>
          if rest.isEmpty then none else growing last (.elements closed)
      | some (.value _) => none

def Table.addAll : List Entry → Table → Option Table
  | [], table => some table
  | entry :: rest, table =>
      match Table.add entry.key.way entry.key.name entry.value table with
      | some table => Table.addAll rest table
      | none => none

end Entries

section Headings

def Table.head (entries : List Entry) : Option Node → Option Node
  | none => (Table.addAll entries []).map (.table .heading)
  | some (.table .onTheWay inner) => (Table.addAll entries inner).map (.table .heading)
  | some _ => none

def Table.extend (entries : List Entry) : Option Node → Option Node
  | none => (Table.addAll entries []).map (.elements [])
  | some (.elements closed last) =>
      (Table.addAll entries []).map (.elements (closed ++ [last]))
  | some _ => none

/-- Changes what stands at the end of a way and makes the tables that are missing on it. -/
def Table.change (step : Option Node → Option Node) (name : String) :
    List String → Table → Option Table
  | [], table => (step (Keyed.find? name table)).map fun node => Keyed.insert name node table
  | onward :: rest, table =>
      let through (inner : Table) (build : Table → Node) : Option Table :=
        (Table.change step name rest inner).map fun changed =>
          Keyed.insert onward (build changed) table
      match Keyed.find? onward table with
      | none => through [] (.table .onTheWay)
      | some (.table origin inner) => through inner (.table origin)
      | some (.elements closed last) => through last (.elements closed)
      | some (.value _) => none

def Table.addSection (part : Section) (table : Table) : Option Table :=
  match part.heading with
  | .top => Table.addAll part.entries table
  | .table key => Table.change (Table.head part.entries) key.name key.way table
  | .element key => Table.change (Table.extend part.entries) key.name key.way table

def Table.ofSections : List Section → Table → Option Table
  | [], table => some table
  | part :: rest, table =>
      match Table.addSection part table with
      | some table => Table.ofSections rest table
      | none => none

end Headings

mutual
def Node.toJson : Node → Json
  | .value json => json
  | .table _ entries => .obj (membersOf entries)
  | .elements closed last => .arr (itemsOf closed ++ [.obj (membersOf last)])

def membersOf : List (String × Node) → List (String × Json)
  | [] => []
  | (name, node) :: rest => (name, node.toJson) :: membersOf rest

def itemsOf : List (List (String × Node)) → List Json
  | [] => []
  | table :: rest => .obj (membersOf table) :: itemsOf rest
end

end FormEngine.Toml
