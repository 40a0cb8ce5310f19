/-!
Entries under text keys, kept in strictly increasing key order. Insertion and removal keep the
order, so two sorted lists that answer every look-up alike are the same list.

Keys compare by code point, which is also the byte order of their UTF-8 form.
-/

namespace FormEngine.Keyed

variable {Value : Type}

def Sorted (entries : List (String × Value)) : Prop :=
  entries.Pairwise fun earlier later => earlier.1 < later.1

def keys (entries : List (String × Value)) : List String :=
  entries.map Prod.fst

def find? (key : String) : List (String × Value) → Option Value
  | [] => none
  | (name, value) :: rest => if name = key then some value else find? key rest

def contains (key : String) (entries : List (String × Value)) : Bool :=
  (find? key entries).isSome

def insert (key : String) (value : Value) : List (String × Value) → List (String × Value)
  | [] => [(key, value)]
  | (name, held) :: rest =>
      if name = key then (key, value) :: rest
      else if key < name then (key, value) :: (name, held) :: rest
      else (name, held) :: insert key value rest

def erase (key : String) : List (String × Value) → List (String × Value)
  | [] => []
  | (name, held) :: rest => if name = key then rest else (name, held) :: erase key rest

/-- Of two entries under one key the later one is kept. -/
def ofList (entries : List (String × Value)) : List (String × Value) :=
  entries.foldl (fun held entry => insert entry.1 entry.2 held) []

/-- Entries of the second list win. -/
def merge (base overlay : List (String × Value)) : List (String × Value) :=
  overlay.foldl (fun held entry => insert entry.1 entry.2 held) base

/-- The names in increasing order, each once. -/
def nameSet (names : List String) : List String :=
  keys (ofList (names.map fun name => (name, ())))

end FormEngine.Keyed
