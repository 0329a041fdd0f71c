import Folio.Settings.Node
/-!
# Tables of a TOML document

A document writes its tables bit by bit: by a header, by the header of a table below, or by a key
with dots. `Tree` keeps how each table came to be, because that decides what may be added to it: no
key is written twice, no table gets two headers, and a key with dots adds only to tables that such
keys made.
-/

namespace Folio.Settings.Toml

/-- How a table came to be. -/
inductive Standing where
  /-- By the header of a table below it. -/
  | implied
  /-- By a key with dots. -/
  | dotted
  /-- By a header of its own. -/
  | headed
  deriving DecidableEq, Repr

/-- What a key of a document stands for so far: a finished value, a table, or a list of tables of
which the last one is written now. -/
inductive Tree where
  | value (node : Node)
  | table (standing : Standing) (entries : List (String × Tree))
  | tables (done : List (List (String × Tree))) (last : List (String × Tree))

/-- The keys of a table with what they stand for. -/
abbrev Entries := List (String × Tree)

namespace Entries

/-- A table with another thing under a key that it has. -/
def replace (es : Entries) (key : String) (t : Tree) : Entries :=
  es.map fun e => if e.1 = key then (key, t) else e

/-- A table with one key more. -/
def insert? (es : Entries) (key : String) (t : Tree) : Option Entries :=
  if (es.lookup key).isSome then none else some (es ++ [(key, t)])

/-- Changes the table at the end of the path of a header, where tables that are not there are made. -/
def below? (change : Entries → Option Entries) : List String → Entries → Option Entries
  | [], es => change es
  | key :: path, es =>
    match es.lookup key with
    | none => (below? change path []).map fun inner => es ++ [(key, .table .implied inner)]
    | some (.table standing inner) =>
      (below? change path inner).map fun inner => es.replace key (.table standing inner)
    | some (.tables done last) =>
      (below? change path last).map fun last => es.replace key (.tables done last)
    | some (.value _) => none

/-- Puts a finished value under a key with dots, into a table to which a key may be added only if it
is open. Tables that are not there are made, and those that headers made stay as they are. -/
def assign? (isOpen : Bool) (value : Node) : List String → Entries → Option Entries
  | [], _ => none
  | [key], es => if isOpen then es.insert? key (.value value) else none
  | key :: path, es =>
    match es.lookup key with
    | none => (assign? true value path []).map fun inner => es ++ [(key, .table .dotted inner)]
    | some (.table standing inner) =>
      if standing = .headed then none
      else
        (assign? (standing = .dotted) value path inner).map fun inner =>
          es.replace key (.table standing inner)
    | _ => none

/-- Adds a key with its value to the table whose header has a path. -/
def put? (es : Entries) (header path : List String) (value : Node) : Option Entries :=
  es.below? (assign? true value path) header

/-- Gives a table its header. -/
def open? (es : Entries) (header : List String) : Option Entries :=
  match header.getLast? with
  | none => none
  | some key =>
    es.below? (fun es =>
      match es.lookup key with
      | none => some (es ++ [(key, .table .headed [])])
      | some (.table .implied inner) => some (es.replace key (.table .headed inner))
      | _ => none) header.dropLast

/-- Starts the next table of a list of tables. -/
def openNext? (es : Entries) (header : List String) : Option Entries :=
  match header.getLast? with
  | none => none
  | some key =>
    es.below? (fun es =>
      match es.lookup key with
      | none => some (es ++ [(key, .tables [] [])])
      | some (.tables done last) => some (es.replace key (.tables (done ++ [last]) []))
      | _ => none) header.dropLast

end Entries

mutual

/-- The finished value. -/
def Tree.node (origin : Option String) : Tree → Node
  | .value n => n
  | .table _ entries => .table origin (Entries.nodes origin entries)
  | .tables done last => .list origin (Entries.lists origin done ++ [.table origin (Entries.nodes origin last)])

/-- The finished entries of a table. -/
def Entries.nodes (origin : Option String) : List (String × Tree) → List (String × Node)
  | [] => []
  | e :: rest => Entries.entry origin e :: Entries.nodes origin rest

/-- A finished entry. -/
def Entries.entry (origin : Option String) : String × Tree → String × Node
  | (key, t) => (key, t.node origin)

/-- The finished tables of a list. -/
def Entries.lists (origin : Option String) : List (List (String × Tree)) → List Node
  | [] => []
  | es :: rest => .table origin (Entries.nodes origin es) :: Entries.lists origin rest

end

end Folio.Settings.Toml
