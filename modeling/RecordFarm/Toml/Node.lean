/-!
# Documents

A document is a tree of nodes, and its root is a table. Tables come about in different ways, and
which way it was decides who may add to a table later: a header may name a table that is only
implied by the header of one of its subtables, dotted keys may add to what dotted keys made, and
nobody may add to an inline table. `put`, `openTable` and `addRow` keep these rules; `within` leads
them to their place.
-/

namespace RecordFarm

namespace Toml

/-- How a table came about. -/
inductive Form where
  /-- Written between braces. -/
  | inline
  /-- Named by a header. -/
  | headed
  /-- Implied by the header of a table inside it. -/
  | implied
  /-- Made by dotted keys. -/
  | dotted
  deriving DecidableEq, Repr

/-- A value, with no more of it than settings can ask for. -/
inductive Node where
  | text (s : String)
  | integer (n : Int)
  | float
  | boolean (b : Bool)
  /-- A date, a time, or both. -/
  | moment
  | array (items : List Node)
  | table (form : Form) (entries : List (String × Node))
  /-- The tables that headers of one name have made, oldest first. -/
  | rows (tables : List Node)
  deriving Inhabited

abbrev Entries := List (String × Node)

namespace Entries

def replace (key : String) (node : Node) (entries : Entries) : Entries :=
  entries.map fun entry => if entry.1 = key then (key, node) else entry

def changeLast (change : Entries → Option Entries) : List Node → Option (List Node)
  | [] => none
  | [.table form entries] => (change entries).map fun entries => [.table form entries]
  | node :: rest => (changeLast change rest).map (node :: ·)

/-- Changes the table that a header's path leads to; tables on the way that are missing are
implied. -/
def within (change : Entries → Option Entries) : List String → Entries → Option Entries
  | [], entries => change entries
  | key :: path, entries =>
    match entries.lookup key with
    | none => (within change path []).map fun inner => entries ++ [(key, .table .implied inner)]
    | some (.table .inline _) => none
    | some (.table form inner) =>
      (within change path inner).map fun inner => entries.replace key (.table form inner)
    | some (.rows tables) =>
      (changeLast (within change path) tables).map fun tables => entries.replace key (.rows tables)
    | some _ => none

def openTable (key : String) (entries : Entries) : Option Entries :=
  match entries.lookup key with
  | none => some (entries ++ [(key, .table .headed [])])
  | some (.table .implied inner) => some (entries.replace key (.table .headed inner))
  | some _ => none

/-- Adds the table that a doubled header names. -/
def addRow (key : String) (entries : Entries) : Option Entries :=
  match entries.lookup key with
  | none => some (entries ++ [(key, .rows [.table .headed []])])
  | some (.rows tables) => some (entries.replace key (.rows (tables ++ [.table .headed []])))
  | some _ => none

/-- Puts a node under a dotted key, given as a path and its last part. -/
def put (key : String) (node : Node) : List String → Entries → Option Entries
  | [], entries =>
    match entries.lookup key with
    | none => some (entries ++ [(key, node)])
    | some _ => none
  | first :: path, entries =>
    match entries.lookup first with
    | none => (put key node path []).map fun inner => entries ++ [(first, .table .dotted inner)]
    | some (.table .dotted inner) =>
      (put key node path inner).map fun inner => entries.replace first (.table .dotted inner)
    | some (.table .implied inner) =>
      -- Dotted keys may pass through an implied table, but not end in it.
      if path.isEmpty then none
      else (put key node path inner).map fun inner => entries.replace first (.table .implied inner)
    | some (.rows tables) =>
      if path.isEmpty then none
      else (changeLast (put key node path) tables).map fun tables =>
        entries.replace first (.rows tables)
    | some _ => none

end Entries

end Toml

end RecordFarm
