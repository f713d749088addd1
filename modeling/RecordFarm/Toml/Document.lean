import RecordFarm.Toml.Node
import RecordFarm.Toml.Number
/-!
# Reading documents

A document is a row of lines: blank ones, headers, and entries. Headers choose the table that the
entries below them go to. `document?` is the tree that a text describes, if it describes one.
-/

namespace RecordFarm

namespace Toml

/-- A value that holds no others. -/
def scalar : Reader Node :=
  (return .text (← string)) <|>
    (do moment; return .moment) <|>
    (do float; return .float) <|>
    (return .integer (← integer)) <|>
    (do Reader.word ['t', 'r', 'u', 'e']; return .boolean true) <|>
    (do Reader.word ['f', 'a', 'l', 's', 'e']; return .boolean false)

/-- An array; the last value may be followed by a comma. -/
def array (value : Reader Node) : Reader Node := do
  Reader.just '['
  let items ← Reader.separated (Reader.just ',') do
    gap
    let item ← value
    gap
    return item
  if !items.isEmpty then Reader.maybe (Reader.just ',')
  gap
  Reader.just ']'
  return .array items

/-- A dotted key, as a path and its last part, and its value. -/
structure Entry where
  path : List String
  key : String
  node : Node

def entry (value : Reader Node) : Reader Entry := do
  let (path, key) ← key
  Reader.just '='
  blanks
  let node ← value
  blanks
  return { path, key, node }

/-- The entries of a table, put together from the top. -/
def Entries.ofList (found : List Entry) : Option Entries :=
  found.foldlM (fun entries e => Entries.put e.key e.node e.path entries) []

/-- An inline table, which stands on one line. -/
def inlineTable (value : Reader Node) : Reader Node := do
  Reader.just '\x7b'
  let found ← Reader.separated (Reader.just ',') (entry value)
  blanks
  Reader.just '\x7d'
  match Entries.ofList found with
  | some entries => return .table .inline entries
  | none => failure

/-- A value in which others are nested less deep than a bound. -/
def value : Nat → Reader Node
  | 0 => scalar
  | depth + 1 => scalar <|> array (value depth) <|> inlineTable (value depth)

inductive Line where
  | blank
  /-- A header: the table that the entries below go to. -/
  | table (path : List String) (key : String)
  /-- A doubled header: one more table of this name. -/
  | row (path : List String) (key : String)
  | entry (e : Entry)

def line : Reader Line := do
  blanks
  (do newline; return .blank) <|>
    (do comment; lineEnd; return .blank) <|>
    (do
      Reader.word ['[', '[']
      let (path, last) ← key
      Reader.word [']', ']']
      lineEnd
      return .row path last) <|>
    (do
      Reader.just '['
      let (path, last) ← key
      Reader.just ']'
      lineEnd
      return .table path last) <|>
    (do
      let e ← entry (value (nestingLimit - 1))
      lineEnd
      return .entry e)

def allLines : Reader (List Line) := do
  Reader.maybe (Reader.just '\ufeff')
  let lines ← Reader.many line
  blanks
  Reader.atEnd
  return lines

/-- A document that is being put together. -/
structure Draft where
  root : Entries := []
  /-- The table that entries go to. -/
  place : List String := []

def Draft.add (draft : Draft) : Line → Option Draft
  | .blank => some draft
  | .table path key => do
    let root ← draft.root.within (Entries.openTable key) path
    return { root, place := path ++ [key] }
  | .row path key => do
    let root ← draft.root.within (Entries.addRow key) path
    return { root, place := path ++ [key] }
  | .entry e => do
    let root ← draft.root.within (Entries.put e.key e.node e.path) draft.place
    return { draft with root }

/-- The root of the document that a text describes, if it describes one. -/
def document? (text : String) : Option Entries := do
  let (lines, _) ← allLines text.toList
  let draft ← lines.foldlM Draft.add {}
  return draft.root

end Toml

end RecordFarm
