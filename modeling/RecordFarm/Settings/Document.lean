import RecordFarm.Settings.Basic
import RecordFarm.Toml.Document
import RecordFarm.Toml.Quoting
/-!
# Settings as documents

Settings are kept in a document with a table for each section. Reading takes a default for whatever
is missing and passes over what it does not know; writing leaves nothing out.

A section may also be given as an array, by the order of its values. A date counts as a section in
which everything is missing.
-/

namespace RecordFarm

namespace Settings

/-! ### Reading -/

/-- The values of a section with these names, where they are given. -/
def fields? (names : List String) : Toml.Node → Option (List (Option Toml.Node))
  | .table _ entries => some (names.map fun name => entries.lookup name)
  | .array items => some (names.zipIdx.map fun (_, index) => items[index]?)
  | .rows tables => some (names.zipIdx.map fun (_, index) => tables[index]?)
  | .moment => some (names.map fun _ => none)
  | _ => none

/-- A number from zero on. -/
def number? : Toml.Node → Option Nat
  | .integer n => if 0 ≤ n then some n.toNat else none
  | _ => none

def text? : Toml.Node → Option String
  | .text s => some s
  | _ => none

def modeNamed? : String → Option ReadMode
  | "single" => some .single
  | "block" => some .block
  | _ => none

def isHollow : Toml.Node → Bool
  | .table _ entries => entries.isEmpty
  | .array items => items.isEmpty
  | .rows tables => tables.isEmpty
  | _ => false

/-- A mode: its name, or a table with nothing but an empty entry of that name. -/
def mode? : Toml.Node → Option ReadMode
  | .text name => modeNamed? name
  | .table _ [(name, inner)] => if isHollow inner then modeNamed? name else none
  | _ => none

/-- The value of a field: the default if it is missing, nothing if it is of the wrong kind. -/
def valueOr {α : Type} (read : Toml.Node → Option α) (default : α) : Option Toml.Node → Option α
  | none => some default
  | some node => read node

def transport? (node : Toml.Node) : Option TransportSettings := do
  match
    ← fields? ["socket_capacity", "connect_timeout_ms", "connect_poll_ms", "linger_ms"] node with
  | [capacity, timeout, poll, linger] =>
    let base : TransportSettings := {}
    return {
      socketCapacity := ← valueOr number? base.socketCapacity capacity
      connectTimeout := ← valueOr number? base.connectTimeout timeout
      connectPoll := ← valueOr number? base.connectPoll poll
      linger := ← valueOr number? base.linger linger }
  | _ => none

def layout? (node : Toml.Node) : Option Farm.Layout := do
  match ← fields? ["workers", "distributor_uri", "collector_uri", "high_water_mark"] node with
  | [workers, distributor, collector, mark] =>
    let base : Farm.Layout := {}
    return {
      workers := ← valueOr number? base.workers workers
      distributorUri := ← valueOr text? base.distributorUri distributor
      collectorUri := ← valueOr text? base.collectorUri collector
      highWaterMark := ← valueOr number? base.highWaterMark mark }
  | _ => none

def reading? (node : Toml.Node) : Option ReadSettings := do
  match ← fields? ["mode", "block_records"] node with
  | [mode, records] =>
    let base : ReadSettings := {}
    return {
      mode := ← valueOr mode? base.mode mode
      blockRecords := ← valueOr number? base.blockRecords records }
  | _ => none

def ofDocument? (root : Toml.Entries) : Option Settings :=
  return {
    transport := ← valueOr transport? {} (root.lookup "transport")
    layout := ← valueOr layout? {} (root.lookup "fanout")
    reading := ← valueOr reading? {} (root.lookup "source") }

/-- The settings that a text describes, if they keep the rules. -/
def ofText (text : String) : Except SettingsError Settings := do
  match Toml.document? text with
  | none => throw (.malformed "not a document")
  | some root =>
    match ofDocument? root with
    | none => throw (.malformed "a value of the wrong kind")
    | some settings =>
      settings.validate
      return settings

/-- The settings in a file at some path, of which the contents are given, or why it cannot be
read. -/
def ofFile (path : String) (contents : Except String Bytes) : Except SettingsError Settings :=
  match contents with
  | .error reason => .error (.unreadable path reason)
  | .ok bytes =>
    match String.fromUTF8? ⟨bytes.toArray⟩ with
    | none => .error (.unreadable path "stream did not contain valid UTF-8")
    | some text => ofText text

/-! ### Writing -/

inductive Value where
  | number (n : Nat)
  | text (s : String)
  deriving DecidableEq, Repr

def modeName : ReadMode → String
  | .single => "single"
  | .block => "block"

/-- The sections, with all their values, in the order in which they are written. -/
def sections (s : Settings) : List (String × List (String × Value)) :=
  [("transport",
      [("socket_capacity", .number s.transport.socketCapacity),
        ("connect_timeout_ms", .number s.transport.connectTimeout),
        ("connect_poll_ms", .number s.transport.connectPoll),
        ("linger_ms", .number s.transport.linger)]),
    ("fanout",
      [("workers", .number s.layout.workers),
        ("distributor_uri", .text s.layout.distributorUri),
        ("collector_uri", .text s.layout.collectorUri),
        ("high_water_mark", .number s.layout.highWaterMark)]),
    ("source",
      [("mode", .text (modeName s.reading.mode)),
        ("block_records", .number s.reading.blockRecords)])]

/-- A value as it is written. Integers have 64 bits and a sign. -/
def Value.written : Value → Except SettingsError String
  | number n =>
    if Toml.isInt64 n then .ok (toString n)
    else .error (.unwritten s!"{n} does not fit into an integer")
  | text s => .ok (Toml.quote s)

def writtenSection (name : String) (values : List (String × Value)) :
    Except SettingsError String := do
  let lines ← values.mapM fun (key, value) => do
    let text ← value.written
    return s!"{key} = {text}\n"
  return s!"[{name}]\n" ++ String.join lines

def toText (s : Settings) : Except SettingsError String := do
  let written ← s.sections.mapM fun (name, values) => writtenSection name values
  return "\n".intercalate written

end Settings

end RecordFarm
