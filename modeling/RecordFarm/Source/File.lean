import RecordFarm.RecordReader
import RecordFarm.Service
/-!
# Reading a record file

A file source turns the items of a record reader into messages. It shares nothing with anybody
and never waits, whatever the world around it.
-/

namespace RecordFarm

/-- A source that reads a record file. -/
structure FileSource where
  reader : RecordReader
  converter : Converter
  deriving Repr

namespace FileSource

def next (s : FileSource) : Except Error Message × FileSource :=
  match s.reader.read with
  | (.error cause, reader) => (.error cause, { s with reader })
  | (.ok item, reader) =>
    match s.converter.convert item with
    | .error cause => (.error cause, { s with reader })
    | .ok m => (.ok m, { s with reader })

abbrev Task := SourceCall

variable {ω : Type}

def step : Task → FileSource → ω → Progress Task Reply × FileSource × ω
  | .next, s, w =>
    match s.next with
    | (.ok m, s) => (.finished (.ok (some m)), s, w)
    | (.error cause, s) => (.finished (.error cause), s, w)
  | _, s, w => (.finished (.ok none), s, w)

def source : Source ω FileSource Task where
  start := id
  step := step
  connector? _ := none

end FileSource

end RecordFarm
