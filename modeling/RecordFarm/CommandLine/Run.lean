import RecordFarm.CommandLine.Arguments
import RecordFarm.CommandLine.Complaint
import RecordFarm.CommandLine.Host
import RecordFarm.Failure
import RecordFarm.Farm.Basic
import RecordFarm.Settings.Document
import RecordFarm.Sink.File
import RecordFarm.Source.File
/-!
# Runs

A run reads the settings, opens the input, creates the output, and lets a farm of workers that keep
every record copy the one to the other. Whatever fails first ends the run.
-/

namespace RecordFarm

namespace CommandLine

structure Finish where
  status : UInt8
  output : String := ""
  errors : String := ""
  deriving DecidableEq, Repr

def Finish.failed (complaint : Complaint) : Finish where
  status := 1
  errors := complaint.text

/-- The complaint about an error of an element, or of a file. -/
def complainOf (note : String) (cause : Error) : Complaint where
  note
  causes := cause.message :: cause.causes

abbrev CopyFarm := Farm FileSource FileSource.Task Unit RecordWriter RecordWriter.Task

def copyParts : Farm.Parts FileSource FileSource.Task Unit RecordWriter RecordWriter.Task where
  source := FileSource.source
  processor := .passThrough
  sink := RecordWriter.sink

def copyFarm (settings : Settings) (input : InStream) : CopyFarm :=
  let reader := RecordReader.new input settings.reading.mode settings.reading.blockRecords
  let converter := match settings.reading.mode with
    | .single => .record
    | .block => .block
  .new { limits := settings.transport.limits } settings.layout { reader, converter }
    (List.replicate settings.layout.workers ()) { out := {} }

/-- More turns than any run takes. -/
def manyTurns : Nat := 1000000000000000000

variable {m : Type → Type} [Monad m] [Host m]

def settingsOf (files : Files) : m (Except Complaint Settings) := do
  match files.settings? with
  | none => return .ok {}
  | some path =>
    return (Settings.ofFile path (← Host.contents path)).mapError fun cause =>
      { note := s!"loading configuration {Text.quoted path}"
        causes := [(Failure.settings cause).message] }

/-- Copies the input to the output. A farm in which somebody waits forever never ends; no run
succeeds with that. -/
def copy (files : Files) (settings : Settings) : m Finish := do
  if let some reason := ← Host.refusal? files.input then
    return .failed (complainOf s!"opening input {Text.quoted files.input}" (.stream reason))
  if let some reason := ← Host.create files.output then
    return .failed (complainOf s!"creating output {Text.quoted files.output}" (.stream reason))
  let input ← Host.read files.input
  let farm := (copyFarm settings input).turns copyParts manyTurns
  Host.write files.output farm.collector.strategy.sink.out.written
  match farm.result? with
  | some (.ok _) => return { status := 0 }
  | some (.error cause) => return .failed (complainOf "running topology" cause)
  | none => return .failed { note := "running topology", causes := ["not all elements have ended"] }

def run (arguments : List String) : m Finish := do
  match request arguments with
  | .error cause => return .failed { note := cause.message }
  | .ok .help => return { status := 0, output := usage ++ "\n" }
  | .ok (.run files) =>
    match ← settingsOf files with
    | .error complaint => return .failed complaint
    | .ok settings => copy files settings

end CommandLine

end RecordFarm
