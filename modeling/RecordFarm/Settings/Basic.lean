import RecordFarm.Farm.Layout
import RecordFarm.Network
import RecordFarm.RecordReader
import RecordFarm.Text.Quoted
/-!
# Settings

Everything about a run that can be set, with a default for each value, and the rules that the
values have to keep.
-/

namespace RecordFarm

/-- Sizes and times of the network, the times in milliseconds. -/
structure TransportSettings where
  socketCapacity : Nat := 1024
  connectTimeout : Nat := 2000
  /-- How often connecting looks for the address. -/
  connectPoll : Nat := 5
  linger : Nat := 2000
  deriving DecidableEq, Inhabited, Repr

structure ReadSettings where
  mode : ReadMode := .single
  blockRecords : Nat := 64
  deriving DecidableEq, Inhabited, Repr

structure Settings where
  transport : TransportSettings := {}
  layout : Farm.Layout := {}
  reading : ReadSettings := {}
  deriving DecidableEq, Inhabited, Repr

inductive SettingsError where
  /-- The file at this path cannot be read. -/
  | unreadable (path reason : String)
  /-- The file at this path cannot be written. -/
  | unwritable (path reason : String)
  /-- The text does not describe settings. -/
  | malformed (reason : String)
  /-- The settings have no text. -/
  | unwritten (reason : String)
  | noCapacity
  | noWorkers
  | noHighWaterMark
  | sharedAddress (uri : String)
  | emptyBlocks
  | custom (text : String)
  deriving DecidableEq, Repr

def SettingsError.message : SettingsError → String
  | unreadable path reason => s!"Failed to read configuration {Text.quoted path}: {reason}"
  | unwritable path reason => s!"Failed to write configuration {Text.quoted path}: {reason}"
  | malformed reason => s!"Failed to parse configuration: {reason}"
  | unwritten reason => s!"Failed to serialize configuration: {reason}"
  | noCapacity => "socket_capacity must be at least 1"
  | noWorkers => "at least one worker is required"
  | noHighWaterMark => "high_water_mark must be at least 1"
  | sharedAddress uri => s!"distributor and collector cannot share the endpoint '{uri}'"
  | emptyBlocks => "block_records must be at least 1 in block mode"
  | custom text => text

namespace TransportSettings

/-- The interval between two looks for an address: at least a millisecond. -/
def pollInterval (s : TransportSettings) : Nat := max s.connectPoll 1

def limits (s : TransportSettings) : Limits where
  capacity := s.socketCapacity
  connectTimeout := s.connectTimeout
  linger := s.linger

end TransportSettings

namespace Settings

/-- Checks the rules that the values have to keep; the first broken one is reported. -/
def validate (s : Settings) : Except SettingsError Unit :=
  if s.transport.socketCapacity = 0 then .error .noCapacity
  else if s.layout.workers = 0 then .error .noWorkers
  else if s.layout.highWaterMark = 0 then .error .noHighWaterMark
  else if s.layout.distributorUri = s.layout.collectorUri then
    .error (.sharedAddress s.layout.collectorUri)
  else if s.reading.mode = .block ∧ s.reading.blockRecords = 0 then .error .emptyBlocks
  else .ok ()

end Settings

end RecordFarm
