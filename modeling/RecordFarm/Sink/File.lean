import RecordFarm.RecordWriter
import RecordFarm.Service
/-!
# Writing a record file

A record writer is a sink without peers. It never waits, whatever the world around it.
-/

namespace RecordFarm

namespace RecordWriter

abbrev Task := SinkCall

variable {ω : Type}

def serve : SinkCall → RecordWriter → Except Error Unit × RecordWriter
  | .send m, s => s.send m
  | .disconnect, s => (s.flush, s)
  | .connect, s => (.ok (), s)
  | .release, s => (.ok (), s)
  | call, s => (call.refused.map fun _ => (), s)

def step (call : Task) (s : RecordWriter) (w : ω) : Progress Task Reply × RecordWriter × ω :=
  let (result, s) := s.serve call
  (.finished (result.map fun _ => none), s, w)

/-- The writer as a sink. -/
def sink : Sink ω RecordWriter Task where
  start := id
  step := step
  connector? _ := none
  wantsInput s w := (true, s, w)
  isDrained _ _ := true

end RecordWriter

end RecordFarm
