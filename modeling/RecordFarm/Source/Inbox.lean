import RecordFarm.Network
import RecordFarm.Service
/-!
# Reading an inbox

An inbox feeds an element with messages that other threads put there. The messages that are left
when the element disconnects are dropped.
-/

namespace RecordFarm

namespace InboxSocket

abbrev Task := SourceCall

abbrev Stepped := Progress Task Reply × InboxSocket × Network

def step : Task → InboxSocket → Network → Stepped
  | .connect, s, net => (.finished (.ok none), s, net)
  | .disconnect, s, net => (.finished (.ok none), s, s.drain net)
  | .release, s, net => (.finished (.ok none), s, s.close net)
  | .next, s, net =>
    match s.recv net with
    | none => (.waiting none, s, net)
    | some (m, net) => (.finished (.ok (some m)), s, net)
  | .register _, s, net => (.finished SourceCall.ignored, s, net)
  | .unregister _, s, net => (.finished SourceCall.ignored, s, net)

/-- The inbox as a source. -/
def source : Source Network InboxSocket Task where
  start := id
  step := step
  connector? s := some ⟨[.inbox s.number]⟩

end InboxSocket

end RecordFarm
