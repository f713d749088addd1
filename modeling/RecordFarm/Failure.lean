import RecordFarm.Settings.Basic
/-!
# Why a run failed

The failure of a run is an error of an element or of the settings, with any number of notes about
what was being done. A note wraps the failure below it.
-/

namespace RecordFarm

inductive Failure where
  | element (cause : Error)
  | settings (cause : SettingsError)
  /-- The failure came about while this was being done. -/
  | during (note : String) (cause : Failure)
  deriving DecidableEq, Repr

namespace Failure

def message : Failure → String
  | element cause => s!"Pipeline error: {cause.message}"
  | settings cause => s!"Configuration error: {cause.message}"
  | during note cause => note ++ ": " ++ cause.message

/-- The wordings of all that the failure wraps, outermost first. -/
def causes : Failure → List String
  | element cause => cause.message :: cause.causes
  | settings _ => []
  | during _ cause => cause.message :: cause.causes

end Failure

end RecordFarm
