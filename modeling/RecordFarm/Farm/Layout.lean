/-!
# The layout of a farm
-/

namespace RecordFarm

namespace Farm

/-- How many workers a farm has, and where its elements meet. -/
structure Layout where
  workers : Nat := 4
  /-- The address at which the workers ask for records. -/
  distributorUri : String := "inproc://swtrigger/distributor"
  /-- The address at which the workers hand in what they made. -/
  collectorUri : String := "inproc://swtrigger/collector"
  /-- With so many messages queued the distributor stops reading its source. -/
  highWaterMark : Nat := 1024
  deriving DecidableEq, Inhabited, Repr

end Farm

end RecordFarm
