import RecordFarm.Bytes
/-!
# Identities

Every client of an element is known by a 64-bit number. On the wire it is eight bytes, lowest
byte first.
-/

namespace RecordFarm

/-- The number that tells one client from another. -/
structure ClientId where
  val : UInt64
  deriving DecidableEq, Inhabited, Repr

namespace ClientId

def wireSize : Nat := 8

def toBytes (id : ClientId) : Bytes := Bytes.ofUInt64 id.val

/-- The identity whose wire form is given, if it has the right length. -/
def ofBytes? (bytes : Bytes) : Option ClientId := (Bytes.toUInt64? bytes).map ClientId.mk

def text (id : ClientId) : String := s!"ClientId({id.val.toNat})"

def le (a b : ClientId) : Bool := a.val ≤ b.val

theorem ofBytes?_toBytes (id : ClientId) : ofBytes? id.toBytes = some id := by
  simp [toBytes, ofBytes?, Bytes.toUInt64?_ofUInt64]

end ClientId

end RecordFarm
