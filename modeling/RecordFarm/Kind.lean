/-!
# Message kinds

The kind of a message says which part of the protocol it belongs to. Each kind has a fixed
32-bit code. Reading a code gives the kind back, but for the code of `ignore`, which is never
sent and therefore reads as an unknown code.
-/

namespace RecordFarm

/-- What a message is for. -/
inductive Kind where
  /-- The message carries records. -/
  | process
  /-- The sender announces itself. -/
  | registration
  /-- The sender withdraws. -/
  | unregistration
  /-- The receiving element is to stop after this message. -/
  | exitRequest
  /-- The sender asks for the next item. -/
  | dataRequest
  /-- Every registered client is to see this message before any later one. -/
  | barrier
  /-- There is nothing to forward. -/
  | ignore
  /-- The stream is over. -/
  | endOfStream
  /-- A code that has no meaning here; such messages are forwarded untouched. -/
  | other (code : UInt32)
  deriving DecidableEq, Inhabited, Repr

namespace Kind

def code : Kind → UInt32
  | process => 2
  | registration => 4
  | unregistration => 5
  | exitRequest => 6
  | dataRequest => 7
  | barrier => 8
  | ignore => 0xFFFFFFFE
  | endOfStream => 0xFFFFFFFF
  | other code => code

/-- The kind that a code received from a peer stands for. -/
def ofCode (code : UInt32) : Kind :=
  if code = 2 then process
  else if code = 4 then registration
  else if code = 5 then unregistration
  else if code = 6 then exitRequest
  else if code = 7 then dataRequest
  else if code = 8 then barrier
  else if code = 0xFFFFFFFF then endOfStream
  else other code

/-- Whether messages of this kind may be sent to a peer. -/
def isWireVisible (kind : Kind) : Bool := kind != ignore

def text : Kind → String
  | process => "Process"
  | registration => "Registration"
  | unregistration => "Unregistration"
  | exitRequest => "ExitRequest"
  | dataRequest => "DataRequest"
  | barrier => "Barrier"
  | ignore => "Ignore"
  | endOfStream => "End"
  | other code => s!"Other({code.toNat})"

/-- Every code is the code of its own kind, known or not. -/
theorem code_ofCode (code : UInt32) : (ofCode code).code = code := by
  unfold ofCode
  repeat' split
  all_goals simp_all [Kind.code]

/-- No code on the wire means `ignore`. -/
theorem ofCode_ne_ignore (code : UInt32) : ofCode code ≠ ignore := by
  unfold ofCode
  repeat' split
  all_goals simp

end Kind

end RecordFarm
