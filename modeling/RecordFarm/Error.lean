import RecordFarm.ClientId
import RecordFarm.Kind
/-!
# What can go wrong

Errors are causes: one constructor for each thing that can go wrong, with the facts about it.
The wording stands in one place, in the `message` function of each type.

* `Violation`: a peer, a file or a caller broke a rule of the protocol.
* `TransportError`: an endpoint could not be bound, found, or reached.
* `Error`: what ends the run of an element.
-/

namespace RecordFarm

/-- Why the bytes at some position do not start with a whole record. -/
inductive SizeFault where
  /-- There is no room for the size. -/
  | short (left : Nat)
  /-- The size does not even cover itself. -/
  | tooSmall (size : Nat)
  /-- The size reaches beyond the block. -/
  | tooLarge (size left : Nat)
  deriving DecidableEq, Repr

inductive Violation where
  /-- An identity of the wrong length. -/
  | identityLength (got : Nat)
  /-- A message without the identity that its kind demands. -/
  | identityMissing (kind : Kind)
  /-- A block that does not hold the announced records. -/
  | badRecord (index count : Nat) (fault : SizeFault)
  /-- A block that goes on after the announced records. -/
  | trailingBytes (left count : Nat)
  /-- A block that is not a row of records. -/
  | badBlock (index : Nat) (fault : SizeFault)
  /-- A block whose length does not fit its header. -/
  | blockTooLarge (size : Nat)
  /-- A message that stays inside its element. -/
  | notOnWire (kind : Kind)
  /-- A received message with nothing in it. -/
  | noFrames
  /-- A first frame that is not a code. -/
  | typeFrameLength (got : Nat)
  /-- A batch was expected. -/
  | notProcess (kind : Kind)
  /-- A batch has a count and a block. -/
  | batchParts (got : Nat)
  /-- A count that is not a word. -/
  | countFrameLength (got : Nat)
  /-- A file that ends inside the size of a record. -/
  | truncatedHeader (after got : Nat)
  /-- A file in which a record is smaller than its own size. -/
  | sizeBelowHeader (record size : Nat)
  /-- A file that ends inside a record. -/
  | truncatedBody (record got wanted : Nat)
  /-- A message queued when the stream was over. -/
  | afterEnd (kind : Kind)
  /-- Messages queued behind the end of the stream. -/
  | endNotLast (queued discarded : Nat)
  /-- A sink whose peers never speak. -/
  | noPeerMessages
  /-- A sink that nobody can ask for items. -/
  | noPullRequests (id : ClientId)
  /-- A sink without clients was asked to admit one. -/
  | noRegistrations (id : ClientId)
  /-- A sink without clients was asked to let one go. -/
  | noUnregistrations (id : ClientId)
  /-- An element that only pushes was asked to serve. -/
  | pushOnly (element : String) (kind : Kind)
  /-- An element that takes no messages was sent one. -/
  | oneWay (element : String) (kind : Kind)
  /-- A rule of a component that is not part of this library. -/
  | custom (text : String)
  deriving DecidableEq, Repr

inductive TransportError where
  | notBound (uri : String)
  | addressInUse (uri : String)
  | roleMismatch (uri expected actual : String)
  | unknownPeer (id : ClientId)
  | disconnected (uri : String)
  deriving DecidableEq, Repr

/-- What ends the run of an element. -/
inductive Error where
  | violation (cause : Violation)
  | allocation (text : String)
  | transport (cause : TransportError)
  /-- A byte stream failed; the text is the system's. -/
  | stream (text : String)
  | notConnected (what : String)
  | sendClosed
  | receiveClosed
  | panicked (element : String)
  deriving DecidableEq, Repr

def SizeFault.message : SizeFault → String
  | short left => s!"only {left} bytes left"
  | tooSmall size => s!"size {size} is smaller than the length prefix"
  | tooLarge size left => s!"size {size} exceeds the {left} bytes left"

def Violation.message : Violation → String
  | identityLength got => s!"client identity must be 8 bytes, got {got}"
  | identityMissing kind => s!"{kind.text} message carries no sender identity"
  | badRecord index count fault => s!"record {index} of {count}: {fault.message}"
  | trailingBytes left count => s!"block holds {left} trailing bytes after {count} records"
  | badBlock index fault => s!"record {index} in block: {fault.message}"
  | blockTooLarge size => s!"record block of {size} bytes is too large"
  | notOnWire kind => s!"{kind.text} messages cannot be placed on the wire"
  | noFrames => "received a message with no frames"
  | typeFrameLength got => s!"type frame must be 4 bytes, got {got}"
  | notProcess kind => s!"expected a batched Process message, got {kind.text}"
  | batchParts got => s!"batched Process message needs 2 parts, got {got}"
  | countFrameLength got => s!"item count frame must be 4 bytes, got {got}"
  | truncatedHeader after got => s!"truncated record header after record {after}: {got} of 4 bytes"
  | sizeBelowHeader record size => s!"record {record} declares size {size}, below the 4-byte prefix"
  | truncatedBody record got wanted => s!"truncated record {record}: {got} of {wanted} body bytes"
  | afterEnd kind => s!"{kind.text} message sent after the end of the stream"
  | endNotLast queued discarded =>
    s!"END item is followed by {queued} queued messages ({discarded} assigned deliveries discarded)"
  | noPeerMessages => "sink carries no peer messages"
  | noPullRequests id => s!"sink does not serve pull requests (from {id.text})"
  | noRegistrations id => s!"sink does not accept registrations (from {id.text})"
  | noUnregistrations id => s!"sink does not accept unregistrations (from {id.text})"
  | pushOnly element kind => s!"'{element}' is a push source and cannot handle {kind.text}"
  | oneWay element kind => s!"'{element}' is a one-way element and cannot accept {kind.text}"
  | custom text => text

def TransportError.message : TransportError → String
  | notBound uri => s!"No endpoint bound at '{uri}'"
  | addressInUse uri => s!"Address '{uri}' is already bound"
  | roleMismatch uri expected actual =>
    s!"Endpoint '{uri}' is a {actual} endpoint, expected {expected}"
  | unknownPeer id => s!"Unknown peer {id.text}"
  | disconnected uri => s!"Endpoint '{uri}' disconnected"

def Error.message : Error → String
  | violation cause => s!"Protocol violation: {cause.message}"
  | allocation text => s!"Allocation failure: {text}"
  | transport cause => s!"Transport error: {cause.message}"
  | stream text => s!"IO error: {text}"
  | notConnected what => s!"Not connected: {what}"
  | sendClosed => "Channel send error"
  | receiveClosed => "Channel receive error"
  | panicked element => s!"Element '{element}' panicked"

/-- The wording of what an error wraps, outermost first. -/
def Error.causes : Error → List String
  | transport cause => [cause.message]
  | stream text => [text]
  | _ => []

instance : Coe Violation Error := ⟨.violation⟩

instance : Coe TransportError Error := ⟨.transport⟩

end RecordFarm
