import RecordFarm.Error
/-!
# Messages

A message is what elements hand to each other: a kind and a list of byte strings. Registrations,
unregistrations and data requests carry the sender's identity as their first part.
-/

namespace RecordFarm

/-- The unit of communication. -/
structure Message where
  kind : Kind
  parts : List Bytes
  deriving DecidableEq, Inhabited, Repr

namespace Message

/-- A message without parts. -/
def control (kind : Kind) : Message := ⟨kind, []⟩

def process (parts : List Bytes) : Message := ⟨.process, parts⟩

/-- A message that every client is to see. -/
def barrier (parts : List Bytes) : Message := ⟨.barrier, parts⟩

def endOfStream : Message := control .endOfStream

/-- The message that stands for having nothing to forward. -/
def ignore : Message := control .ignore

def exitRequest : Message := control .exitRequest

/-- The message by which a client announces itself. -/
def registration (id : ClientId) : Message := ⟨.registration, [id.toBytes]⟩

/-- The message by which a client withdraws. -/
def unregistration (id : ClientId) : Message := ⟨.unregistration, [id.toBytes]⟩

/-- The message by which a client asks for an item. -/
def dataRequest (id : ClientId) : Message := ⟨.dataRequest, [id.toBytes]⟩

def isEnd (m : Message) : Bool := m.kind == .endOfStream

def byteLength (m : Message) : Nat := m.parts.flatten.length

/-- The sender's identity, which is the first part. -/
def identity (m : Message) : Except Violation ClientId :=
  match m.parts with
  | [] => .error (.identityMissing m.kind)
  | part :: _ =>
    match ClientId.ofBytes? part with
    | some id => .ok id
    | none => .error (.identityLength part.length)

/-- How a message is shown: its kind and the lengths of its parts. -/
def text (m : Message) : String :=
  let sizes := ", ".intercalate (m.parts.map fun part => toString part.length)
  s!"Message \x7b kind: {m.kind.text}, part_sizes: [{sizes}] \x7d"

@[simp] theorem identity_registration (id : ClientId) : (registration id).identity = .ok id := by
  simp [identity, registration, ClientId.ofBytes?_toBytes]

@[simp] theorem identity_unregistration (id : ClientId) :
    (unregistration id).identity = .ok id := by
  simp [identity, unregistration, ClientId.ofBytes?_toBytes]

@[simp] theorem identity_dataRequest (id : ClientId) : (dataRequest id).identity = .ok id := by
  simp [identity, dataRequest, ClientId.ofBytes?_toBytes]

end Message

end RecordFarm
