import FlightLink.Exchange

/-! Calls on a link as data, so that a sequence of calls is a list. The calls that
take a payload over share one buffer, which keeps its content between them. -/

namespace FlightLink

inductive Call
  | send (code : UInt16) (payload : Bytes)
  | receive
  /-- Receives into the shared buffer. -/
  | receiveInto
  | request (code : UInt16) (payload : Bytes)
  | receiveAnswer (code : UInt16)
  | exchange (code : UInt16) (payload : Bytes)
  | discardInput
  | switch (version : Version)
  deriving DecidableEq, Repr

/-- What a call comes back with when it succeeds. -/
inductive Reply
  | done
  | code (code : UInt16)
  | frame (code : UInt16) (payload : Bytes)
  deriving DecidableEq, Repr

/-- What a call leaves. -/
structure Called where
  link : Link
  buffer : Bytes
  outcome : Except Fault Reply

namespace Call

/-- Whether a call writes to the shared buffer. -/
def fillsBuffer : Call → Bool
  | receiveInto | receiveAnswer _ | exchange .. => true
  | _ => false

def perform (link : Link) (buffer : Bytes) : Call → Program Called
  | send code payload => do
    let outcome ← link.send code payload
    return ⟨link, buffer, outcome.map fun _ => .done⟩
  | receive => do
    let received ← link.receive []
    return ⟨received.link, buffer, received.outcome.map (.frame · received.payload)⟩
  | receiveInto => do
    let received ← link.receive buffer
    return ⟨received.link, received.payload, received.outcome.map .code⟩
  | request code payload => do
    let received ← link.request code payload
    return ⟨received.link, buffer, received.outcome.map (.frame · received.payload)⟩
  | receiveAnswer code => do
    let received ← link.receiveAnswer code buffer
    return ⟨received.link, received.payload, received.outcome.map fun _ => .done⟩
  | exchange code payload => do
    let received ← link.exchange code payload buffer
    return ⟨received.link, received.payload, received.outcome.map fun _ => .done⟩
  | discardInput => do
    let outcome ← link.discardInput
    return ⟨link, buffer, outcome.map fun _ => .done⟩
  | switch version => do
    return ⟨← link.switch version, buffer, .ok .done⟩

/-- Performs calls one after another, each with the link and the buffer that the one before it left. -/
def performAll (link : Link) (buffer : Bytes) : List Call → Program (List Called)
  | [] => return []
  | call :: rest => do
    let called ← perform link buffer call
    let later ← performAll called.link called.buffer rest
    return called :: later

end Call
end FlightLink
