import FlightLink.Program
import FlightLink.Quoted
import FlightLink.Reception

/-! Exchanges over a link: sending one request, receiving one frame, waiting for
the answer to a request, and the whole transaction under the link's lock. A fault
that announces the other wire format makes the link change over to it. -/

namespace FlightLink

/-- What a receiving step leaves: the link, which may have changed over, the
outcome, and the content of the payload buffer. -/
structure Received (α : Type) where
  link : Link
  outcome : Except Fault α
  payload : Bytes

/-- Opens a serial port. -/
def openPort (port : PortSettings) : Program (Except Fault Unit) := do
  Program.report (.opening port.path)
  match ← Program.connect port with
  | .error reason => return .error (.openFailed port.path reason)
  | .ok () =>
    Program.report (.opened port.path port.baud)
    return .ok ()

/-- Receives one frame in the given wire format. -/
def receiveFrame (version : Version) : Program Receipt :=
  Program.loop Reception.preamble fun phase => do
    let delivered ← Program.read (phase.awaited version)
    return phase.advance version delivered

namespace Link

/-- The diagnostic rendering of a link over a port that may have a name. -/
def text (link : Link) (port : Option String) : String :=
  let shown := match port with
    | some name => "Some(" ++ Quoted.encode name ++ ")"
    | none => "None"
  "Msp \x7b " ++ s!"port: {shown}, version: {link.version.label}, " ++
    s!"max_payload_bytes: {link.limit}" ++ " \x7d"

/-- Changes over to a version, which is worth a line only when it is another one. -/
def switch (link : Link) (version : Version) : Program Link := do
  if version ≠ link.version then
    Program.report (.switched link.version version)
  return link.setVersion version

/-- Packs a request and puts it on the wire. The limit itself is refused too. -/
def send (link : Link) (code : UInt16) (payload : Bytes) : Program (Except Fault Unit) := do
  if !(← Program.isOpen) then
    return .error .portClosed
  if link.limit ≤ payload.length then
    return .error (.payloadTooLarge payload.length link.limit)
  match Frame.pack link.version code payload with
  | .error fault => return .error fault
  | .ok frame =>
    match ← Program.write frame with
    | .error fault => return .error (.port fault)
    | .ok written =>
      if written < frame.length then
        return .error (.shortWrite written frame.length)
      match ← Program.flush with
      | .error fault => return .error (.port fault)
      | .ok () =>
        Program.report (.sent code payload.length)
        return .ok ()

/-- Receives one frame. A closed port leaves the buffer as it was. -/
def receive (link : Link) (buffer : Bytes) : Program (Received UInt16) := do
  if !(← Program.isOpen) then
    return ⟨link, .error .portClosed, buffer⟩
  let receipt ← receiveFrame link.version
  match receipt.code with
  | .error (.versionMismatch expected received) =>
    Program.report (.mismatch expected received)
    let link ← link.switch received
    return ⟨link, .error (.versionMismatch expected received), receipt.payload⟩
  | outcome => return ⟨link, outcome, receipt.payload⟩

/-- The code that a received frame answers, when it answers another request than
the one with `code`. A refusal of another request counts as its answer. -/
def staleCode? (code : UInt16) : Except Fault UInt16 → Option UInt16
  | .ok received => if received = code then none else some received
  | .error (.rejected received) => if received = code then none else some received
  | .error _ => none

/-- How many frames are received for one answer before giving up. -/
def patience : Nat := 8

/-- A received frame taken as the answer to `code`. -/
def asAnswer (code : UInt16) (received : Received UInt16) : Received Unit :=
  match staleCode? code received.outcome with
  | some stale => ⟨received.link, .error (.codeMismatch code stale), received.payload⟩
  | none => ⟨received.link, received.outcome.map fun _ => (), received.payload⟩

/-- Waits for the answer to `code`, dropping at most `spare` answers to others. -/
def awaitAnswer (code : UInt16) : (spare : Nat) → Link → Bytes → Program (Received Unit)
  | 0, link, buffer => do
    return asAnswer code (← link.receive buffer)
  | spare + 1, link, buffer => do
    let received ← link.receive buffer
    match staleCode? code received.outcome with
    | some stale =>
      Program.report (.dropped stale code)
      awaitAnswer code spare received.link received.payload
    | none => return asAnswer code received

/-- Waits for the answer to `code`. Late answers to earlier requests come first
and are dropped. -/
def receiveAnswer (link : Link) (code : UInt16) (buffer : Bytes) : Program (Received Unit) :=
  awaitAnswer code (patience - 1) link buffer

/-- Sends a request and receives the next frame, whatever it answers. -/
def request (link : Link) (code : UInt16) (payload : Bytes) : Program (Received UInt16) := do
  match ← link.send code payload with
  | .error fault => return ⟨link, .error fault, []⟩
  | .ok () => link.receive []

/-- Sends a request and waits for its answer. -/
def exchange (link : Link) (code : UInt16) (payload buffer : Bytes) :
    Program (Received Unit) := do
  match ← link.send code payload with
  | .error fault => return ⟨link, .error fault, buffer⟩
  | .ok () => link.receiveAnswer code buffer

/-- Drops all input that waits. -/
def discardInput (_link : Link) : Program (Except Fault Unit) := do
  return (← Program.discardInput).mapError Fault.port

/-- Runs a program with the link in hand. -/
def locked {α : Type} (body : Link → Program (Link × α)) : Program α := do
  let link ← Program.acquire
  let (link, result) ← body link
  Program.release link
  return result

/-- Keeps the link from everybody else for a while. -/
def hold (span : Duration) : Program Unit :=
  locked fun link => do
    Program.sleep span
    return (link, ())

end Link

/-- One transaction: the lock is held from the request to its answer. -/
def transact (code : UInt16) (payload buffer : Bytes) : Program (Except Fault Unit × Bytes) :=
  Link.locked fun link => do
    let received ← link.exchange code payload buffer
    return (received.link, received.outcome, received.payload)

/-- Asks for a message and takes over the answer. Any failure leaves the message
as it was. -/
def tryRead (message : Message) : Program (Message × Except Fault Unit) := do
  let (outcome, payload) ← transact message.code.number [] []
  match outcome with
  | .error fault => return (message, .error fault)
  | .ok () => return message.refresh payload

end FlightLink
