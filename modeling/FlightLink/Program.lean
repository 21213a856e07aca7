import FlightLink.Options
import FlightLink.Progress

/-! Programs that talk to their surroundings. A program ends with a result, asks
one thing and goes on from the answer, or repeats a body until the body is done.
What an answer means is left to the surroundings: a scripted device under virtual
time, a terminal, or anything that a theorem quantifies over. Everything that
other activities can observe or change is a request, so programs may be
interleaved at their requests. -/

namespace FlightLink

/-- The state of a link that its lock guards. -/
structure Link where
  version : Version
  /-- How long payloads may be. Stored beside the version, and written with it. -/
  limit : Nat
  deriving DecidableEq, Repr

namespace Link

def new (version : Version) : Link := ⟨version, version.maxPayload⟩

/-- Speaks another version from now on. -/
def setVersion (link : Link) (version : Version) : Link :=
  { link with version, limit := version.maxPayload }

/-- The limit is that of the version. -/
def Coherent (link : Link) : Prop := link.limit = link.version.maxPayload

variable {version : Version}

theorem coherent_new : (new version).Coherent := rfl

/-- Both fields are written, so the limit follows whatever it was before. -/
theorem coherent_setVersion (link : Link) : (link.setVersion version).Coherent := rfl

end Link

/-- Receives the messages that a poller delivers. It may be scripted to fail after
it took its n-th delivery. -/
structure Subscriber where
  label : String
  failsAt : Option Nat
  deriving DecidableEq, Repr

/-- A poller, whether its activity runs or not. -/
structure PollerId where
  index : Nat
  deriving DecidableEq, Repr

/-- One run of a poller's activity. -/
structure ActivityId where
  index : Nat
  deriving DecidableEq, Repr

/-- How an activity ended. -/
inductive Ending
  | finished
  | crashed
  deriving DecidableEq, Repr

/-- What a poller counts. -/
inductive Tally
  | iteration
  | failure
  | overrun
  deriving DecidableEq, Repr

inductive Request
  /-- Opens a serial port; a failure says why. -/
  | connect (port : PortSettings)
  | isOpen
  | write (bytes : Bytes)
  | flush
  | read (count : Nat)
  | discardInput
  /-- Waits for the link and takes it. -/
  | acquire
  | release (link : Link)
  | now
  | sleep (span : Duration)
  | report (event : Log.Event)
  | enlist (kind : Message.Kind) (hertz : Float32) (period : Duration)
  /-- Marks a poller as wanted and starts an activity for it. -/
  | launch (poller : PollerId) (subscriber : Subscriber)
  /-- Marks a poller as unwanted and wakes it, now or at its next rest. -/
  | dismiss (poller : PollerId)
  /-- Takes the poller's activity from it, so that it is joined once. -/
  | claim (poller : PollerId)
  | join (activity : ActivityId)
  | isWanted (poller : PollerId)
  | count (poller : PollerId) (tally : Tally)
  | deliver (subscriber : Subscriber) (ordinal : Nat) (message : Message)
  /-- Waits until the deadline, or until the poller is woken. -/
  | rest (poller : PollerId) (deadline : Duration)

def Request.Answer : Request → Type
  | connect _ => Except PathFault Unit
  | isOpen => Bool
  | write _ => Except PortFault Nat
  | flush => Except PortFault Unit
  | read _ => Except PortFault Bytes
  | discardInput => Except PortFault Unit
  | acquire => Link
  | release _ => Unit
  | now => Duration
  | sleep _ => Unit
  | report _ => Unit
  | enlist .. => PollerId
  | launch .. => Unit
  | dismiss _ => Unit
  | claim _ => Option ActivityId
  | join _ => Ending
  | isWanted _ => Bool
  | count .. => Unit
  | deliver .. => Unit
  | rest .. => Unit

inductive Program : Type → Type 1
  | pure {α : Type} (result : α) : Program α
  | ask {α : Type} (request : Request) (next : request.Answer → Program α) : Program α
  | iterate {α σ β : Type} (body : σ → Program (Progress σ β)) (state : σ)
      (next : β → Program α) : Program α

namespace Program

def bind {α β : Type} : Program α → (α → Program β) → Program β
  | pure result, next => next result
  | ask request answered, next => ask request fun answer => (answered answer).bind next
  | iterate body state finished, next => iterate body state fun result => (finished result).bind next

instance : Monad Program where
  pure := pure
  bind := bind

/-- Repeats a body until it is done. -/
def loop {σ β : Type} (state : σ) (body : σ → Program (Progress σ β)) : Program β :=
  iterate body state pure

/-- One round of a repeated body, and what follows it. -/
def unfold {α σ β : Type} (body : σ → Program (Progress σ β)) (state : σ)
    (next : β → Program α) : Program α :=
  (body state).bind fun
    | .more state => iterate body state next
    | .done result => next result

theorem bind_pure {α : Type} (program : Program α) : program.bind pure = program := by
  induction program with
  | pure => rfl
  | ask request next ih => simp only [bind, ih]
  | iterate body state next _ ih => simp only [bind, ih]

theorem bind_assoc {α β γ : Type} (program : Program α) (first : α → Program β)
    (second : β → Program γ) :
    (program.bind first).bind second = program.bind fun result => (first result).bind second := by
  induction program with
  | pure => rfl
  | ask request next ih => simp only [bind, ih]
  | iterate body state next _ ih => simp only [bind, ih]

instance : LawfulMonad Program := LawfulMonad.mk' Program
  bind_pure (fun _ _ => rfl) bind_assoc

def connect (port : PortSettings) : Program (Except PathFault Unit) := ask (.connect port) pure
def isOpen : Program Bool := ask .isOpen pure
def write (bytes : Bytes) : Program (Except PortFault Nat) := ask (.write bytes) pure
def flush : Program (Except PortFault Unit) := ask .flush pure
def read (count : Nat) : Program (Except PortFault Bytes) := ask (.read count) pure
def discardInput : Program (Except PortFault Unit) := ask .discardInput pure
def acquire : Program Link := ask .acquire pure
def release (link : Link) : Program Unit := ask (.release link) pure
def now : Program Duration := ask .now pure
def sleep (span : Duration) : Program Unit := ask (.sleep span) pure
def report (event : Log.Event) : Program Unit := ask (.report event) pure
def enlist (kind : Message.Kind) (hertz : Float32) (period : Duration) : Program PollerId :=
  ask (.enlist kind hertz period) pure
def launch (poller : PollerId) (subscriber : Subscriber) : Program Unit :=
  ask (.launch poller subscriber) pure
def dismiss (poller : PollerId) : Program Unit := ask (.dismiss poller) pure
def claim (poller : PollerId) : Program (Option ActivityId) := ask (.claim poller) pure
def join (activity : ActivityId) : Program Ending := ask (.join activity) pure
def isWanted (poller : PollerId) : Program Bool := ask (.isWanted poller) pure
def count (poller : PollerId) (tally : Tally) : Program Unit := ask (.count poller tally) pure
def deliver (subscriber : Subscriber) (ordinal : Nat) (message : Message) : Program Unit :=
  ask (.deliver subscriber ordinal message) pure
def rest (poller : PollerId) (deadline : Duration) : Program Unit :=
  ask (.rest poller deadline) pure

end Program
end FlightLink
