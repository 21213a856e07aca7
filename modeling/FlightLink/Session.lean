import FlightLink.Vehicle

/-! Sessions with a vehicle in the foreground. A session keeps the vehicle, one
message of each kind, and pollers of its own under names. What it does is a list of
operations. -/

namespace FlightLink

structure Session where
  vehicle : Vehicle
  messages : List (Message.Kind × Message)
  pollers : List (String × Poller)

inductive Operation
  | arm
  | disarm
  | setSticks (throttle roll pitch yaw : UInt16)
  | reset
  | read (kind : Message.Kind)
  | tryRead (kind : Message.Kind)
  | register (kind : Message.Kind) (hertz : Float32) (subscriber : Subscriber)
  | start (name : String) (kind : Message.Kind) (hertz : Float32) (subscriber : Subscriber)
  | stop (name : String)
  | resubscribe (name : String) (subscriber : Subscriber)
  | drop (name : String)
  | stopPollers
  | sleep (span : Duration)
  | hold (span : Duration)
  | transact (code : UInt16) (payload : Bytes)
  | discardInput
  | switch (version : Version)
  | shutDown

/-- What an operation comes back with. -/
inductive Operation.Result
  | done
  | passed (passed : Bool)
  | failed (fault : Fault)
  | read (passed : Bool) (message : Message)
  | refreshed (outcome : Except Fault Unit) (message : Message)
  | transacted (outcome : Except Fault Unit) (payload : Bytes)

namespace Session

def start (vehicle : Vehicle) : Session := ⟨vehicle, [], []⟩

/-- The message of a kind, fresh if none was read so far. -/
def message (session : Session) (kind : Message.Kind) : Message :=
  (session.messages.lookup kind).getD kind.initial

def keep (session : Session) (message : Message) : Session :=
  { session with
    messages := (message.kind, message) :: session.messages.filter (·.1 ≠ message.kind) }

def poller? (session : Session) (name : String) : Option Poller :=
  session.pollers.lookup name

def result : Except Fault Unit → Operation.Result
  | .ok () => .done
  | .error fault => .failed fault

/-- Does something with a poller of the session; without that poller nothing happens. -/
def withPoller (session : Session) (name : String) (act : Poller → Program Unit) :
    Program Unit :=
  match session.poller? name with
  | some poller => act poller
  | none => return ()

/-- Starts a poller under a name. One that has the name already is dropped. -/
def startPoller (session : Session) (name : String) (kind : Message.Kind) (hertz : Float32)
    (subscriber : Subscriber) : Program (Session × Operation.Result) := do
  match ← Poller.start kind hertz subscriber with
  | .error fault => return (session, .failed fault)
  | .ok poller =>
    session.withPoller name Poller.drop
    let pollers := session.pollers.filter (·.1 ≠ name) ++ [(name, poller)]
    return ({ session with pollers }, .done)

def perform (session : Session) : Operation → Program (Session × Operation.Result)
  | .arm => do
    let (vehicle, passed) ← session.vehicle.arm
    return ({ session with vehicle }, .passed passed)
  | .disarm => do
    let (vehicle, passed) ← session.vehicle.disarm
    return ({ session with vehicle }, .passed passed)
  | .setSticks throttle roll pitch yaw => do
    let (vehicle, passed) ← session.vehicle.setSticks throttle roll pitch yaw
    return ({ session with vehicle }, .passed passed)
  | .reset => do
    let (vehicle, passed) ← session.vehicle.reset
    return ({ session with vehicle }, .passed passed)
  | .read kind => do
    let (message, passed) ← Vehicle.read (session.message kind)
    return (session.keep message, .read passed message)
  | .tryRead kind => do
    let (message, outcome) ← FlightLink.tryRead (session.message kind)
    return (session.keep message, .refreshed outcome message)
  | .register kind hertz subscriber => do
    let (vehicle, outcome) ← session.vehicle.register kind hertz subscriber
    return ({ session with vehicle }, result outcome)
  | .start name kind hertz subscriber => session.startPoller name kind hertz subscriber
  | .stop name => do
    session.withPoller name Poller.stop
    return (session, .done)
  | .resubscribe name subscriber => do
    session.withPoller name (·.resubscribe subscriber)
    return (session, .done)
  | .drop name => do
    session.withPoller name Poller.drop
    return ({ session with pollers := session.pollers.filter (·.1 ≠ name) }, .done)
  | .stopPollers => do
    return ({ session with vehicle := ← session.vehicle.stopPollers }, .done)
  | .sleep span => do
    Program.sleep span
    return (session, .done)
  | .hold span => do
    Link.hold span
    return (session, .done)
  | .transact code payload => do
    let (outcome, answer) ← FlightLink.transact code payload []
    return (session, .transacted outcome answer)
  | .discardInput => do
    let outcome ← Link.locked fun link => do return (link, ← link.discardInput)
    return (session, result outcome)
  | .switch version => do
    Link.locked fun link => do return (← link.switch version, ())
    return (session, .done)
  | .shutDown => do
    session.vehicle.shutDown
    return (session, .done)

/-- Performs operations one after another. -/
def performAll (session : Session) : List Operation → Program Session
  | [] => return session
  | operation :: rest => do
    let (session, _) ← session.perform operation
    session.performAll rest

end Session
end FlightLink
