import FlightLink.Options
import FlightLink.Poller

/-! The vehicle behind the link. Setting it up waits until its channel map is known
and its channels are in a safe state: every channel centred and throttle at its
least. A command changes a copy of the channels, sends it, and keeps it only when
it is on the wire; an acknowledgement is read but decides nothing. -/

namespace FlightLink

structure Vehicle where
  map : ChannelMap
  /-- The channel values last sent. -/
  channels : ChannelOverride
  pollers : List Poller
  options : Options

namespace Vehicle

/-- The switch position that arms. -/
def armed : UInt16 := Channel.least

/-- The switch position that disarms. -/
def disarmed : UInt16 := Channel.greatest

/-- The channel that carries a control. A control that the map does not cover is
out of range under its own number. -/
def channel (map : ChannelMap) (control : Control) (value : UInt16) : Except Fault Nat :=
  match map.channel? control.index with
  | some channel => .ok channel
  | none => .error (.outOfRange control.index value)

/-- Channels with some controls set, one after another. -/
def place (map : ChannelMap) (channels : ChannelOverride) :
    List (Control × UInt16) → Except Fault ChannelOverride
  | [] => .ok channels
  | (control, value) :: rest => do
    let index ← channel map control value
    let channels ← channels.set index value
    place map channels rest

/-- Every channel centred and throttle at its least. -/
def safe (map : ChannelMap) (count : Nat) : Except Fault ChannelOverride :=
  place map ⟨List.replicate count Channel.centre⟩ [(.throttle, Channel.least)]

/-- Sends channel values and reads the acknowledgement if one comes. Only the
sending decides: a flight controller that does not take overrides refuses them or
stays silent. -/
def sendChannels (channels : ChannelOverride) : Program (Except Fault Unit) :=
  Link.locked fun link => do
    let code := Code.setRawRc
    match ← link.send code.number channels.encode with
    | .error fault => return (link, .error fault)
    | .ok () =>
      let received ← link.receiveAnswer code.number []
      match received.outcome with
      | .error fault => Program.report (.unacknowledged code fault)
      | .ok () => pure ()
      return (received.link, .ok ())

/-- Sends channel values and keeps them when they are on the wire. -/
def commit (vehicle : Vehicle) (channels : Except Fault ChannelOverride) :
    Program (Vehicle × Except Fault Unit) := do
  match channels with
  | .error fault => return (vehicle, .error fault)
  | .ok channels =>
    match ← sendChannels channels with
    | .error fault => return (vehicle, .error fault)
    | .ok () => return ({ vehicle with channels }, .ok ())

/-- Sets some controls and leaves the other channels as they are. -/
def steer (vehicle : Vehicle) (updates : List (Control × UInt16)) :
    Program (Vehicle × Except Fault Unit) :=
  vehicle.commit (place vehicle.map vehicle.channels updates)

/-- Brings as many channels as the flight controller has into the safe state. -/
def tryReset (vehicle : Vehicle) : Program (Vehicle × Except Fault Unit) := do
  let (read, outcome) ← tryRead Message.Kind.rc.initial
  match outcome, read with
  | .error fault, _ => return (vehicle, .error fault)
  | .ok (), .rc received => vehicle.commit (safe vehicle.map received.values.length)
  | .ok (), _ => return (vehicle, .error (.unsupported .decoding))

/-- Reads the channel map. -/
def tryRegisterMap (vehicle : Vehicle) : Program (Vehicle × Except Fault Unit) := do
  let (read, outcome) ← tryRead Message.Kind.rxMap.initial
  match outcome, read with
  | .error fault, _ => return (vehicle, .error fault)
  | .ok (), .rxMap map => return ({ vehicle with map }, .ok ())
  | .ok (), _ => return (vehicle, .error (.unsupported .decoding))

/-- Repeats an attempt until it succeeds, with a pause after each failure. -/
def persist (pause : Duration) (unavailable : Fault → Duration → Log.Event)
    (attempt : Vehicle → Program (Vehicle × Except Fault Unit)) (vehicle : Vehicle) :
    Program Vehicle :=
  Program.loop vehicle fun vehicle => do
    let (vehicle, outcome) ← attempt vehicle
    match outcome with
    | .ok () => return .done vehicle
    | .error fault =>
      Program.report (unavailable fault pause)
      Program.sleep pause
      return .more vehicle

/-- Sets the vehicle up: asks for the channel map until there is one, and tries a reset until it passes.
The map is kept for good, so this never ends with one that has no usable throttle. -/
def start (options : Options) : Program Vehicle := do
  let pause := options.retryInterval
  let vehicle : Vehicle := ⟨.initial, .initial, [], options⟩
  let vehicle ← persist pause .mapUnavailable tryRegisterMap vehicle
  Program.report (.mapRegistered vehicle.map)
  let vehicle ← persist pause .resetUnavailable tryReset vehicle
  Program.report (.channelsReset vehicle.channels)
  return vehicle

/-- Opens a port and sets up the vehicle behind it. -/
def connect (path : String) (options : Options) : Program (Except Fault Vehicle) := do
  match ← openPort (options.port path) with
  | .error fault => return .error fault
  | .ok () => return .ok (← start options)

/-- Reads a message and logs why when that fails. -/
def read (message : Message) : Program (Message × Bool) := do
  let (message, outcome) ← tryRead message
  match outcome with
  | .ok () => return (message, true)
  | .error fault =>
    Program.report (.readFailed message.code fault)
    return (message, false)

/-- Whether a command passed. The log says why when it did not. -/
def verdict (command : Log.Command) : Vehicle × Except Fault Unit → Program (Vehicle × Bool)
  | (vehicle, .ok ()) => return (vehicle, true)
  | (vehicle, .error fault) => do
    Program.report (.commandFailed command fault)
    return (vehicle, false)

def arm (vehicle : Vehicle) : Program (Vehicle × Bool) := do
  verdict .arm (← vehicle.steer [(.aux1, armed)])

def disarm (vehicle : Vehicle) : Program (Vehicle × Bool) := do
  verdict .disarm (← vehicle.steer [(.aux1, disarmed)])

/-- Commands the four sticks. -/
def setSticks (vehicle : Vehicle) (throttle roll pitch yaw : UInt16) :
    Program (Vehicle × Bool) := do
  verdict .setSticks (← vehicle.steer
    [(.roll, roll), (.pitch, pitch), (.yaw, yaw), (.throttle, throttle)])

def reset (vehicle : Vehicle) : Program (Vehicle × Bool) := do
  verdict .resetChannels (← vehicle.tryReset)

/-- Polls a message for as long as the vehicle is in use. -/
def register (vehicle : Vehicle) (kind : Message.Kind) (hertz : Float32)
    (subscriber : Subscriber) : Program (Vehicle × Except Fault Unit) := do
  match ← Poller.start kind hertz subscriber with
  | .error fault => return (vehicle, .error fault)
  | .ok poller =>
    Program.report (.callbackRegistered kind.code hertz)
    return ({ vehicle with pollers := vehicle.pollers ++ [poller] }, .ok ())

/-- Stops pollers one after another. -/
def stopAll : List Poller → Program Unit
  | [] => return ()
  | poller :: rest => do
    poller.stop
    stopAll rest

/-- Stops every registered poller. -/
def stopPollers (vehicle : Vehicle) : Program Vehicle := do
  stopAll vehicle.pollers
  return { vehicle with pollers := [] }

/-- Drops pollers one after another. -/
def dropAll : List Poller → Program Unit
  | [] => return ()
  | poller :: rest => do
    poller.drop
    dropAll rest

/-- Gives the vehicle up without waiting, and its registered pollers with it. -/
def leave (vehicle : Vehicle) : Program Vehicle := do
  dropAll vehicle.pollers
  return { vehicle with pollers := [] }

def shutDown (vehicle : Vehicle) : Program Unit := do
  let _ ← vehicle.stopPollers
  Program.report .shutDown

/-- The diagnostic rendering. -/
def text (vehicle : Vehicle) : String :=
  "Interface \x7b rx_map: RXMap \x7b " ++ s!"map: {vehicle.map.listing}" ++
    " \x7d, rc_out: RCRawOut \x7b " ++ s!"channels: {Channel.listing vehicle.channels.values}" ++
    " \x7d, " ++ s!"callbacks: {vehicle.pollers.length}, options: {vehicle.options.text}" ++ " \x7d"

end Vehicle
end FlightLink
