import FlightLink.Options
import FlightLink.Poller

/-! Settings of the program. They hold whatever was asked for; whether it can be
done is a separate question, which `violation?` answers. -/

namespace FlightLink

/-- The messages that can be subscribed to. -/
inductive Topic
  | imu
  | altitude
  | rc
  | rxMap
  deriving DecidableEq, Repr

namespace Topic

def all : List Topic := [imu, altitude, rc, rxMap]

def kind : Topic → Message.Kind
  | imu => .imu
  | altitude => .altitude
  | rc => .rc
  | rxMap => .rxMap

def name (topic : Topic) : String := topic.kind.name

def ofName? (name : String) : Option Topic :=
  all.find? (·.name == name)

/-- The short name used in diagnostic renderings. -/
def label : Topic → String
  | imu => "Imu"
  | altitude => "Altitude"
  | rc => "Rc"
  | rxMap => "RxMap"

end Topic

/-- A message that is to be polled and shown. -/
structure Subscription where
  topic : Topic
  hertz : Float32
  deriving BEq

/-- Whether the rate is none that settings may ask for. Settings are checked by themselves, before
there are pollers. -/
def Subscription.outOfBounds (subscription : Subscription) : Bool :=
  !subscription.hertz.isFinite || subscription.hertz ≤ 0 || 1000 < subscription.hertz

structure Settings where
  /-- The path of the serial port. -/
  port : String
  baud : Nat
  /-- Milliseconds that a read waits at most. -/
  timeout : Nat
  /-- The number of the protocol version to start with. -/
  versionNumber : Nat
  /-- Milliseconds between two attempts to set the vehicle up. -/
  retryInterval : Nat
  level : Log.Level
  subscriptions : List Subscription
  deriving BEq

namespace Settings

def default : Settings :=
  { port := "/dev/ttyACM0"
    baud := 115200
    timeout := 100
    versionNumber := 1
    retryInterval := 1000
    level := .full
    subscriptions := [⟨.imu, 100⟩, ⟨.altitude, 10⟩] }

/-- Line speeds that flight controllers offer. -/
def offeredBauds : List Nat :=
  [9600, 19200, 38400, 57600, 115200, 230400, 250000, 400000, 460800, 500000, 921600, 1000000,
    1500000, 2000000]

/-- A condition that settings do not meet. -/
inductive Violation
  | emptyPort
  | baud
  | timeout
  | version
  | retryInterval
  | frequency (subscription : Subscription)

def Violation.message : Violation → String
  | emptyPort => "serial port cannot be empty"
  | baud => "baud_rate must be one of: [" ++ ", ".intercalate (offeredBauds.map toString) ++ "]"
  | timeout => "timeout_ms must be between 1 and 10000"
  | version => "msp version must be 1 or 2"
  | retryInterval => "retry_interval_ms must be between 1 and 60000"
  | frequency subscription =>
    s!"{subscription.topic.label} callback frequency_hz must be in (0, 1000], got " ++
      Decimal.text Decimal.plain subscription.hertz

/-- The first condition that settings do not meet. -/
def violation? (settings : Settings) : Option Violation :=
  if settings.port.isEmpty then some .emptyPort
  else if settings.baud ∉ offeredBauds then some .baud
  else if settings.timeout = 0 ∨ 10000 < settings.timeout then some .timeout
  else if (Version.ofNumber? settings.versionNumber).isNone then some .version
  else if settings.retryInterval = 0 ∨ 60000 < settings.retryInterval then some .retryInterval
  else
    (settings.subscriptions.find? (·.outOfBounds)).map .frequency

/-- The version to start with; the first one when there is none of that number. -/
def version (settings : Settings) : Version :=
  (Version.ofNumber? settings.versionNumber).getD .v1

def options (settings : Settings) : Options :=
  { baud := settings.baud
    version := settings.version
    level := settings.level
    readTimeout := .ofMillis settings.timeout
    retryInterval := .ofMillis settings.retryInterval }

end Settings
end FlightLink
