import FlightLink.Message.Altitude
import FlightLink.Message.ChannelMap
import FlightLink.Message.Channels
import FlightLink.Message.Imu

/-! The messages with a schema. All but the channel override are read from the
flight controller; the override alone is sent to it. -/

namespace FlightLink

/-- The kinds of message. -/
inductive Message.Kind
  | imu
  | altitude
  | rxMap
  | rc
  | override
  deriving DecidableEq, Repr

inductive Message
  | imu (readings : Imu)
  | altitude (estimate : Altitude)
  | rxMap (map : ChannelMap)
  | rc (channels : ReceiverChannels)
  | override (channels : ChannelOverride)

namespace Message

def Kind.all : List Kind := [.imu, .altitude, .rxMap, .rc, .override]

def Kind.name : Kind → String
  | imu => "imu"
  | altitude => "altitude"
  | rxMap => "rx_map"
  | rc => "rc"
  | override => "rc_out"

def Kind.ofName? (name : String) : Option Kind :=
  all.find? (·.name == name)

def Kind.code : Kind → Code
  | imu => .rawImu
  | altitude => .altitude
  | rxMap => .rxMap
  | rc => .rc
  | override => .setRawRc

/-- The message before anything was read. -/
def Kind.initial : Kind → Message
  | imu => .imu .initial
  | altitude => .altitude .initial
  | rxMap => .rxMap .initial
  | rc => .rc .initial
  | override => .override .initial

def kind : Message → Kind
  | imu _ => .imu
  | altitude _ => .altitude
  | rxMap _ => .rxMap
  | rc _ => .rc
  | override _ => .override

def code (message : Message) : Code := message.kind.code

/-- The message of a kind that a payload carries. -/
def Kind.decode (payload : Bytes) : Kind → Except Fault Message
  | imu => Message.imu <$> Imu.decode payload
  | altitude => Message.altitude <$> Altitude.decode payload
  | rxMap => Message.rxMap <$> ChannelMap.decode payload
  | rc => Message.rc <$> ReceiverChannels.decode payload
  | override => .error (.unsupported .decoding)

/-- Takes over what a payload carries. A payload that does not fit the schema
leaves the message as it was. -/
def refresh (message : Message) (payload : Bytes) : Message × Except Fault Unit :=
  match message.kind.decode payload with
  | .ok decoded => (decoded, .ok ())
  | .error fault => (message, .error fault)

/-- Writes the payload to send behind what a buffer has. A message that is not sent
leaves the buffer as it was. -/
def append (buffer : Bytes) : Message → Bytes × Except Fault Unit
  | override channels => (channels.append buffer, .ok ())
  | _ => (buffer, .error (.unsupported .encoding))

def text : Message → String
  | imu readings => readings.text
  | altitude estimate => estimate.text
  | rxMap map => map.text
  | rc channels => channels.text
  | override channels => channels.text

end Message
end FlightLink
