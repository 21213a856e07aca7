import FlightLink.Code
import FlightLink.WireInteger

/-! Receiver channel values, as the flight controller sees them and as the host
overrides them. Both are lists of 16-bit values in payloads of two bytes per
channel. -/

namespace FlightLink

namespace Channel

/-- Bounds of the values that an override may carry. -/
def least : UInt16 := 1000

def greatest : UInt16 := 2000

def centre : UInt16 := 1500

def InRange (value : UInt16) : Prop := least ≤ value ∧ value ≤ greatest

instance (value : UInt16) : Decidable (InRange value) :=
  inferInstanceAs (Decidable (_ ∧ _))

def listing (values : List UInt16) : String :=
  "[" ++ ", ".intercalate (values.map fun value => toString value.toNat) ++ "]"

def text (values : List UInt16) : String :=
  s!"RC Channels: {listing values}"

end Channel

/-- Channel values as the flight controller sees them. -/
structure ReceiverChannels where
  values : List UInt16
  deriving DecidableEq, Repr

namespace ReceiverChannels

def initial : ReceiverChannels := ⟨[]⟩

def channel? (channels : ReceiverChannels) (index : Nat) : Option UInt16 :=
  channels.values[index]?

/-- Bytes taken two at a time, low byte first. A byte left over is dropped. -/
def pairs : Bytes → List UInt16
  | low :: high :: rest => UInt16.ofNat (LittleEndian.value [low, high]) :: pairs rest
  | _ => []

def decode (payload : Bytes) : Except Fault ReceiverChannels :=
  if payload.isEmpty ∨ payload.length % 2 ≠ 0 then
    .error (.unpairedChannels payload.length)
  else
    .ok ⟨pairs payload⟩

def text (channels : ReceiverChannels) : String :=
  Channel.text channels.values

end ReceiverChannels

/-- Channel values that take the place of the receiver's. -/
structure ChannelOverride where
  values : List UInt16
  deriving DecidableEq, Repr

namespace ChannelOverride

def initial : ChannelOverride := ⟨[]⟩

/-- Sets one channel. The value has to be in range and the channel has to exist. -/
def set (override : ChannelOverride) (index : Nat) (value : UInt16) :
    Except Fault ChannelOverride :=
  if Channel.InRange value ∧ index < override.values.length then
    .ok ⟨override.values.set index value⟩
  else
    .error (.outOfRange index value)

/-- Writes the channels one after another behind what a buffer has. -/
def append (override : ChannelOverride) (buffer : Bytes) : Bytes :=
  override.values.foldl (fun written value => WireInteger.u16.append written value.toNat) buffer

/-- Two bytes per channel, low byte first. -/
def encode (override : ChannelOverride) : Bytes :=
  override.append []

def text (override : ChannelOverride) : String :=
  Channel.text override.values

theorem append_eq (override : ChannelOverride) (buffer : Bytes) : override.append buffer =
    buffer ++ override.values.flatMap fun value => LittleEndian.bytes 2 value.toNat := by
  have spelled (value : UInt16) :
      WireInteger.u16.encode value.toNat = LittleEndian.bytes 2 value.toNat := by
    have small : (value.toNat : Int) % (65536 : Nat) = value.toNat :=
      Int.emod_eq_of_lt (Int.natCast_nonneg _) (Int.ofNat_lt.mpr value.toNat_lt)
    change LittleEndian.bytes 2 ((value.toNat : Int) % (65536 : Nat)).toNat = _
    rw [small, Int.toNat_natCast]
  simp only [append, WireInteger.append, spelled, List.foldl_append_eq_append, List.flatMap_def]

theorem encode_eq (override : ChannelOverride) : override.encode =
    override.values.flatMap fun value => LittleEndian.bytes 2 value.toNat :=
  override.append_eq []

end ChannelOverride
end FlightLink
