import FlightLink.Code
import FlightLink.WireInteger

/-! The receiver's channel map: which channel carries which stick or switch. -/

namespace FlightLink

/-- Sticks and switches, in the order of the map. -/
inductive Control
  | roll
  | pitch
  | yaw
  | throttle
  | aux1
  deriving DecidableEq, Repr

def Control.index : Control → Nat
  | roll => 0
  | pitch => 1
  | yaw => 2
  | throttle => 3
  | aux1 => 4

/-- Entry `i` is the channel that carries control `i`. -/
structure ChannelMap where
  entries : Bytes
  deriving DecidableEq, Repr

namespace ChannelMap

def initial : ChannelMap := ⟨[]⟩

def channel? (map : ChannelMap) (index : Nat) : Option Nat :=
  map.entries[index]?.map UInt8.toNat

def decode (payload : Bytes) : Except Fault ChannelMap :=
  if payload.isEmpty then .error (.shortBuffer 1 0 0) else .ok ⟨payload⟩

def listing (map : ChannelMap) : String :=
  "[" ++ ", ".intercalate (map.entries.map fun entry => toString entry.toNat) ++ "]"

def text (map : ChannelMap) : String :=
  s!"RX Map: {map.listing}"

end ChannelMap
end FlightLink
