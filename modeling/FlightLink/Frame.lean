import FlightLink.Checksum
import FlightLink.Fault

/-! Frames as they stand on the wire: preamble, marker, header, payload and
checksum. Host and flight controller write the same layout and differ in the
direction byte, which no checksum covers. -/

namespace FlightLink

structure Frame where
  direction : UInt8
  /-- Carried by MSPv2 only. -/
  flag : UInt8
  code : UInt16
  payload : Bytes
  deriving DecidableEq, Repr

namespace Frame

/-- The dollar sign that opens every frame. -/
def preamble : UInt8 := 0x24

/-- Direction of a request from the host: a less-than sign. -/
def request : UInt8 := 0x3C

/-- Direction of an answer of the device: a greater-than sign. -/
def answer : UInt8 := 0x3E

/-- Direction of a refusal by the device: an exclamation mark. -/
def refusal : UInt8 := 0x21

/-- Whether the version's length and code fields can hold the frame. -/
def Fits (version : Version) (frame : Frame) : Prop :=
  frame.payload.length ≤ version.maxPayload ∧ (version = .v1 → frame.code.toNat < 256)

instance (version : Version) (frame : Frame) : Decidable (frame.Fits version) :=
  inferInstanceAs (Decidable (_ ∧ _))

/-- The bytes between marker and payload. -/
def header (version : Version) (frame : Frame) : Bytes :=
  match version with
  | .v1 => [frame.direction, UInt8.ofNat frame.payload.length, UInt8.ofNat frame.code.toNat]
  | .v2 =>
    frame.direction :: frame.flag ::
      (LittleEndian.bytes 2 frame.code.toNat ++ LittleEndian.bytes 2 frame.payload.length)

def checksum (version : Version) (frame : Frame) : UInt8 :=
  match version with
  | .v1 =>
    Checksum.v1 (UInt8.ofNat frame.payload.length) (UInt8.ofNat frame.code.toNat) frame.payload
  | .v2 => Checksum.v2 frame.flag frame.code (UInt16.ofNat frame.payload.length) frame.payload

/-- The whole frame. -/
def wire (version : Version) (frame : Frame) : Bytes :=
  preamble :: version.marker ::
    (frame.header version ++ frame.payload ++ [frame.checksum version])

/-- The request that asks for `code`. Requests carry flag zero. -/
def ofRequest (code : UInt16) (payload : Bytes) : Frame :=
  ⟨request, 0, code, payload⟩

/-- Packs a request, unless a field of the header cannot hold it. -/
def pack (version : Version) (code : UInt16) (payload : Bytes) : Except Fault Bytes :=
  if version.maxPayload < payload.length then
    .error (.payloadTooLarge payload.length version.maxPayload)
  else if version = .v1 ∧ 255 < code.toNat then
    .error (.unsupported .wideCode)
  else
    .ok ((ofRequest code payload).wire version)

end Frame
end FlightLink
