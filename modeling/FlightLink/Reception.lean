import FlightLink.Frame
import FlightLink.Progress

/-! Receiving one frame. A reception always awaits a certain number of bytes; what
the port delivers moves it to its next phase or ends it. Noise before a frame is
skipped: single bytes up to a preamble, and a preamble together with the byte
after it when that byte is no marker. A reception ends with the frame's code or a
fault, and with whatever its payload buffer holds then. -/

namespace FlightLink

/-- The fields of a frame's header. -/
structure Header where
  direction : UInt8
  flag : UInt8
  code : UInt16
  length : Nat
  deriving DecidableEq, Repr

/-- Reads the header's bytes. -/
def Header.ofBytes? (version : Version) (bytes : Bytes) : Option Header :=
  match version, bytes with
  | .v1, [direction, length, code] =>
    some ⟨direction, 0, UInt16.ofNat code.toNat, length.toNat⟩
  | .v2, [direction, flag, codeLow, codeHigh, lengthLow, lengthHigh] =>
    some ⟨direction, flag, UInt16.ofNat (LittleEndian.value [codeLow, codeHigh]),
      LittleEndian.value [lengthLow, lengthHigh]⟩
  | _, _ => none

/-- What a reception ends with. -/
structure Receipt where
  code : Except Fault UInt16
  payload : Bytes

inductive Reception
  | preamble
  | marker
  | header
  | payload (header : Header)
  | checksum (header : Header) (payload : Bytes)
  /-- The rest of a refusal, read so that the next frame starts aligned. -/
  | refusal (header : Header)
  deriving DecidableEq, Repr

namespace Reception

/-- How many bytes the phase asks for. -/
def awaited (version : Version) : Reception → Nat
  | .preamble | .marker | .checksum .. => 1
  | .header => version.headerSize
  | .payload fields => fields.length
  | .refusal fields => fields.length + 1

/-- The phase after a header. An empty payload is not asked for. -/
def afterHeader (fields : Header) : Reception :=
  if fields.direction = Frame.refusal then .refusal fields
  else if fields.length = 0 then .checksum fields []
  else .payload fields

/-- What the buffer holds when the phase breaks off after `delivered`. A payload
buffer is filled from the front and has zeros behind. -/
def remains (delivered : Bytes) : Reception → Bytes
  | .preamble | .marker | .header | .refusal _ => []
  | .payload fields => delivered ++ List.replicate (fields.length - delivered.length) 0
  | .checksum _ body => body

/-- The rest of a refusal may be cut off; every other phase needs all its bytes. -/
def mayBeShort : Reception → Bool
  | .refusal _ => true
  | _ => false

/-- The checksum that a received frame should carry. -/
def expected (version : Version) (fields : Header) (payload : Bytes) : UInt8 :=
  Frame.checksum version ⟨fields.direction, fields.flag, fields.code, payload⟩

/-- The phase after the awaited bytes. -/
def complete (version : Version) (phase : Reception) (delivered : Bytes) :
    Progress Reception Receipt :=
  match phase, delivered with
  | .preamble, byte :: _ => .more (if byte = Frame.preamble then .marker else .preamble)
  | .marker, byte :: _ =>
    match Version.ofMarker? byte with
    | some received =>
      if received = version then .more .header
      else .done ⟨.error (.versionMismatch version received), []⟩
    | none => .more .preamble
  | .header, bytes =>
    match Header.ofBytes? version bytes with
    | some fields => .more (afterHeader fields)
    | none => .done ⟨.error (.shortRead bytes.length version.headerSize), []⟩
  | .payload fields, bytes => .more (.checksum fields bytes)
  | .checksum fields body, byte :: _ =>
    let wanted := expected version fields body
    if wanted = byte then .done ⟨.ok fields.code, body⟩
    else .done ⟨.error (.checksumMismatch wanted byte), body⟩
  | .refusal fields, _ => .done ⟨.error (.rejected fields.code), []⟩
  | phase, [] => .done ⟨.error (.shortRead 0 1), phase.remains []⟩

/-- One step: what the port delivered, or its failure, moves the reception on or
ends it. -/
def advance (version : Version) (phase : Reception) :
    Except PortFault Bytes → Progress Reception Receipt
  | .error fault => .done ⟨.error (.port fault), phase.remains []⟩
  | .ok delivered =>
    if delivered.length < phase.awaited version ∧ phase.mayBeShort = false then
      .done ⟨.error (.shortRead delivered.length (phase.awaited version)),
        phase.remains delivered⟩
    else
      phase.complete version delivered

end Reception
end FlightLink
