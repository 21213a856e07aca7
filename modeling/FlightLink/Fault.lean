import FlightLink.Decimal
import FlightLink.Digit
import FlightLink.Path
import FlightLink.Version

/-! What can go wrong between the host and the flight controller. Each cause
carries the numbers that explain it, and one function words them all. -/

namespace FlightLink

/-- The kinds of failure that a port reports. -/
inductive PortFault.Kind
  | notFound
  | permissionDenied
  | connectionRefused
  | connectionReset
  | connectionAborted
  | notConnected
  | addrInUse
  | addrNotAvailable
  | brokenPipe
  | alreadyExists
  | wouldBlock
  | invalidInput
  | invalidData
  | timedOut
  | writeZero
  | interrupted
  | unsupported
  | unexpectedEof
  | outOfMemory
  | other
  deriving DecidableEq, Repr

namespace PortFault.Kind

def name : PortFault.Kind → String
  | notFound => "NotFound"
  | permissionDenied => "PermissionDenied"
  | connectionRefused => "ConnectionRefused"
  | connectionReset => "ConnectionReset"
  | connectionAborted => "ConnectionAborted"
  | notConnected => "NotConnected"
  | addrInUse => "AddrInUse"
  | addrNotAvailable => "AddrNotAvailable"
  | brokenPipe => "BrokenPipe"
  | alreadyExists => "AlreadyExists"
  | wouldBlock => "WouldBlock"
  | invalidInput => "InvalidInput"
  | invalidData => "InvalidData"
  | timedOut => "TimedOut"
  | writeZero => "WriteZero"
  | interrupted => "Interrupted"
  | unsupported => "Unsupported"
  | unexpectedEof => "UnexpectedEof"
  | outOfMemory => "OutOfMemory"
  | other => "Other"

def all : List PortFault.Kind :=
  [notFound, permissionDenied, connectionRefused, connectionReset, connectionAborted,
    notConnected, addrInUse, addrNotAvailable, brokenPipe, alreadyExists, wouldBlock,
    invalidInput, invalidData, timedOut, writeZero, interrupted, unsupported, unexpectedEof,
    outOfMemory, other]

def ofName? (name : String) : Option PortFault.Kind :=
  all.find? (·.name == name)

end PortFault.Kind

/-- A failure that the port itself reports. -/
structure PortFault where
  kind : PortFault.Kind
  text : String
  deriving DecidableEq, Repr

/-- Something that a message or a wire format does not offer. -/
inductive Feature
  | decoding
  | encoding
  | wideCode
  deriving DecidableEq, Repr

def Feature.text : Feature → String
  | decoding => "decode"
  | encoding => "encode"
  | wideCode => "16-bit code over MSPv1"

inductive Fault
  | portClosed
  | payloadTooLarge (length limit : Nat)
  | shortWrite (written expected : Nat)
  | shortRead (read expected : Nat)
  | versionMismatch (expected received : Version)
  /-- The flight controller refused the request. -/
  | rejected (code : UInt16)
  | codeMismatch (expected received : UInt16)
  | checksumMismatch (expected received : UInt8)
  | shortBuffer (needed offset length : Nat)
  /-- Channel values come in pairs of bytes, at least one pair. -/
  | unpairedChannels (length : Nat)
  | outOfRange (index : Nat) (value : UInt16)
  | invalidFrequency (hertz : Float32)
  | unsupported (feature : Feature)
  | openFailed (path : String) (reason : PathFault)
  | port (fault : PortFault)

namespace Fault

/-- Two hexadecimal digits, in upper case. -/
def hexByte (byte : UInt8) : String :=
  String.ofList ((Digit.hex 2 byte.toNat).map Char.toUpper)

def message : Fault → String
  | portClosed => "serial port is not open"
  | payloadTooLarge length limit => s!"payload of {length} bytes exceeds the {limit} byte limit"
  | shortWrite written expected => s!"short write: {written} of {expected} bytes"
  | shortRead read expected => s!"short read: {read} of {expected} bytes"
  | versionMismatch expected received =>
    s!"version mismatch: expected {expected.text}, received {received.text}"
  | rejected code => s!"flight controller rejected code {code}"
  | codeMismatch expected received =>
    s!"response code {received} does not answer request code {expected}"
  | checksumMismatch expected received =>
    s!"checksum mismatch: expected 0x{hexByte expected}, got 0x{hexByte received}"
  | shortBuffer needed offset length =>
    s!"buffer too short: need {needed} bytes at offset {offset}, have {length}"
  | unpairedChannels length =>
    s!"invalid payload: RC payload must be a non-empty multiple of 2 bytes, got {length}"
  | outOfRange index value => s!"channel {index} = {value} is out of range"
  | invalidFrequency hertz =>
    s!"invalid callback frequency: {Decimal.text Decimal.plain hertz} Hz"
  | unsupported feature => s!"{feature.text} is not supported"
  | openFailed path reason => s!"Serial port error: Failed to open {path}: {reason.text}"
  | port fault => s!"I/O error: {fault.text}"

end Fault
end FlightLink
