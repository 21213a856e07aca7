import FlightLink.Fault

/-! Integers inside payloads: eight formats, each with a width and a sign. A value
is cut out of a buffer at an offset, and is refused when the buffer ends before
its last byte. Readings that stand for physical quantities are integers times a
scale. -/

namespace FlightLink

inductive WireInteger
  | u8 | i8 | u16 | i16 | u32 | i32 | u64 | i64
  deriving DecidableEq, Repr

namespace WireInteger

def all : List WireInteger := [u8, i8, u16, i16, u32, i32, u64, i64]

def name : WireInteger → String
  | u8 => "u8"
  | i8 => "i8"
  | u16 => "u16"
  | i16 => "i16"
  | u32 => "u32"
  | i32 => "i32"
  | u64 => "u64"
  | i64 => "i64"

def ofName? (name : String) : Option WireInteger :=
  all.find? (·.name == name)

/-- Width on the wire, in bytes. -/
def size : WireInteger → Nat
  | u8 | i8 => 1
  | u16 | i16 => 2
  | u32 | i32 => 4
  | u64 | i64 => 8

def signed : WireInteger → Bool
  | i8 | i16 | i32 | i64 => true
  | u8 | u16 | u32 | u64 => false

/-- How many values the format has. -/
def modulus (format : WireInteger) : Nat := Nat.pow 256 format.size

def least (format : WireInteger) : Int :=
  if format.signed then -(format.modulus / 2 : Nat) else 0

def greatest (format : WireInteger) : Int :=
  if format.signed then (format.modulus / 2 : Nat) - 1 else (format.modulus : Nat) - 1

def InRange (format : WireInteger) (value : Int) : Prop :=
  format.least ≤ value ∧ value ≤ format.greatest

instance (format : WireInteger) (value : Int) : Decidable (format.InRange value) :=
  inferInstanceAs (Decidable (_ ∧ _))

/-- The value that a byte string of the format's width stands for, in two's
complement when the format is signed. -/
def ofBytes (format : WireInteger) (bytes : Bytes) : Int :=
  let unsigned := LittleEndian.value bytes
  if format.signed ∧ format.modulus / 2 ≤ unsigned then
    (unsigned : Int) - format.modulus
  else
    unsigned

/-- Cuts a value out of a buffer. -/
def decode (format : WireInteger) (buffer : Bytes) (offset : Nat) : Except Fault Int :=
  if buffer.length - offset < format.size then
    .error (.shortBuffer format.size offset buffer.length)
  else
    .ok (format.ofBytes ((buffer.drop offset).take format.size))

/-- The bytes from one place to another, if these are in order and inside the buffer. -/
def slice? (buffer : Bytes) (start stop : UInt64) : Option Bytes :=
  if start ≤ stop ∧ stop.toNat ≤ buffer.length then
    some ((buffer.drop start.toNat).take (stop.toNat - start.toNat))
  else
    none

/-- Cuts a value out of a buffer whose places are 64-bit words, which wrap around.
What is left behind the offset is never less than zero. None stands for a cut that
is not inside the buffer. -/
def decodeAt? (format : WireInteger) (buffer : Bytes) (offset : UInt64) : Option (Except Fault Int) :=
  let length := UInt64.ofNat buffer.length
  let width := UInt64.ofNat format.size
  let remaining := if offset ≤ length then length - offset else 0
  if remaining < width then
    some (.error (.shortBuffer format.size offset.toNat buffer.length))
  else
    (slice? buffer offset (offset + width)).map fun bytes => .ok (format.ofBytes bytes)

/-- The bytes of a value. -/
def encode (format : WireInteger) (value : Int) : Bytes :=
  LittleEndian.bytes format.size (value % format.modulus).toNat

/-- Writes a value behind what a buffer has. -/
def append (format : WireInteger) (buffer : Bytes) (value : Int) : Bytes :=
  buffer ++ format.encode value

/-- The nearest double. All but the 64-bit formats fit without rounding. -/
def toDouble (format : WireInteger) (value : Int) : Float :=
  if format.signed then (Int64.ofInt value).toFloat else (UInt64.ofNat value.toNat).toFloat

/-- A reading in double precision. -/
def decodeDouble (format : WireInteger) (buffer : Bytes) (offset : Nat) (scale : Float) :
    Except Fault Float := do
  let value ← format.decode buffer offset
  return format.toDouble value * scale

/-- A reading in single precision. The integer is rounded to a double first and
then to a single, so a wide integer may be rounded twice. -/
def decodeSingle (format : WireInteger) (buffer : Bytes) (offset : Nat) (scale : Float32) :
    Except Fault Float32 := do
  let value ← format.decode buffer offset
  return (format.toDouble value).toFloat32 * scale

end WireInteger
end FlightLink
