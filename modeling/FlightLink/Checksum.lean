import FlightLink.LittleEndian

/-! The two frame checksums. MSPv1 folds its bytes with exclusive or. MSPv2 takes
the remainder of the bytes, as a polynomial with the most significant bit first,
by the generator 0xD5 (CRC-8/DVB-S2). The remainder is computed here twice: one
bit at a time, which is the definition, and one byte at a time from a table of
the 256 remainders of single bytes, which is what frames use. -/

namespace FlightLink.Checksum

/-- Exclusive or of all bytes. -/
def xor (data : Bytes) : UInt8 :=
  data.foldl (· ^^^ ·) 0

/-- Low eight coefficients of the generator x^8 + x^7 + x^6 + x^4 + x^2 + 1. -/
def generator : UInt8 := 0xD5

/-- Multiplies a remainder by x. -/
def shift (remainder : UInt8) : UInt8 :=
  if remainder &&& 0x80 ≠ 0 then (remainder <<< 1) ^^^ generator else remainder <<< 1

/-- Multiplies a remainder by x^8. -/
def shiftByte (remainder : UInt8) : UInt8 :=
  shift (shift (shift (shift (shift (shift (shift (shift remainder)))))))

/-- The remainder after more bytes, bit by bit. -/
def divide (remainder : UInt8) (data : Bytes) : UInt8 :=
  data.foldl (fun remainder byte => shiftByte (remainder ^^^ byte)) remainder

/-- The remainders of the 256 single bytes. -/
def table : Array UInt8 :=
  (Array.range 256).map fun byte => shiftByte (UInt8.ofNat byte)

/-- The remainder after more bytes, by table. -/
def update (remainder : UInt8) (data : Bytes) : UInt8 :=
  data.foldl (fun remainder byte => table.getD (remainder ^^^ byte).toNat 0) remainder

/-- The remainder of a whole byte string. -/
def crc (data : Bytes) : UInt8 :=
  update 0 data

/-- MSPv1 covers length, code and payload. -/
def v1 (length code : UInt8) (payload : Bytes) : UInt8 :=
  length ^^^ code ^^^ xor payload

/-- MSPv2 covers flag, code, length and payload, continuing from the header into
the payload. -/
def v2 (flag : UInt8) (code length : UInt16) (payload : Bytes) : UInt8 :=
  update (crc (flag :: (LittleEndian.bytes 2 code.toNat ++ LittleEndian.bytes 2 length.toNat)))
    payload

end FlightLink.Checksum
