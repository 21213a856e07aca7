/-! Little-endian numbers on the wire: the bytes of a number, least significant
byte first, and the number that a byte string spells. Cutting a number into
bytes and reading them back gives the number modulo the width, and reading a
byte string and cutting it again gives the string. -/

namespace FlightLink

/-- A byte string, on the wire or in a buffer. -/
abbrev Bytes := List UInt8

namespace LittleEndian

/-- The lowest `width` bytes of `number`. -/
def bytes : (width : Nat) → (number : Nat) → Bytes
  | 0, _ => []
  | width + 1, number => UInt8.ofNat number :: bytes width (number / 256)

/-- The number whose bytes are given. -/
def value : Bytes → Nat
  | [] => 0
  | byte :: rest => byte.toNat + 256 * value rest

@[simp] theorem length_bytes (width number : Nat) : (bytes width number).length = width := by
  induction width generalizing number with
  | zero => rfl
  | succ width ih => simp [bytes, ih]

theorem value_lt (string : Bytes) : value string < Nat.pow 256 string.length := by
  induction string with
  | nil => exact Nat.one_pos
  | cons byte rest ih =>
    have below := byte.toNat_lt
    have power : Nat.pow 256 (rest.length + 1) = 256 * Nat.pow 256 rest.length := Nat.pow_succ'
    rw [value, List.length_cons, power]
    omega

theorem value_pair_lt (low high : UInt8) : value [low, high] < 65536 :=
  Nat.lt_of_lt_of_eq (value_lt [low, high]) (show Nat.pow 256 2 = 65536 by decide)

theorem value_bytes (width number : Nat) : value (bytes width number) = number % Nat.pow 256 width := by
  induction width generalizing number with
  | zero => exact (Nat.mod_one number).symm
  | succ width ih =>
    have byte : (UInt8.ofNat number).toNat = number % 256 := UInt8.toNat_ofNat'
    have power : Nat.pow 256 (width + 1) = 256 * Nat.pow 256 width := Nat.pow_succ'
    rw [bytes, value, ih, byte, power, Nat.mod_mul]

theorem bytes_value (string : Bytes) : bytes string.length (value string) = string := by
  induction string with
  | nil => rfl
  | cons byte rest ih =>
    have below := byte.toNat_lt
    have upper : (byte.toNat + 256 * value rest) / 256 = value rest := by omega
    have lower : UInt8.ofNat (byte.toNat + 256 * value rest) = byte := by
      apply UInt8.toNat.inj
      simp only [UInt8.toNat_ofNat']
      omega
    simp only [List.length_cons, value, bytes, upper, lower, ih]

end LittleEndian
end FlightLink
