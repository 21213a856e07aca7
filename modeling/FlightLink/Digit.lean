import FlightLink.LittleEndian

/-! Digits. Letters stand for the digits from ten on, in either case when read and
in lower case when written. A byte is written with two hexadecimal digits. -/

namespace FlightLink.Digit

/-- The value of a digit, unless the base has no such digit. -/
def value? (base : Nat) (char : Char) : Option Nat :=
  let value :=
    if '0' ≤ char ∧ char ≤ '9' then some (char.toNat - '0'.toNat)
    else if 'a' ≤ char ∧ char ≤ 'z' then some (char.toNat - 'a'.toNat + 10)
    else if 'A' ≤ char ∧ char ≤ 'Z' then some (char.toNat - 'A'.toNat + 10)
    else none
  value.filter (· < base)

/-- The digit with a value below sixteen. -/
def ofValue (value : Nat) : Char :=
  Char.ofNat (value + if value < 10 then '0'.toNat else 'a'.toNat - 10)

/-- The number that digits spell, the most significant one first. -/
def number (base : Nat) (digits : List Nat) : Nat :=
  digits.foldl (fun number digit => number * base + digit) 0

/-- The number that a text spells. -/
def number? (base : Nat) (text : List Char) : Option Nat :=
  (text.mapM (value? base)).map (number base)

/-- The lowest `count` hexadecimal digits of a number. -/
def hex (count : Nat) (number : Nat) : List Char :=
  (List.range count).reverse.map fun place => ofValue (number / Nat.pow 16 place % 16)

def hexText (bytes : Bytes) : String :=
  String.ofList (bytes.flatMap fun byte => hex 2 byte.toNat)

/-- The bytes that pairs of hexadecimal digits spell. -/
def bytes? : List Char → Option Bytes
  | [] => some []
  | [_] => none
  | high :: low :: rest => do
    return UInt8.ofNat (← number? 16 [high, low]) :: (← bytes? rest)

end FlightLink.Digit
