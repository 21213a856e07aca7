import FlightLink.Toml.Node
import FlightLink.Toml.Scan

/-! Values of one word: numbers, booleans, dates and times. Dates and times are
recognised and checked, but nothing is read from them. -/

namespace FlightLink.Toml.Scalar
open Scan

/-! ## Dates and times -/

def isDigit (char : Char) : Bool := (Digit.value? 10 char).isSome

/-- Two digits of a number within bounds. -/
def twoDigits (least greatest : Nat) : Scan Nat := do
  let number ← fixed 10 2 0
  guard (least ≤ number ∧ number ≤ greatest)
  return number

def isLeap (year : Nat) : Bool :=
  year % 4 = 0 && (year % 100 ≠ 0 || year % 400 = 0)

def daysIn (year month : Nat) : Nat :=
  if month = 2 then (if isLeap year then 29 else 28)
  else if month ∈ [4, 6, 9, 11] then 30
  else 31

def date : Scan Unit := do
  let year ← fixed 10 4 0
  char '-'
  let month ← twoDigits 1 12
  char '-'
  let day ← twoDigits 1 31
  guard (day ≤ daysIn year month)

/-- A time of day. There may be a leap second. -/
def time : Scan Unit := do
  let _ ← twoDigits 0 23
  char ':'
  let _ ← twoDigits 0 59
  char ':'
  let _ ← twoDigits 0 60
  let _ ← optional (char '.' *> run isDigit)

/-- The distance from universal time. -/
def offset : Scan Unit := do
  match ← next with
  | 'Z' | 'z' => return ()
  | '+' | '-' =>
    let _ ← twoDigits 0 23
    char ':'
    let _ ← twoDigits 0 59
  | _ => failure

def timeMark : Scan Unit := do
  match ← next with
  | 'T' | 't' | ' ' => return ()
  | _ => failure

/-- A date, a time, or both; an offset goes with both only. -/
def moment : Scan Node := do
  (do date
      let _ ← optional (timeMark *> time *> optional offset)) <|> time
  return .moment

/-! ## Numbers -/

/-- The digits of a word that may have single underscores between them, behind the
digits read so far (the latest first). -/
def digitsBehind? (base : Nat) (digits : List Nat) : List Char → Option (List Nat)
  | [] => none
  | [last] => do return ((← Digit.value? base last) :: digits).reverse
  | first :: '_' :: rest => do digitsBehind? base ((← Digit.value? base first) :: digits) rest
  | first :: rest => do digitsBehind? base ((← Digit.value? base first) :: digits) rest

def underscored? (base : Nat) (word : List Char) : Option (List Nat) :=
  digitsBehind? base [] word

/-- The digits of a decimal number, which starts with a zero only if it is zero. -/
def unpadded? (word : List Char) : Option (List Nat) :=
  match word with
  | '0' :: _ :: _ => none
  | _ => underscored? 10 word

/-- Whether a number is negative, and what follows its sign. -/
def splitSign : List Char → Bool × List Char
  | '+' :: rest => (false, rest)
  | '-' :: rest => (true, rest)
  | rest => (false, rest)

def signed (negative : Bool) (magnitude : Nat) : Int :=
  if negative then -magnitude else magnitude

/-- Integers have 64 bits. -/
def bounded? (value : Int) : Option Node :=
  if -9223372036854775808 ≤ value ∧ value ≤ 9223372036854775807 then some (.integer value)
  else none

/-- The number that digits spell, unless there are so many that no base brings it
within the bounds. -/
def magnitude? (base : Nat) (digits : List Nat) : Option Nat :=
  let significant := digits.dropWhile (· = 0)
  if significant.length ≤ 64 then some (Digit.number base significant) else none

/-- A number in a base that its word names in front. -/
def based? (base : Nat) (word : List Char) : Option Node := do
  bounded? (← magnitude? base (← underscored? base word))

def integer? : List Char → Option Node
  | '0' :: 'x' :: rest => based? 16 rest
  | '0' :: 'o' :: rest => based? 8 rest
  | '0' :: 'b' :: rest => based? 2 rest
  | word => do
    let (negative, rest) := splitSign word
    bounded? (signed negative (← magnitude? 10 (← unpadded? rest)))

/-- More significant digits than any number has that lies halfway between two doubles.
Of the digits behind them it only matters whether there is one that is not zero. -/
def decisive : Nat := 800

/-- The double nearest to a decimal number, the digits of which are scaled by a power
of ten. Numbers far outside the range of doubles are decided by their size alone. -/
def nearest (digits : List Nat) (scale : Int) : Float :=
  let significant := digits.dropWhile (· = 0)
  let size := significant.length + scale
  if significant.isEmpty ∨ size < -400 then 0
  else if 400 < size then 1 / 0
  else
    let (first, rest) := significant.splitAt decisive
    let mantissa := Digit.number 10 first * 10 + if rest.all (· = 0) then 0 else 1
    let scale := scale + rest.length - 1
    Float.ofScientific mantissa (scale < 0) scale.natAbs

/-- The part of a word before a separator, and the part behind it if there is one. -/
def splitAt? (isSeparator : Char → Bool) (word : List Char) : List Char × Option (List Char) :=
  match word.span fun char => !isSeparator char with
  | (before, []) => (before, none)
  | (before, _ :: behind) => (before, some behind)

/-- The size of an exponent. Digits behind one that is large already are passed over. -/
def exponentSize (digits : List Nat) : Nat :=
  digits.foldl (fun size digit => if size < 65536 then size * 10 + digit else size) 0

/-- The exponent behind its mark; without a mark it is zero. -/
def exponent? : Option (List Char) → Option Int
  | none => some 0
  | some word => do
    let (negative, rest) := splitSign word
    return signed negative (exponentSize (← underscored? 10 rest))

/-- The digits behind the decimal point; without a point there are none. -/
def fraction? : Option (List Char) → Option (List Nat)
  | none => some []
  | some word => underscored? 10 word

/-- A number with a fraction, an exponent, or both. One that is too large is refused,
unless it is negative. -/
def decimal? (word : List Char) : Option Node := do
  let (negative, rest) := splitSign word
  let (mantissa, behind) := splitAt? (fun char => char = 'e' || char = 'E') rest
  let (whole, places) := splitAt? (· = '.') mantissa
  guard (behind.isSome ∨ places.isSome)
  let whole ← unpadded? whole
  let fraction ← fraction? places
  let exponent ← exponent? behind
  let magnitude := nearest (whole ++ fraction) (exponent - fraction.length)
  guard (magnitude.isFinite ∨ negative)
  return .float (if negative then -magnitude else magnitude)

def infinity : Float := 1 / 0

def notANumber : Float := 0 / 0

def isWord (char : Char) : Bool :=
  char.isAlphanum || char ∈ ['+', '-', '_', '.', ':']

/-- The value of a word that is not a date or a time. -/
def word? (word : List Char) : Option Node :=
  match String.ofList word with
  | "true" => some (.boolean true)
  | "false" => some (.boolean false)
  | "inf" | "+inf" => some (.float infinity)
  | "-inf" => some (.float (-infinity))
  | "nan" | "+nan" | "-nan" => some (.float notANumber)
  | _ => (integer? word).or (decimal? word)

def scalar : Scan Node :=
  moment <|> do ofOption (word? (← run isWord))

end FlightLink.Toml.Scalar
