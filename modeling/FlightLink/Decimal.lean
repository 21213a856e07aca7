/-! Decimal text of single-precision numbers. A finite number is a mantissa times
a power of two, and the reals nearer to it than to its neighbours form an
interval. Its text shows the fewest digits that name a real in that interval, and
of two such readings the nearer one. -/

namespace FlightLink

/-- A magnitude `digits * 10 ^ exponent`. -/
structure Decimal where
  digits : Nat
  exponent : Int
  deriving DecidableEq, Repr

namespace Decimal

/-- A quotient of natural numbers times a power of ten, as a quotient. -/
def scaled (numerator denominator : Nat) (exponent : Int) : Nat × Nat :=
  if 0 ≤ exponent then (numerator * Nat.pow 10 exponent.toNat, denominator)
  else (numerator, denominator * Nat.pow 10 (-exponent).toNat)

/-- A finite positive binary number with the interval that rounds to it: the
mantissa counts quarters of the last place, and the interval reaches `below` and
`above` quarters to its sides. -/
structure Neighbourhood where
  quarters : Nat
  below : Nat
  above : Nat
  /-- The power of two that one quarter stands for. -/
  exponent : Int
  /-- Whether the ends of the interval round to the number too. -/
  closed : Bool

/-- The interval around `mantissa * 2 ^ exponent`. Below a power of two the
neighbours are twice as dense, unless the exponent is the least one. -/
def Neighbourhood.of (mantissa : Nat) (exponent : Int) (atPower : Bool) : Neighbourhood :=
  { quarters := 4 * mantissa
    below := if atPower then 1 else 2
    above := 2
    exponent := exponent - 2
    closed := mantissa % 2 == 0 }

/-- The quarter as a quotient. -/
def Neighbourhood.quarter (around : Neighbourhood) : Nat × Nat :=
  if 0 ≤ around.exponent then (Nat.pow 2 around.exponent.toNat, 1)
  else (1, Nat.pow 2 (-around.exponent).toNat)

/-- The multiples of `10 ^ exponent` next to the number that lie in its interval,
the nearer one first, and the upper one first when they are equally near. -/
def Neighbourhood.readings (around : Neighbourhood) (exponent : Int) : List Nat :=
  let (top, bottom) := around.quarter
  let (unit, whole) := scaled top bottom (-exponent)
  let at_ (quarters : Nat) : Nat := quarters * unit
  let number := at_ around.quarters
  let low := at_ (around.quarters - around.below)
  let high := at_ (around.quarters + around.above)
  let lower := number / whole
  let upper := lower + 1
  let inside (multiple : Nat) : Bool :=
    let position := multiple * whole
    if around.closed then low ≤ position && position ≤ high else low < position && position < high
  let lowerFirst : Bool := number - lower * whole < upper * whole - number
  let ordered := if lowerFirst then [lower, upper] else [upper, lower]
  ordered.filter fun multiple => multiple ≠ 0 && inside multiple

/-- The first reading on ever finer grids. -/
def Neighbourhood.search (around : Neighbourhood) : (grids : Nat) → (exponent : Int) → Decimal
  | 0, exponent => ⟨0, exponent⟩
  | grids + 1, exponent =>
    match around.readings exponent with
    | digits :: _ => ⟨digits, exponent⟩
    | [] => around.search grids (exponent - 1)

/-- Moves factors of ten from the digits to the exponent. -/
def trim : (fuel : Nat) → Decimal → Decimal
  | 0, decimal => decimal
  | fuel + 1, decimal =>
    if decimal.digits ≠ 0 ∧ decimal.digits % 10 = 0 then
      trim fuel ⟨decimal.digits / 10, decimal.exponent + 1⟩
    else
      decimal

/-- The shortest reading of a finite positive single. Singles stay below 10^39
and need no grid finer than 10^-54. -/
def ofPositive (mantissa : Nat) (exponent : Int) (atPower : Bool) : Decimal :=
  trim 40 ((Neighbourhood.of mantissa exponent atPower).search 94 39)

/-- How numbers are laid out as text. -/
structure Layout where
  /-- Whether a whole number keeps one decimal place. -/
  wholePlace : Bool
  /-- Numbers below `10 ^ small` are written with an exponent. -/
  small : Option Int
  /-- Numbers from `10 ^ large` on are written with an exponent. -/
  large : Option Int

/-- Numbers in messages: always positional, whole numbers without a point. -/
def plain : Layout := ⟨false, none, none⟩

/-- Numbers in diagnostic renderings: a point always, and an exponent for very
small and very large ones. -/
def diagnostic : Layout := ⟨true, some (-4), some 16⟩

/-- The exponent of the leading digit. -/
def magnitude (decimal : Decimal) : Int :=
  decimal.exponent + (toString decimal.digits).length - 1

def zeros (count : Nat) : String :=
  String.ofList (List.replicate count '0')

/-- Text without an exponent. -/
def positional (decimal : Decimal) (wholePlace : Bool) : String :=
  let digits := toString decimal.digits
  if 0 ≤ decimal.exponent then
    digits ++ zeros decimal.exponent.toNat ++ (if wholePlace then ".0" else "")
  else
    let places := (-decimal.exponent).toNat
    if places < digits.length then
      (digits.take (digits.length - places)).toString ++ "." ++
        (digits.drop (digits.length - places)).toString
    else
      "0." ++ zeros (places - digits.length) ++ digits

/-- Text with an exponent: one digit before the point. -/
def scientific (decimal : Decimal) : String :=
  let digits := toString decimal.digits
  let rest := (digits.drop 1).toString
  (digits.take 1).toString ++ (if rest.isEmpty then "" else "." ++ rest) ++
    s!"e{decimal.magnitude}"

def render (layout : Layout) (decimal : Decimal) : String :=
  let tooSmall := layout.small.any (decimal.magnitude < ·)
  let tooLarge := layout.large.any (· ≤ decimal.magnitude)
  if decimal.digits ≠ 0 ∧ (tooSmall ∨ tooLarge) then decimal.scientific
  else decimal.positional layout.wholePlace

/-- The text of a single from its bits: sign, exponent and fraction fields. -/
def textOfBits (layout : Layout) (bits : UInt32) : String :=
  let sign := if bits >>> 31 = 1 then "-" else ""
  let field : Nat := bits.toNat / 8388608 % 256
  let fraction : Nat := bits.toNat % 8388608
  if field = 255 then
    if fraction = 0 then sign ++ "inf" else "NaN"
  else if field = 0 then
    if fraction = 0 then sign ++ render layout ⟨0, 0⟩
    else sign ++ render layout (ofPositive fraction (-149) false)
  else
    sign ++ render layout (ofPositive (8388608 + fraction) ((field : Int) - 150)
      (fraction == 0 && field != 1))

/-- The text of a single. -/
def text (layout : Layout) (number : Float32) : String :=
  textOfBits layout number.toBits

end Decimal
end FlightLink
