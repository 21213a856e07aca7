import Mathlib.Algebra.Order.Field.Power
import Mathlib.Tactic.Linarith
import Mathlib.Tactic.NormNum
import Mathlib.Tactic.Positivity
import Mathlib.Tactic.Ring
import FlightLink.Settings

/-! Rates as numbers. The bits of a rate stand for a rational number, or for none: an infinity, or what is
not a number at all. Comparing two rates compares their numbers, with zeros of either sign and the smallest
fractions among them. So the check that pollers make and the check that settings make, each with its own
spelling of the limit, both ask for a number above zero and up to a thousand. -/

namespace FlightLink

open Float.Model Float.Model.UnpackedFloat

namespace Frequency

def magnitude (mantissa : Nat) (exponent : Int) : ℚ := mantissa * 2 ^ exponent

/-- The number that the bits stand for: a sign, eight bits of exponent and 23 bits of fraction. -/
def numberOfBits? (bits : Nat) : Option ℚ :=
  let fraction : Nat := bits % 2 ^ 23
  let field : Nat := bits / 2 ^ 23 % 2 ^ 8
  let sign : ℚ := if bits / 2 ^ 31 % 2 = 0 then 1 else -1
  if field = 255 then none
  else if field = 0 then some (sign * magnitude fraction (-149))
  else some (sign * magnitude (2 ^ 23 + fraction) (field - 150))

def number? (hertz : Float32) : Option ℚ := numberOfBits? hertz.toBits.toNat

def factor : Sign → ℚ
  | .positive => 1
  | .negative => -1

/-- Mantissa and exponent as they are in 32 bits: the first of the 24 bits of a mantissa is set, unless the
exponent is the least. -/
structure Canonical (mantissa : Nat) (exponent : Int) : Prop where
  narrow : mantissa < 2 ^ 24
  least : -149 ≤ exponent
  whole : 2 ^ 23 ≤ mantissa ∨ exponent = -149

/-- What 32 bits are unpacked to, and the number that it is. -/
inductive Reading : UnpackedFloat → Option ℚ → Prop
  | endless {sign} : Reading (.infinity sign) none
  | nothing : Reading .notANumber none
  | zero {sign} : Reading (.zero sign) (some 0)
  | finite {sign mantissa exponent positive} (canonical : Canonical mantissa exponent) :
      Reading (.finite sign mantissa exponent positive) (some (factor sign * magnitude mantissa exponent))

section

variable (bits : BitVec Format.binary32.numBits)

theorem toNat_unpackMantissa : (@unpackMantissa .binary32 bits).toNat = bits.toNat % 2 ^ 23 := by
  change (bits.extractLsb' 0 23).toNat = _
  rw [BitVec.extractLsb'_toNat, Nat.shiftRight_zero]

theorem toNat_unpackExponent : (@unpackExponent .binary32 bits).toNat = bits.toNat / 2 ^ 23 % 2 ^ 8 := by
  change (bits.extractLsb' 23 8).toNat = _
  rw [BitVec.extractLsb'_toNat, Nat.shiftRight_eq_div_pow]

theorem toNat_unpackSign : (@unpackSign .binary32 bits).toNat = bits.toNat / 2 ^ 31 % 2 := by
  change (bits.extractLsb' 31 1).toNat = _
  rw [BitVec.extractLsb'_toNat, Nat.shiftRight_eq_div_pow, Nat.pow_one]

theorem factor_ofBitVec (sign : BitVec 1) : factor (.ofBitVec sign) = if sign.toNat = 0 then 1 else -1 := by
  revert sign
  decide

theorem toNat_leading_append (mantissa : BitVec 23) : (1#1 ++ mantissa).toNat = 2 ^ 23 + mantissa.toNat := by
  rw [BitVec.toNat_append, ← Nat.shiftLeft_add_eq_or_of_lt mantissa.isLt]
  rfl

theorem reading_unpack : Reading (UnpackedFloat.unpack .binary32 bits) (numberOfBits? bits.toNat) := by
  have fraction := toNat_unpackMantissa bits
  have field := toNat_unpackExponent bits
  have sign := factor_ofBitVec (@unpackSign .binary32 bits)
  rw [toNat_unpackSign bits] at sign
  have narrow : (@unpackMantissa .binary32 bits).toNat < 2 ^ 23 := (unpackMantissa bits).isLt
  unfold UnpackedFloat.unpack numberOfBits?
  rw [← fraction, ← field, ← sign]
  by_cases full : @unpackExponent .binary32 bits = -1#_
  · have top : (@unpackExponent .binary32 bits).toNat = 255 := by rw [full]; rfl
    rw [if_pos full, if_pos top]
    split
    · exact .endless
    · exact .nothing
  have below : (@unpackExponent .binary32 bits).toNat ≠ 255 := fun top => full (BitVec.toNat_inj.mp top)
  rw [if_neg full, if_neg below]
  by_cases least : @unpackExponent .binary32 bits = 0#_
  · have bottom : (@unpackExponent .binary32 bits).toNat = 0 := by rw [least]; rfl
    rw [if_pos least, if_pos bottom]
    by_cases empty : @unpackMantissa .binary32 bits = 0#_
    · have none : (@unpackMantissa .binary32 bits).toNat = 0 := by rw [empty]; rfl
      rw [dif_pos empty, none, magnitude, Nat.cast_zero, zero_mul, mul_zero]
      exact .zero
    · rw [dif_neg empty, bottom]
      exact .finite ⟨by omega, le_refl _, .inr rfl⟩
  · have above : (@unpackExponent .binary32 bits).toNat ≠ 0 := fun bottom =>
      least (BitVec.toNat_inj.mp bottom)
    rw [if_neg least, if_neg above]
    have leading := toNat_leading_append (@unpackMantissa .binary32 bits)
    rw [← leading]
    have least : (-149 : Int) ≤ (@unpackExponent .binary32 bits).toNat - 150 := by omega
    exact .finite ⟨by rw [leading]; omega, least, .inl (by rw [leading]; omega)⟩

end

theorem reading (hertz : Float32) : Reading hertz.toModel.unpack (number? hertz) :=
  reading_unpack hertz.toBits.toBitVec

/-! ## Comparisons -/

section

variable {m n : Nat} {e f : Int}

theorem magnitude_pos (positive : 0 < m) : 0 < magnitude m e := by
  unfold magnitude
  positivity

theorem magnitude_lt (first : Canonical m e) (second : Canonical n f) (less : e < f) :
    magnitude m e < magnitude n f := by
  have whole : 2 ^ 23 ≤ n := by
    have least := first.least
    exact second.whole.resolve_right (by omega)
  calc (m : ℚ) * 2 ^ e < 2 ^ 24 * 2 ^ e := by
        gcongr
        exact_mod_cast first.narrow
    _ = 2 ^ 23 * 2 ^ (e + 1) := by
        rw [zpow_add_one₀ two_ne_zero]
        ring
    _ ≤ n * 2 ^ f := by
        gcongr
        · exact_mod_cast whole
        · exact one_le_two
        · omega

theorem magnitude_compare (first : Canonical m e) (second : Canonical n f) :
    (compare e f).then (compare m n) = compare (magnitude m e) (magnitude n f) := by
  rcases lt_trichotomy e f with less | rfl | more
  · rw [compare_lt_iff_lt.mpr less, compare_lt_iff_lt.mpr (magnitude_lt first second less)]
    rfl
  · have positive : (0 : ℚ) < 2 ^ e := by positivity
    rw [compare_eq_iff_eq.mpr rfl, Ordering.eq_then, ← cmp_eq_compare, ← cmp_eq_compare, magnitude,
      magnitude, cmp_mul_pos_right positive, Nat.strictMono_cast.cmp_map_eq]
  · rw [compare_gt_iff_gt.mpr more, compare_gt_iff_gt.mpr (magnitude_lt second first more)]
    rfl

end

theorem compare_reading {first second : UnpackedFloat} {left right : ℚ} (reads : Reading first (some left))
    (reads' : Reading second (some right)) : first.compare second = some (compare left right) := by
  cases reads with
  | zero =>
    cases reads' with
    | zero => rw [compare_eq_iff_eq.mpr rfl]; rfl
    | @finite sign n f positive canonical =>
      have above : 0 < magnitude n f := magnitude_pos positive
      cases sign with
      | positive => rw [compare_lt_iff_lt.mpr (by simp only [factor]; linarith)]; rfl
      | negative => rw [compare_gt_iff_gt.mpr (by simp only [factor]; linarith)]; rfl
  | @finite sign m e positive canonical =>
    have above : 0 < magnitude m e := magnitude_pos positive
    cases reads' with
    | zero =>
      cases sign with
      | positive => rw [compare_gt_iff_gt.mpr (by simp only [factor]; linarith)]; rfl
      | negative => rw [compare_lt_iff_lt.mpr (by simp only [factor]; linarith)]; rfl
    | @finite sign' n f positive' canonical' =>
      have above' : 0 < magnitude n f := magnitude_pos positive'
      have same := magnitude_compare canonical canonical'
      cases sign <;> cases sign'
      case positive.positive =>
        change some ((compare e f).then (compare m n)) = _
        rw [same, factor, one_mul, one_mul]
      case positive.negative => rw [compare_gt_iff_gt.mpr (by simp only [factor]; linarith)]; rfl
      case negative.positive => rw [compare_lt_iff_lt.mpr (by simp only [factor]; linarith)]; rfl
      case negative.negative =>
        change some ((compare e f).then (compare m n)).swap = _
        rw [same, factor, ← Std.OrientedCmp.eq_swap, ← cmp_eq_compare, ← cmp_eq_compare,
          cmp_mul_neg_left (neg_lt_zero.mpr one_pos)]

theorem isFinite_reading {unpacked : UnpackedFloat} {number : Option ℚ} (reads : Reading unpacked number) :
    unpacked.isFinite = number.isSome := by
  cases reads <;> rfl

section

variable {first second : Float32} {left right : ℚ}

theorem le_iff (reads : number? first = some left) (reads' : number? second = some right) :
    first ≤ second ↔ left ≤ right := by
  have same := compare_reading (reads ▸ reading first) (reads' ▸ reading second)
  change decide ((first.toModel.unpack.compare second.toModel.unpack).any (·.isLE) = true) = true ↔ _
  rw [decide_eq_true_iff, same, Option.any_some, Ordering.isLE_iff_ne_gt]
  exact compare_le_iff_le

theorem lt_iff (reads : number? first = some left) (reads' : number? second = some right) :
    first < second ↔ left < right := by
  have same := compare_reading (reads ▸ reading first) (reads' ▸ reading second)
  change decide ((first.toModel.unpack.compare second.toModel.unpack == some .lt) = true) = true ↔ _
  rw [decide_eq_true_iff, same, beq_iff_eq, Option.some_inj, compare_lt_iff_lt]

end

/-! ## Checks -/

theorem number?_zero : number? 0 = some 0 := by
  have bits : (0 : Float32).toBits.toNat = 0 := rfl
  rw [number?, bits]
  norm_num [numberOfBits?, magnitude]

/-- A rate passes a check against a limit of a thousand where its number is above zero and up to it. -/
theorem passes_iff {hertz limit : Float32} (bits : limit.toBits.toNat = 0x447A0000) :
    (!hertz.isFinite || hertz ≤ 0 || limit < hertz) = false ↔
      ∃ number, number? hertz = some number ∧ 0 < number ∧ number ≤ 1000 := by
  have thousand : number? limit = some 1000 := by
    rw [number?, bits]
    norm_num [numberOfBits?, magnitude]
  have finite : hertz.isFinite = (number? hertz).isSome := isFinite_reading (reading hertz)
  rw [finite]
  cases reads : number? hertz with
  | none => simp
  | some number => simp [le_iff reads number?_zero, lt_iff thousand reads]

theorem refused_eq_false_iff {hertz : Float32} :
    refused hertz = false ↔ ∃ number, number? hertz = some number ∧ 0 < number ∧ number ≤ 1000 :=
  passes_iff rfl

/-- There is a period for the rates above zero and up to a thousand, and for no others. -/
theorem isOk_period_iff {hertz : Float32} :
    (period hertz).isOk ↔ ∃ number, number? hertz = some number ∧ 0 < number ∧ number ≤ 1000 := by
  rw [← refused_eq_false_iff, period]
  split
  next refusal => simp [refusal, Except.isOk, Except.toBool]
  next passed => simp [passed, Except.isOk, Except.toBool]

end Frequency

theorem Subscription.outOfBounds_eq_false_iff {subscription : Subscription} :
    subscription.outOfBounds = false ↔
      ∃ number, Frequency.number? subscription.hertz = some number ∧ 0 < number ∧ number ≤ 1000 :=
  Frequency.passes_iff rfl

theorem Subscription.isOk_period (subscription : Subscription) :
    (Frequency.period subscription.hertz).isOk = !subscription.outOfBounds := by
  rw [Bool.eq_iff_iff, Frequency.isOk_period_iff, ← Subscription.outOfBounds_eq_false_iff,
    Bool.not_eq_true']

end FlightLink
