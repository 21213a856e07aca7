import Mathlib
import FlightLink.Proofs.ChecksumResidue

/-! The checksum of MSPv2 as a remainder of polynomials over the field of two elements. A
byte stands for a polynomial of degree below eight and a string of bits for one of degree
below its length, the most significant bit first. To multiply by x and to take the
generator off when the degree reaches eight is one step of the long division, so the steps
over all bits of a string leave the remainder of its polynomial. -/

namespace FlightLink.Checksum

open Polynomial

/-- The polynomial whose coefficients are the bits of a byte. -/
noncomputable def polynomial (byte : UInt8) : (ZMod 2)[X] :=
  ∑ place ∈ Finset.range 8, if byte.toBitVec.getLsbD place then X ^ place else 0

noncomputable def message : List Bool → (ZMod 2)[X]
  | [] => 0
  | bit :: rest => (if bit then X ^ rest.length else 0) + message rest

noncomputable def divisor : (ZMod 2)[X] := X ^ 8 + X ^ 7 + X ^ 6 + X ^ 4 + X ^ 2 + 1

theorem coeff_polynomial (byte : UInt8) (place : Nat) :
    (polynomial byte).coeff place = if byte.toBitVec.getLsbD place then 1 else 0 := by
  have term (other : Nat) : (if byte.toBitVec.getLsbD other then X ^ other else 0 : (ZMod 2)[X]).coeff place =
      if place = other then (if byte.toBitVec.getLsbD place then 1 else 0) else 0 := by
    by_cases same : place = other
    · subst same
      split <;> simp
    · split <;> simp [coeff_X_pow, same]
  rw [polynomial, finsetSum_coeff, Finset.sum_congr rfl fun other _ => term other, Finset.sum_ite_eq]
  by_cases inside : place < 8
  · rw [if_pos (Finset.mem_range.mpr inside)]
  · rw [if_neg (by simpa using inside), BitVec.getLsbD_of_ge _ _ (Nat.le_of_not_lt inside)]
    rfl

@[simp] theorem polynomial_zero : polynomial 0 = 0 := by
  simp [polynomial]

theorem polynomial_xor (first second : UInt8) :
    polynomial (first ^^^ second) = polynomial first + polynomial second := by
  have double : (1 + 1 : ZMod 2) = 0 := rfl
  ext place
  rw [coeff_add, coeff_polynomial, coeff_polynomial, coeff_polynomial, UInt8.toBitVec_xor, BitVec.getLsbD_xor]
  cases first.toBitVec.getLsbD place <;> cases second.toBitVec.getLsbD place <;> simp [double]

theorem degree_polynomial (byte : UInt8) : (polynomial byte).degree < 8 := by
  refine (degree_lt_iff_coeff_zero _ 8).mpr fun place outside => ?_
  rw [coeff_polynomial, BitVec.getLsbD_of_ge _ _ outside]
  rfl

theorem divisor_eq : divisor = X ^ 8 + polynomial generator := by
  have terms : polynomial generator = 1 + X ^ 2 + X ^ 4 + X ^ 6 + X ^ 7 := by
    simp +decide [polynomial, generator, Finset.sum_range_succ]
  rw [divisor, terms]
  ring

theorem polynomial_shiftLeft (byte : UInt8) :
    polynomial (byte <<< 1) + (if top byte then X ^ 8 else 0) = polynomial byte * X := by
  have moved : (byte <<< 1).toBitVec = byte.toBitVec <<< 1 := UInt8.toBitVec_shiftLeft ..
  have high : top byte = byte.toBitVec.getLsbD 7 := BitVec.msb_eq_getLsbD_last _
  have gone (place : Nat) : (if top byte then X ^ 8 else 0 : (ZMod 2)[X]).coeff place =
      if place = 8 ∧ byte.toBitVec.getLsbD 7 then 1 else 0 := by
    rw [high]
    cases byte.toBitVec.getLsbD 7 <;> simp [coeff_X_pow]
  ext place
  rw [coeff_add, gone, coeff_polynomial, moved, BitVec.getLsbD_shiftLeft]
  cases place with
  | zero => simp
  | succ place =>
    rw [coeff_mul_X, coeff_polynomial]
    obtain inside | rfl | outside := Nat.lt_trichotomy place 7
    · have below : place + 1 < 8 := by omega
      have other : place ≠ 7 := by omega
      simp [below, other]
    · simp
    · have above : ¬ place + 1 < 8 := by omega
      have other : place ≠ 7 := by omega
      simp [above, other, BitVec.getLsbD_of_ge _ place outside]

/-- One step of the long division. -/
theorem polynomial_shift (byte : UInt8) :
    polynomial (shift byte) = polynomial byte * X + if top byte then divisor else 0 := by
  rw [shift_eq, polynomial_xor, ← polynomial_shiftLeft]
  cases top byte with
  | false => simp
  | true =>
    simp only [if_true, divisor_eq]
    rw [← add_assoc, add_assoc (polynomial (byte <<< 1)), CharTwo.add_self_eq_zero, add_zero]

theorem monic_divisor : divisor.Monic :=
  divisor_eq ▸ monic_X_pow_add (degree_polynomial generator)

theorem degree_divisor : divisor.degree = 8 := by
  rw [divisor_eq, degree_add_eq_left_of_degree_lt] <;> rw [degree_X_pow]
  · rfl
  · exact degree_polynomial generator

private theorem polynomial_bit (bit : Bool) :
    polynomial (if bit then 0x80 else 0) = if bit then X ^ 7 else 0 := by
  cases bit with
  | false => exact polynomial_zero
  | true => simp +decide [polynomial, Finset.sum_range_succ]

/-- What bits leave differs from what they stand for by a multiple of the generator, the quotient. -/
theorem exists_quotient (remainder : UInt8) (bits : List Bool) :
    ∃ quotient, polynomial (feed remainder bits) + divisor * quotient =
      polynomial remainder * X ^ bits.length + message bits * X ^ 8 := by
  induction bits generalizing remainder with
  | nil => exact ⟨0, by simp [feed, message]⟩
  | cons bit bits ih =>
    let entered : UInt8 := remainder ^^^ if bit then 0x80 else 0
    obtain ⟨quotient, rest⟩ := ih (shift entered)
    have digit : (if bit then X ^ 7 else 0 : (ZMod 2)[X]) * X = if bit then X ^ 8 else 0 := by
      cases bit <;> simp [pow_succ]
    have step : polynomial (shift entered) =
        polynomial remainder * X + (if bit then X ^ 8 else 0) + if top entered then divisor else 0 := by
      rw [polynomial_shift, polynomial_xor, polynomial_bit, add_mul, digit]
    have cancels : (if top entered then divisor else 0) * X ^ bits.length +
        divisor * (if top entered then X ^ bits.length else 0) = 0 := by
      cases top entered <;> simp [CharTwo.add_self_eq_zero]
    have placed : (if bit then X ^ 8 else 0 : (ZMod 2)[X]) * X ^ bits.length =
        (if bit then X ^ bits.length else 0) * X ^ 8 := by
      cases bit <;> simp [mul_comm]
    refine ⟨quotient + (if top entered then X ^ bits.length else 0), ?_⟩
    calc polynomial (feed (shift entered) bits) +
          divisor * (quotient + if top entered then X ^ bits.length else 0)
        = polynomial (shift entered) * X ^ bits.length + message bits * X ^ 8 +
            divisor * (if top entered then X ^ bits.length else 0) := by
          rw [mul_add, ← add_assoc, rest]
      _ = polynomial remainder * X ^ (bits.length + 1) +
            ((if bit then X ^ bits.length else 0) + message bits) * X ^ 8 := by
          rw [step]
          linear_combination cancels + placed

theorem polynomial_feed (remainder : UInt8) (bits : List Bool) :
    polynomial (feed remainder bits) =
      (polynomial remainder * X ^ bits.length + message bits * X ^ 8) %ₘ divisor := by
  obtain ⟨quotient, division⟩ := exists_quotient remainder bits
  have small : (polynomial (feed remainder bits)).degree < divisor.degree := by
    rw [degree_divisor]
    exact degree_polynomial _
  exact (div_modByMonic_unique _ _ monic_divisor ⟨division, small⟩).2.symm

theorem length_bits (data : Bytes) : (bits data).length = 8 * data.length := by
  induction data with
  | nil => rfl
  | cons byte data ih =>
    rw [bits, List.flatMap_cons, List.length_append, ← bits, ih]
    simp [Nat.mul_succ, Nat.add_comm]

theorem polynomial_update (remainder : UInt8) (data : Bytes) :
    polynomial (update remainder data) =
      (polynomial remainder * X ^ (8 * data.length) + message (bits data) * X ^ 8) %ₘ divisor := by
  rw [← feed_bits, polynomial_feed, length_bits]

theorem update_append (remainder : UInt8) (front back : Bytes) :
    update remainder (front ++ back) = update (update remainder front) back :=
  List.foldl_append

theorem v2_eq_divide (flag : UInt8) (code length : UInt16) (payload : Bytes) :
    v2 flag code length payload =
      divide 0 (flag :: code.toUInt8 :: (code >>> 8).toUInt8 :: length.toUInt8 :: (length >>> 8).toUInt8 ::
        payload) := by
  have low (number : UInt16) : UInt8.ofNat number.toNat = number.toUInt8 := rfl
  have high (number : UInt16) : UInt8.ofNat (number.toNat / 256) = (number >>> 8).toUInt8 := by
    apply UInt8.toNat.inj
    simp [Nat.shiftRight_eq_div_pow]
  rw [v2, crc, ← update_append, update_eq_divide]
  simp only [LittleEndian.bytes, low, high, List.cons_append, List.nil_append]

theorem crc_snoc (data : Bytes) : crc (data ++ [crc data]) = 0 :=
  (@residue_snoc_eq_zero_iff .v2 data (crc data)).mpr rfl

/-- The table leaves what the division leaves, which is the remainder of the bytes as a polynomial. -/
theorem table_divides :
    (∀ (remainder : UInt8) (data : Bytes), update remainder data = divide remainder data ∧
      update remainder data = feed remainder (bits data) ∧
      polynomial (update remainder data) =
        (polynomial remainder * X ^ (8 * data.length) + message (bits data) * X ^ 8) %ₘ divisor) ∧
    (∀ (remainder : UInt8) (front back : Bytes),
      update remainder (front ++ back) = update (update remainder front) back) ∧
    (∀ (flag : UInt8) (code length : UInt16) (payload : Bytes), v2 flag code length payload =
      divide 0 (flag :: code.toUInt8 :: (code >>> 8).toUInt8 :: length.toUInt8 :: (length >>> 8).toUInt8 ::
        payload)) ∧
    ∀ data : Bytes, crc (data ++ [crc data]) = 0 :=
  ⟨fun remainder data =>
    ⟨update_eq_divide remainder data, (feed_bits remainder data).symm, polynomial_update remainder data⟩,
    update_append, v2_eq_divide, crc_snoc⟩

end FlightLink.Checksum
