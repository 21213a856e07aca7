import FlightLink.Frame

/-! What the checksums have in common. The residue of a byte string is additive: errors
on top of the bytes show in it by themselves, whatever the bytes are. A frame's last byte
is the one that makes the residue of its checked part nought. For MSPv2 the residue is a
remainder by the generator, which no odd number of bits and no short run of bits leaves
at nought. -/

namespace FlightLink

def blend (string errors : Bytes) : Bytes := List.zipWith (· ^^^ ·) string errors

namespace Checksum

def top (remainder : UInt8) : Bool := remainder.toBitVec.msb

theorem shift_eq (remainder : UInt8) :
    shift remainder = remainder <<< 1 ^^^ if top remainder then generator else 0 := by
  have masked : (remainder &&& 0x80).toBitVec = if top remainder then 0x80#8 else 0#8 := by
    rw [UInt8.toBitVec_and, top, BitVec.msb_eq_getLsbD_last]
    exact BitVec.and_twoPow remainder.toBitVec 7
  have marked : (remainder &&& 0x80 ≠ 0) ↔ top remainder = true := by
    rw [ne_eq, ← UInt8.toBitVec_inj, masked]
    cases top remainder <;> decide
  unfold shift
  simp only [marked]
  split
  · rfl
  · exact UInt8.xor_zero.symm

private theorem xor_xor_xor_comm (first second third fourth : UInt8) :
    first ^^^ second ^^^ (third ^^^ fourth) = first ^^^ third ^^^ (second ^^^ fourth) := by
  ac_rfl

theorem shift_xor (first second : UInt8) : shift (first ^^^ second) = shift first ^^^ shift second := by
  have tops : top (first ^^^ second) = (top first ^^ top second) := BitVec.msb_xor
  have sums : (if (top first ^^ top second) = true then generator else 0) =
      (if top first = true then generator else 0) ^^^ (if top second = true then generator else 0) := by
    cases top first <;> cases top second <;> decide
  rw [shift_eq, shift_eq, shift_eq, tops, sums, UInt8.shiftLeft_xor, xor_xor_xor_comm]

@[simp] theorem shift_zero : shift 0 = 0 := rfl

theorem shift_eq_zero_iff {remainder : UInt8} : shift remainder = 0 ↔ remainder = 0 := by
  refine ⟨fun nought => ?_, fun nought => by rw [nought, shift_zero]⟩
  have doubled : (remainder <<< 1).toNat = 2 * remainder.toNat % 256 := by
    simp [UInt8.toNat_shiftLeft, Nat.shiftLeft_eq, Nat.mul_comm]
  have bound := remainder.toNat_lt
  have high : top remainder = decide (128 ≤ remainder.toNat) := BitVec.msb_eq_decide _
  apply UInt8.toNat.inj
  rw [shift_eq, UInt8.xor_eq_zero_iff] at nought
  rw [nought, high] at doubled
  by_cases large : 128 ≤ remainder.toNat
  · simp [large, generator] at doubled
    omega
  · simp [large] at doubled
    simp
    omega

theorem shiftByte_xor (first second : UInt8) :
    shiftByte (first ^^^ second) = shiftByte first ^^^ shiftByte second := by
  simp only [shiftByte, shift_xor]

theorem shiftByte_eq_zero_iff {remainder : UInt8} : shiftByte remainder = 0 ↔ remainder = 0 := by
  simp only [shiftByte, shift_eq_zero_iff]

theorem table_getD (byte : UInt8) : table.getD byte.toNat 0 = shiftByte byte := by
  have inside : byte.toNat < table.size := by
    simpa [table] using byte.toNat_lt
  simp [table, Array.getD, byte.toNat_lt]

theorem update_eq_divide (remainder : UInt8) (data : Bytes) :
    update remainder data = divide remainder data := by
  simp only [update, divide, table_getD]

theorem divide_append (remainder : UInt8) (front back : Bytes) :
    divide remainder (front ++ back) = divide (divide remainder front) back :=
  List.foldl_append

theorem divide_blend {string errors : Bytes} (whole : string.length = errors.length)
    (remainder other : UInt8) :
    divide (remainder ^^^ other) (blend string errors) =
      divide remainder string ^^^ divide other errors := by
  induction string generalizing errors remainder other with
  | nil =>
    obtain rfl := List.eq_nil_of_length_eq_zero whole.symm
    rfl
  | cons byte string ih =>
    cases errors with
    | nil => cases whole
    | cons error errors =>
      have step : shiftByte (remainder ^^^ other ^^^ (byte ^^^ error)) =
          shiftByte (remainder ^^^ byte) ^^^ shiftByte (other ^^^ error) := by
        rw [xor_xor_xor_comm, shiftByte_xor]
      have rest := ih (Nat.succ.inj whole) (shiftByte (remainder ^^^ byte)) (shiftByte (other ^^^ error))
      rw [← step] at rest
      exact rest

private theorem foldl_xor (start : UInt8) (data : Bytes) :
    data.foldl (· ^^^ ·) start = start ^^^ xor data := by
  induction data generalizing start with
  | nil => exact UInt8.xor_zero.symm
  | cons byte data ih =>
    have tail : xor (byte :: data) = byte ^^^ xor data := by
      simp only [xor, List.foldl_cons, UInt8.zero_xor]
      exact ih byte
    rw [List.foldl_cons, ih, tail, UInt8.xor_assoc]

theorem xor_cons (byte : UInt8) (data : Bytes) : xor (byte :: data) = byte ^^^ xor data := by
  simp only [xor, List.foldl_cons, UInt8.zero_xor]
  exact foldl_xor byte data

theorem xor_append (front back : Bytes) : xor (front ++ back) = xor front ^^^ xor back := by
  simp only [xor, List.foldl_append]
  exact foldl_xor _ back

theorem xor_blend {string errors : Bytes} (whole : string.length = errors.length) :
    xor (blend string errors) = xor string ^^^ xor errors := by
  induction string generalizing errors with
  | nil =>
    obtain rfl := List.eq_nil_of_length_eq_zero whole.symm
    rfl
  | cons byte string ih =>
    cases errors with
    | nil => cases whole
    | cons error errors =>
      have blended : blend (byte :: string) (error :: errors) = (byte ^^^ error) :: blend string errors := rfl
      rw [blended, xor_cons, xor_cons, xor_cons, ih (Nat.succ.inj whole), xor_xor_xor_comm]

@[simp] theorem xor_replicate_zero (count : Nat) : xor (List.replicate count 0) = 0 := by
  induction count with
  | zero => rfl
  | succ count ih => rw [List.replicate_succ, xor_cons, ih, UInt8.zero_xor]

theorem xor_ne_zero_of_single {data : Bytes} (single : data.countP (· ≠ 0) = 1) : xor data ≠ 0 := by
  induction data with
  | nil => cases single
  | cons byte data ih =>
    rw [xor_cons]
    by_cases clean : byte = 0
    · rw [List.countP_cons_of_neg (by simp [clean])] at single
      rw [clean, UInt8.zero_xor]
      exact ih single
    · rw [List.countP_cons_of_pos (by simp [clean]), Nat.succ_inj, List.countP_eq_zero] at single
      have zeros : data = List.replicate data.length 0 :=
        List.eq_replicate_of_mem fun other member => by simpa using single other member
      rw [zeros, xor_replicate_zero, UInt8.xor_zero]
      exact clean

/-- What a byte string leaves under the checksum of a version. -/
def residue : Version → Bytes → UInt8
  | .v1 => xor
  | .v2 => crc

variable {version : Version}

theorem residue_blend {string errors : Bytes} (whole : string.length = errors.length) :
    residue version (blend string errors) = residue version string ^^^ residue version errors := by
  cases version with
  | v1 => exact xor_blend whole
  | v2 =>
    simp only [residue, crc, update_eq_divide]
    exact divide_blend whole 0 0

theorem residue_zero_cons (data : Bytes) : residue version (0 :: data) = residue version data := by
  cases version with
  | v1 => exact (xor_cons 0 data).trans UInt8.zero_xor
  | v2 =>
    simp only [residue, crc, update_eq_divide]
    rfl

theorem residue_snoc_eq_zero_iff {data : Bytes} {last : UInt8} :
    residue version (data ++ [last]) = 0 ↔ last = residue version data := by
  cases version with
  | v1 =>
    have single : xor [last] = last := UInt8.zero_xor
    simp only [residue, xor_append, single, UInt8.xor_eq_zero_iff]
    exact eq_comm
  | v2 =>
    simp only [residue, crc, update_eq_divide, divide_append]
    have single (remainder : UInt8) : divide remainder [last] = shiftByte (remainder ^^^ last) := rfl
    rw [single, shiftByte_eq_zero_iff, UInt8.xor_eq_zero_iff]
    exact eq_comm

/-! The bits of a byte string, and remainders taken from them one at a time. -/

/-- The bits of a byte string, each byte from its most significant bit on. -/
def bits (string : Bytes) : List Bool :=
  string.flatMap fun byte => (List.range 8).map byte.toBitVec.getMsbD

def feed (remainder : UInt8) (bits : List Bool) : UInt8 :=
  bits.foldl (fun remainder bit => shift (remainder ^^^ if bit then 0x80 else 0)) remainder

theorem feed_append (remainder : UInt8) (front back : List Bool) :
    feed remainder (front ++ back) = feed (feed remainder front) back :=
  List.foldl_append

private def remaining (byte : UInt8) (place : Nat) : UInt8 :=
  .ofBitVec (byte.toBitVec <<< place)

private theorem shift_remaining (remainder byte : UInt8) (place : Nat) :
    shift (remainder ^^^ remaining byte place) =
      shift (remainder ^^^ if byte.toBitVec.getMsbD place then 0x80 else 0) ^^^
        remaining byte (place + 1) := by
  have high : top (remaining byte place) = byte.toBitVec.getMsbD place := BitVec.msb_shiftLeft
  have lower : remaining byte place <<< 1 = remaining byte (place + 1) := by
    apply UInt8.toBitVec_inj.mp
    rw [UInt8.toBitVec_shiftLeft]
    exact (BitVec.shiftLeft_add _ _ _).symm
  have upper : shift (if byte.toBitVec.getMsbD place then 0x80 else 0) =
      if byte.toBitVec.getMsbD place then generator else 0 := by
    cases byte.toBitVec.getMsbD place <;> rfl
  rw [shift_xor, shift_xor, shift_eq (remaining byte place), high, lower, upper, UInt8.xor_assoc,
    UInt8.xor_comm (remaining byte (place + 1))]

private theorem feed_byte (remainder byte : UInt8) :
    feed remainder ((List.range 8).map byte.toBitVec.getMsbD) = shiftByte (remainder ^^^ byte) := by
  have whole : byte = remaining byte 0 := by simp [remaining]
  have none : remaining byte 8 = 0 := by
    apply UInt8.toBitVec_inj.mp
    simp [remaining]
  have places : List.range 8 = [0, 1, 2, 3, 4, 5, 6, 7] := rfl
  conv => rhs; rw [whole]
  simp only [shiftByte, shift_remaining, none, UInt8.xor_zero]
  rw [places]
  rfl

theorem feed_bits (remainder : UInt8) (data : Bytes) :
    feed remainder (bits data) = update remainder data := by
  rw [update_eq_divide]
  induction data generalizing remainder with
  | nil => rfl
  | cons byte data ih =>
    rw [bits, List.flatMap_cons, feed_append, feed_byte]
    exact ih _

theorem feed_zeros_eq_zero_iff {remainder : UInt8} {count : Nat} :
    feed remainder (List.replicate count false) = 0 ↔ remainder = 0 := by
  induction count generalizing remainder with
  | zero => rfl
  | succ count ih =>
    rw [List.replicate_succ, feed, List.foldl_cons]
    refine ih.trans ?_
    simp [shift_eq_zero_iff]

def odd (remainder : UInt8) : Bool :=
  (List.range 8).foldl (fun odd place => odd ^^ remainder.toBitVec.getMsbD place) false

private theorem foldl_xor_xor (places : List Nat) (start other : Bool) (first second : Nat → Bool) :
    places.foldl (fun odd place => odd ^^ (first place ^^ second place)) (start ^^ other) =
      (places.foldl (fun odd place => odd ^^ first place) start ^^
        places.foldl (fun odd place => odd ^^ second place) other) := by
  induction places generalizing start other with
  | nil => rfl
  | cons place places ih =>
    have step : (start ^^ other ^^ (first place ^^ second place)) =
        (start ^^ first place ^^ (other ^^ second place)) := by
      simp only [Bool.xor_assoc, Bool.xor_left_comm]
    rw [List.foldl_cons, step, ih]
    rfl

theorem odd_xor (first second : UInt8) : odd (first ^^^ second) = (odd first ^^ odd second) := by
  simp only [odd, UInt8.toBitVec_xor, BitVec.getMsbD_xor]
  exact foldl_xor_xor _ false false _ _

theorem odd_shiftLeft (remainder : UInt8) : odd (remainder <<< 1) = (odd remainder ^^ top remainder) := by
  have moved : (remainder <<< 1).toBitVec = remainder.toBitVec <<< 1 := UInt8.toBitVec_shiftLeft ..
  have places : List.range 8 = [0, 1, 2, 3, 4, 5, 6, 7] := rfl
  have high : top remainder = remainder.toBitVec.getMsbD 0 := BitVec.msb_eq_getMsbD_zero _
  simp only [odd, moved, places, high, List.foldl_cons, List.foldl_nil, BitVec.getMsbD_shiftLeft]
  cases remainder.toBitVec.getMsbD 0 <;> simp

/-- The generator is a multiple of x + 1: it has an even number of terms. -/
theorem odd_shift (remainder : UInt8) : odd (shift remainder) = odd remainder := by
  have terms : odd (if top remainder then generator else 0) = top remainder := by
    cases top remainder <;> rfl
  rw [shift_eq, odd_xor, odd_shiftLeft, terms, Bool.xor_assoc, Bool.xor_self, Bool.xor_false]

theorem odd_feed (remainder : UInt8) (bits : List Bool) :
    odd (feed remainder bits) = (odd remainder ^^ decide (bits.count true % 2 = 1)) := by
  induction bits generalizing remainder with
  | nil => simp [feed]
  | cons bit bits ih =>
    rw [feed, List.foldl_cons]
    refine (ih _).trans ?_
    rw [odd_shift, odd_xor, Bool.xor_assoc]
    congr 1
    cases bit with
    | false => simp [show odd 0 = false from rfl]
    | true =>
      have flips : odd 0x80 = true := rfl
      rw [if_pos rfl, flips, List.count_cons_self, Bool.true_xor, ← decide_not, decide_eq_decide]
      omega

theorem crc_ne_zero_of_odd {data : Bytes} (uneven : (bits data).count true % 2 = 1) : crc data ≠ 0 := by
  intro nought
  have terms := odd_feed 0 (bits data)
  rw [feed_bits, ← crc, nought, decide_eq_true uneven] at terms
  exact absurd terms (by decide)

private theorem feed_window {window : List Bool} (whole : window.length = 8)
    (nought : feed 0 window = 0) : window = List.replicate 8 false := by
  have all : ∀ a b c d e f g h, feed 0 [a, b, c, d, e, f, g, h] = 0 →
      [a, b, c, d, e, f, g, h] = List.replicate 8 false := by
    decide
  match window, whole with
  | [_, _, _, _, _, _, _, _], _ => exact all _ _ _ _ _ _ _ _ nought

private theorem eq_zero_of_bits {data : Bytes} (clear : ∀ bit ∈ bits data, bit = false) {byte : UInt8}
    (member : byte ∈ data) : byte = 0 := by
  apply UInt8.toBitVec_inj.mp
  apply BitVec.eq_of_getMsbD_eq
  intro place inside
  have bit : byte.toBitVec.getMsbD place ∈ bits data :=
    List.mem_flatMap.mpr ⟨byte, member, List.mem_map.mpr ⟨place, List.mem_range.mpr inside, rfl⟩⟩
  rw [clear _ bit]
  simp

private theorem exists_window {bits : List Bool} {start : Nat}
    (close : ∀ place : Nat, bits[place]? = some true → start ≤ place ∧ place < start + 8) :
    ∃ before window after, bits = List.replicate before false ++ window ++ List.replicate after false ∧
      window.length ≤ 8 := by
  have front : ∀ bit ∈ bits.take start, bit = false := by
    intro bit member
    obtain ⟨place, found⟩ := List.mem_iff_getElem?.mp member
    rw [List.getElem?_take] at found
    split at found
    next early =>
      cases bit with
      | false => rfl
      | true => exact absurd (close place found).1 (Nat.not_le.mpr early)
    next => cases found
  have back : ∀ bit ∈ bits.drop (start + 8), bit = false := by
    intro bit member
    obtain ⟨place, found⟩ := List.mem_iff_getElem?.mp member
    rw [List.getElem?_drop] at found
    cases bit with
    | false => rfl
    | true => exact absurd (close _ found).2 (by omega)
  refine ⟨(bits.take start).length, (bits.drop start).take 8, (bits.drop (start + 8)).length, ?_,
    List.length_take_le ..⟩
  rw [← List.eq_replicate_of_mem front, ← List.eq_replicate_of_mem back, List.append_assoc,
    ← List.drop_drop, List.take_append_drop, List.take_append_drop]

theorem crc_ne_zero_of_burst {data : Bytes} {start : Nat} (spoilt : ∃ byte ∈ data, byte ≠ 0)
    (close : ∀ place : Nat, (bits data)[place]? = some true → start ≤ place ∧ place < start + 8) :
    crc data ≠ 0 := by
  intro nought
  obtain ⟨byte, member, some⟩ := spoilt
  -- Zeros in front do nothing and zeros behind cannot cancel a remainder. What stands between
  -- them is shorter than the generator, so it is its own remainder.
  obtain ⟨before, window, after, split, short⟩ := exists_window close
  rw [crc, ← feed_bits, split, feed_append, feed_append, feed_zeros_eq_zero_iff.mpr rfl] at nought
  have clean := feed_zeros_eq_zero_iff.mp nought
  have padded : feed 0 (window ++ List.replicate (8 - window.length) false) = 0 := by
    rw [feed_append, clean, feed_zeros_eq_zero_iff]
  have zeros := feed_window (by simp; omega) padded
  apply some
  apply eq_zero_of_bits ?_ member
  intro bit inside
  rw [split, List.append_assoc] at inside
  simp only [List.mem_append, List.mem_replicate] at inside
  obtain inside | inside | inside := inside
  · exact inside.2
  · have within : bit ∈ List.replicate 8 false := zeros ▸ List.mem_append_left _ inside
    exact (List.mem_replicate.mp within).2
  · exact inside.2

end Checksum
end FlightLink
