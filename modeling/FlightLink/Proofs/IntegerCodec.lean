import FlightLink.WireInteger

/-! Integers in payloads. A format has as many values as there are byte strings of its width, and writing
and reading match them up, wherever in a buffer a value stands. Whether a cut is inside the buffer is
decided by what is left behind the offset, so no sum of places can wrap around before it is known. -/

namespace FlightLink.WireInteger

variable {format : WireInteger} {value : Int} {bytes buffer : Bytes} {offset : Nat}

theorem size_pos (format : WireInteger) : 0 < format.size := by
  cases format <;> decide

theorem two_mul_half_modulus (format : WireInteger) : 2 * (format.modulus / 2) = format.modulus := by
  cases format <;> rfl

/-! ## Values and their bytes -/

theorem length_encode (format : WireInteger) (value : Int) : (format.encode value).length = format.size :=
  LittleEndian.length_bytes ..

theorem value_encode (format : WireInteger) (value : Int) :
    (LittleEndian.value (format.encode value) : Int) = value % format.modulus := by
  have some : format.modulus ≠ 0 := by cases format <;> decide
  have positive : 0 ≤ value % format.modulus := Int.emod_nonneg _ (by omega)
  have below : value % format.modulus < format.modulus := Int.emod_lt_of_pos _ (by omega)
  have small : (value % format.modulus).toNat < format.modulus := by omega
  rw [encode, LittleEndian.value_bytes]
  change (((value % format.modulus).toNat % format.modulus : Nat) : Int) = _
  rw [Nat.mod_eq_of_lt small, Int.toNat_of_nonneg positive]

/-- Two's complement: a value below zero is spelled as the number that is as far below the modulus. -/
theorem emod_modulus (inRange : format.InRange value) :
    value % format.modulus = if 0 ≤ value then value else value + format.modulus := by
  obtain ⟨least, greatest⟩ := inRange
  have halves := format.two_mul_half_modulus
  unfold WireInteger.least at least
  unfold WireInteger.greatest at greatest
  split
  next positive =>
    apply Int.emod_eq_of_lt positive
    split at greatest <;> omega
  next negative =>
    rw [← Int.add_emod_right]
    apply Int.emod_eq_of_lt
    all_goals split at least <;> omega

theorem ofBytes_encode (inRange : format.InRange value) : format.ofBytes (format.encode value) = value := by
  have spelled := (format.value_encode value).trans (emod_modulus inRange)
  obtain ⟨least, greatest⟩ := inRange
  have halves := format.two_mul_half_modulus
  unfold WireInteger.least at least
  unfold WireInteger.greatest at greatest
  unfold ofBytes
  cases sign : format.signed with
  | false =>
    simp only [sign, Bool.false_eq_true, if_false, false_and] at least greatest spelled ⊢
    rw [if_pos least] at spelled
    exact spelled
  | true =>
    simp only [sign, if_true, true_and] at least greatest spelled ⊢
    split at spelled <;> split <;> omega

theorem value_lt_modulus (whole : bytes.length = format.size) : LittleEndian.value bytes < format.modulus := by
  rw [modulus, ← whole]
  exact LittleEndian.value_lt bytes

theorem inRange_ofBytes (whole : bytes.length = format.size) : format.InRange (format.ofBytes bytes) := by
  have below := value_lt_modulus whole
  have halves := format.two_mul_half_modulus
  unfold InRange least greatest ofBytes
  cases format.signed with
  | false =>
    simp only [Bool.false_eq_true, if_false, false_and]
    omega
  | true =>
    simp only [if_true, true_and]
    split <;> omega

theorem encode_ofBytes (whole : bytes.length = format.size) : format.encode (format.ofBytes bytes) = bytes := by
  have below := value_lt_modulus whole
  have spelled : format.ofBytes bytes % format.modulus = LittleEndian.value bytes := by
    rw [ofBytes]
    split
    · rw [Int.sub_emod_right]
      exact Int.emod_eq_of_lt (Int.natCast_nonneg _) (Int.ofNat_lt.mpr below)
    · exact Int.emod_eq_of_lt (Int.natCast_nonneg _) (Int.ofNat_lt.mpr below)
  rw [encode, spelled, Int.toNat_natCast, ← whole, LittleEndian.bytes_value]

theorem ofBytes_of_unsigned (unsigned : format.signed = false) :
    format.ofBytes bytes = LittleEndian.value bytes := by
  simp [ofBytes, unsigned]

/-! ## Cuts -/

theorem decode_eq_ok_iff : format.decode buffer offset = .ok value ↔
    offset + format.size ≤ buffer.length ∧
      value = format.ofBytes ((buffer.drop offset).take format.size) := by
  have some := format.size_pos
  unfold decode
  split
  next short => exact ⟨nofun, fun whole => absurd whole.1 (by omega)⟩
  next whole =>
    have inside : offset + format.size ≤ buffer.length := by omega
    simp [inside, eq_comm]

theorem decode_eq_error_iff {fault : Fault} : format.decode buffer offset = .error fault ↔
    buffer.length < offset + format.size ∧ fault = .shortBuffer format.size offset buffer.length := by
  have some := format.size_pos
  unfold decode
  split
  next short =>
    have outside : buffer.length < offset + format.size := by omega
    simp [outside, eq_comm]
  next whole => exact ⟨nofun, fun outside => absurd outside.1 (by omega)⟩

theorem length_cut (inside : offset + format.size ≤ buffer.length) :
    ((buffer.drop offset).take format.size).length = format.size := by
  rw [List.length_take, List.length_drop]
  omega

/-- A value is found where it was written, whatever stands around it. -/
theorem decode_append (inRange : format.InRange value) (before behind : Bytes) :
    format.decode (format.append before value ++ behind) before.length = .ok value := by
  have cut : ((format.append before value ++ behind).drop before.length).take format.size =
      format.encode value := by
    rw [append, List.append_assoc, List.drop_left, List.take_left' (format.length_encode value)]
  apply decode_eq_ok_iff.mpr ⟨?_, ?_⟩
  · simp only [append, List.length_append, length_encode]
    omega
  · rw [cut, ofBytes_encode inRange]

/-- The sum of offset and width does not wrap around, and the cut is inside the buffer. -/
theorem decodeAt?_eq (addressable : buffer.length < UInt64.size) (offset : UInt64) :
    format.decodeAt? buffer offset = some (format.decode buffer offset.toNat) := by
  have length : (UInt64.ofNat buffer.length).toNat = buffer.length := UInt64.toNat_ofNat_of_lt' addressable
  have width : (UInt64.ofNat format.size).toNat = format.size := by cases format <;> rfl
  have some := format.size_pos
  have left : (if offset ≤ UInt64.ofNat buffer.length then UInt64.ofNat buffer.length - offset else 0).toNat =
      buffer.length - offset.toNat := by
    split
    next inside => rw [UInt64.toNat_sub_of_le _ _ inside, length]
    next outside =>
      rw [UInt64.le_iff_toNat_le, length] at outside
      change 0 = _
      omega
  simp only [decodeAt?, decode, UInt64.lt_iff_toNat_lt, left, width]
  split
  next => rfl
  next whole =>
    have stop : (offset + UInt64.ofNat format.size).toNat = offset.toNat + format.size := by
      rw [UInt64.toNat_add, width]
      apply Nat.mod_eq_of_lt
      exact Nat.lt_of_le_of_lt (by omega) addressable
    have ordered : offset ≤ offset + UInt64.ofNat format.size := by
      rw [UInt64.le_iff_toNat_le, stop]
      omega
    have inside : (offset + UInt64.ofNat format.size).toNat ≤ buffer.length := by omega
    rw [slice?, if_pos ⟨ordered, inside⟩, stop, Nat.add_sub_cancel_left, Option.map_some]

/-- Every value of a format is read back from where it was written. In any buffer with 64-bit places, a value
is cut out at an offset exactly when it ends inside the buffer, and then it is the value of the format that is
written as the bytes that were cut; any other offset is refused with the numbers that tell why. -/
theorem integers_round_trip (format : WireInteger) :
    (∀ value, format.InRange value → ∀ before behind,
      format.decode (format.append before value ++ behind) before.length = .ok value) ∧
    ∀ (buffer : Bytes) (offset : UInt64), buffer.length < UInt64.size →
      format.decodeAt? buffer offset = some (format.decode buffer offset.toNat) ∧
      (offset.toNat + format.size ≤ buffer.length → ∃ value, format.InRange value ∧
        format.decodeAt? buffer offset = some (.ok value) ∧
        format.encode value = (buffer.drop offset.toNat).take format.size) ∧
      (buffer.length < offset.toNat + format.size → format.decodeAt? buffer offset =
        some (.error (.shortBuffer format.size offset.toNat buffer.length))) := by
  refine ⟨fun _ inRange => decode_append inRange, fun buffer offset addressable => ?_⟩
  have unchecked := @decodeAt?_eq format _ addressable offset
  refine ⟨unchecked, fun inside => ?_, fun outside => ?_⟩
  · have whole := length_cut inside
    refine ⟨_, inRange_ofBytes whole, ?_, encode_ofBytes whole⟩
    rw [unchecked, decode_eq_ok_iff.mpr ⟨inside, rfl⟩]
  · rw [unchecked, decode_eq_error_iff.mpr ⟨outside, rfl⟩]

/-- The least value there is, between two bytes, and an offset at the end of the address space. -/
theorem extremes_round_trip :
    i64.InRange (-9223372036854775808) ∧
    i64.decode (i64.append [0xAA] (-9223372036854775808) ++ [0xBB]) 1 = .ok (-9223372036854775808) ∧
    (∃ value, i16.InRange value ∧ i16.decodeAt? [0xAA, 0x18, 0xFC] 1 = some (.ok value) ∧
      i16.encode value = [0x18, 0xFC]) ∧
    i64.decodeAt? [0xAA, 0x18, 0xFC] 18446744073709551615 =
      some (.error (.shortBuffer 8 18446744073709551615 3)) := by
  have least : i64.InRange (-9223372036854775808) := by decide
  obtain ⟨written, far⟩ := integers_round_trip i64
  obtain ⟨-, near⟩ := integers_round_trip i16
  exact ⟨least, written _ least [0xAA] [0xBB], (near [0xAA, 0x18, 0xFC] 1 (by decide)).2.1 (by decide),
    (far [0xAA, 0x18, 0xFC] 18446744073709551615 (by decide)).2.2 (by decide)⟩

end FlightLink.WireInteger
