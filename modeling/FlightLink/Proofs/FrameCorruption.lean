import FlightLink.Proofs.ChecksumResidue
import FlightLink.Proofs.FrameReception

/-! Frames with errors on top of them. Errors that leave the framing alone give the wire
image of another frame of the same length, only with a last byte that need not be its
checksum. It is the checksum just when the errors alone have no residue, so what a
checksum detects depends on the errors and not on the frame. -/

namespace FlightLink

open Checksum (residue bits)

/-- Where preamble, marker, direction and length stand in a frame. -/
def Version.framing : Version → List Nat
  | v1 => [0, 1, 2, 3]
  | v2 => [0, 1, 2, 6, 7]

namespace Frame

variable {version : Version} {frame : Frame} {errors : Bytes}

theorem length_wire : (frame.wire version).length = version.headerSize + frame.payload.length + 3 := by
  simp only [wire, header_eq_bytes, List.length_cons, List.length_append, Header.length_bytes,
    List.length_nil]

def checked (version : Version) (frame : Frame) : Bytes :=
  (frame.header version).tail ++ frame.payload

theorem checksum_eq_residue (fits : frame.Fits version) :
    frame.checksum version = residue version (frame.checked version) := by
  cases version with
  | v1 =>
    simp only [checksum, Checksum.v1, residue, checked, header, List.tail_cons, List.cons_append,
      List.nil_append, Checksum.xor_cons, UInt8.xor_assoc]
  | v2 =>
    have length : (UInt16.ofNat frame.payload.length).toNat = frame.payload.length := by
      rw [UInt16.toNat_ofNat']
      exact Nat.mod_eq_of_lt (Nat.lt_succ_of_le fits.1)
    rw [checksum, Checksum.v2, length, residue, Checksum.crc, Checksum.crc, Checksum.update_eq_divide,
      Checksum.update_eq_divide, Checksum.update_eq_divide, ← Checksum.divide_append]
    rfl

/-- Errors on top of a frame, with none where its framing stands. -/
structure Disturbs (version : Version) (frame : Frame) (errors : Bytes) : Prop where
  whole : errors.length = (frame.wire version).length
  spares : ∀ place ∈ version.framing, errors[place]? = some 0

theorem Disturbs.parts (disturbs : Disturbs version frame errors) :
    ∃ fields body last, errors = 0 :: 0 :: 0 :: (fields ++ (body ++ [last])) ∧
      fields.length + 1 = version.headerSize ∧ body.length = frame.payload.length ∧
      ∀ place ∈ version.framing, 3 ≤ place → fields[place - 3]? = some 0 := by
  obtain ⟨whole, spares⟩ := disturbs
  have length : errors.length = 3 + (version.headerSize - 1) + frame.payload.length + 1 := by
    rw [whole, length_wire]
    cases version <;> simp only [Version.headerSize] <;> omega
  obtain ⟨first, second, third, rest, rfl⟩ : ∃ first second third rest,
      errors = first :: second :: third :: rest := by
    obtain _ | ⟨first, _ | ⟨second, _ | ⟨third, rest⟩⟩⟩ := errors
    · cases length
    · simp only [List.length_cons, List.length_nil] at length
      omega
    · simp only [List.length_cons, List.length_nil] at length
      omega
    · exact ⟨_, _, _, _, rfl⟩
  obtain rfl : first = 0 := Option.some.inj (spares 0 (by cases version <;> decide))
  obtain rfl : second = 0 := Option.some.inj (spares 1 (by cases version <;> decide))
  obtain rfl : third = 0 := Option.some.inj (spares 2 (by cases version <;> decide))
  simp only [List.length_cons] at length
  have some : rest.drop (version.headerSize - 1) ≠ [] := by
    intro none
    have short := List.drop_eq_nil_iff.mp none
    omega
  refine ⟨rest.take (version.headerSize - 1), (rest.drop (version.headerSize - 1)).dropLast,
    (rest.drop (version.headerSize - 1)).getLast some, ?_, ?_, ?_, ?_⟩
  · rw [List.dropLast_concat_getLast, List.take_append_drop]
  · rw [List.length_take_of_le (by omega)]
    cases version <;> rfl
  · rw [List.length_dropLast, List.length_drop]
    omega
  · intro place member behind
    have inside : ∀ place ∈ version.framing, place < version.headerSize + 2 := by
      cases version <;> decide
    have early := inside place member
    obtain ⟨offset, rfl⟩ := Nat.exists_eq_add_of_le' behind
    rw [Nat.add_sub_cancel, List.getElem?_take_of_lt (by omega)]
    exact spares _ member

private theorem eq_of_ofNat_eq {one other : Nat} (small : one ≤ 255) (short : other ≤ 255)
    (same : UInt8.ofNat one = UInt8.ofNat other) : one = other := by
  have numbers := congrArg UInt8.toNat same
  rw [UInt8.toNat_ofNat', UInt8.toNat_ofNat'] at numbers
  omega

private theorem eq_of_bytes_eq {one other : Nat} (small : one ≤ 65535) (short : other ≤ 65535)
    (same : LittleEndian.bytes 2 one = LittleEndian.bytes 2 other) : one = other := by
  have numbers := congrArg LittleEndian.value same
  have power : Nat.pow 256 2 = 65536 := by decide
  rw [LittleEndian.value_bytes, LittleEndian.value_bytes, power] at numbers
  omega

theorem exists_fields_blend {fields : Bytes} (fits : frame.Fits version)
    (whole : fields.length + 1 = version.headerSize)
    (spares : ∀ place ∈ version.framing, 3 ≤ place → fields[place - 3]? = some 0) :
    ∃ other : Header, other.Fits version ∧ other.direction = frame.direction ∧
      other.length = frame.payload.length ∧
      blend (frame.header version) (0 :: fields) = other.bytes version := by
  have size : (blend (frame.header version) (0 :: fields)).length = version.headerSize := by
    rw [blend, List.length_zipWith, header_eq_bytes, Header.length_bytes, List.length_cons, whole,
      Nat.min_self]
  obtain ⟨other, room, same⟩ := Header.exists_of_length size
  refine ⟨other, room, ?_, ?_, same⟩
  · have heads := congrArg List.head? same
    cases version <;> simpa [blend, header, Header.bytes] using heads.symm
  · cases version with
    | v1 =>
      obtain ⟨first, last, rfl⟩ : ∃ first last, fields = [first, last] := by
        obtain _ | ⟨first, _ | ⟨last, _ | ⟨_, _⟩⟩⟩ := fields <;>
          first | exact ⟨_, _, rfl⟩ | cases whole
      obtain rfl : first = 0 := by simpa using spares 3 (by decide) (by decide)
      have lengths : UInt8.ofNat frame.payload.length ^^^ 0 = UInt8.ofNat other.length :=
        (List.cons.inj (List.cons.inj same).2).1
      rw [UInt8.xor_zero] at lengths
      exact (eq_of_ofNat_eq fits.1 room.1 lengths).symm
    | v2 =>
      obtain ⟨first, second, third, fourth, fifth, rfl⟩ : ∃ first second third fourth fifth,
          fields = [first, second, third, fourth, fifth] := by
        obtain _ | ⟨_, _ | ⟨_, _ | ⟨_, _ | ⟨_, _ | ⟨_, _ | ⟨_, _⟩⟩⟩⟩⟩⟩ := fields <;>
          first | exact ⟨_, _, _, _, _, rfl⟩ | cases whole
      obtain rfl : fourth = 0 := by simpa using spares 6 (by decide) (by decide)
      obtain rfl : fifth = 0 := by simpa using spares 7 (by decide) (by decide)
      have lengths : [UInt8.ofNat frame.payload.length ^^^ 0,
          UInt8.ofNat (frame.payload.length / 256) ^^^ 0] = LittleEndian.bytes 2 other.length :=
        congrArg (List.drop 4) same
      rw [UInt8.xor_zero, UInt8.xor_zero] at lengths
      exact (eq_of_bytes_eq fits.1 room.1 lengths).symm

private theorem blend_append {front back errors more : Bytes} (whole : front.length = errors.length) :
    blend (front ++ back) (errors ++ more) = blend front errors ++ blend back more :=
  List.zipWith_append whole

/-- The frame under errors is another frame, but for its last byte. That byte is the checksum of
the other frame just when the errors leave no residue of their own. -/
theorem Disturbs.exists_ending (disturbs : Disturbs version frame errors)
    (fits : frame.Fits version) :
    ∃ (other : Frame) (last : UInt8), other.Fits version ∧ other.direction = frame.direction ∧
      blend (frame.wire version) errors = other.ending version last ∧
      (last = other.checksum version ↔ residue version errors = 0) := by
  obtain ⟨fields, body, error, rfl, whole, even, spares⟩ := disturbs.parts
  obtain ⟨header, room, direction, length, blended⟩ := exists_fields_blend fits whole spares
  have size : (blend frame.payload body).length = header.length := by
    rw [blend, List.length_zipWith, even, Nat.min_self, length]
  obtain ⟨other, space, rfl, payload⟩ := exists_of_fields room size
  rw [← header_eq_bytes] at blended
  have front : (frame.header version).length = (0 :: fields).length := by
    rw [header_eq_bytes, Header.length_bytes, List.length_cons, whole]
  refine ⟨other, frame.checksum version ^^^ error, space, direction, ?_, ?_⟩
  · have spared : blend (frame.wire version) (0 :: 0 :: 0 :: (fields ++ (body ++ [error]))) =
        preamble :: version.marker :: blend (frame.header version ++
          (frame.payload ++ [frame.checksum version])) (0 :: fields ++ (body ++ [error])) := by
      simp [blend, wire]
    rw [spared, blend_append front, blend_append even.symm, blended, ← payload]
    rfl
  · have behind : (frame.header version).tail.length = fields.length := by
      rw [List.length_tail, front, List.length_cons, Nat.add_sub_cancel]
    have tails : (other.header version).tail = blend (frame.header version).tail fields := by
      rw [← blended]
      cases frame.header version <;> rfl
    have ended : other.checked version ++ [frame.checksum version ^^^ error] =
        blend (frame.checked version ++ [frame.checksum version]) (fields ++ (body ++ [error])) := by
      rw [checked, checked, List.append_assoc, List.append_assoc, blend_append behind,
        blend_append even.symm, tails, payload]
      rfl
    have own : residue version (frame.checked version ++ [frame.checksum version]) = 0 :=
      Checksum.residue_snoc_eq_zero_iff.mpr (checksum_eq_residue fits)
    have sizes : (frame.checked version ++ [frame.checksum version]).length =
        (fields ++ (body ++ [error])).length := by
      simp only [checked, List.length_append, behind, even, List.length_singleton, Nat.add_assoc]
    rw [checksum_eq_residue space, ← Checksum.residue_snoc_eq_zero_iff, ended,
      Checksum.residue_blend sizes, own, UInt8.zero_xor]
    simp only [Checksum.residue_zero_cons]

end Frame

def Receipt.Mismatched (receipt : Receipt) : Prop :=
  ∃ wanted last, receipt.code = .error (.checksumMismatch wanted last)

variable {version : Version} {frame : Frame} {errors rest : Bytes} {line : Line}

/-- The errors alone decide whether the checksum is found wrong. The frame is taken whole either way. -/
theorem Frame.Disturbs.ends_receiveFrame (respond : Responder) (disturbs : frame.Disturbs version errors)
    (fits : frame.Fits version) (normal : frame.direction ≠ Frame.refusal)
    (waiting : line.inbound = blend (frame.wire version) errors ++ rest) :
    ∃ receipt : Receipt, (receipt.Mismatched ↔ residue version errors ≠ 0) ∧
      (receiveFrame version).Ends (Line.serves respond)
        (fun result after => result = receipt ∧ line.Took rest after) line := by
  obtain ⟨other, last, space, direction, blended, right⟩ := disturbs.exists_ending fits
  rw [← direction] at normal
  by_cases clean : residue version errors = 0
  · have parses := @Parses.accepted version [] rest other .nil space normal
    rw [Frame.wire_eq_ending, ← right.mpr clean, ← blended, List.nil_append, ← waiting] at parses
    refine ⟨_, ?_, parses.ends⟩
    simp [Receipt.Mismatched, clean]
  · have wrong : last ≠ other.checksum version := fun same => clean (right.mp same)
    have parses := @Parses.corrupt version [] rest other last .nil space normal wrong
    rw [← blended, List.nil_append, ← waiting] at parses
    refine ⟨_, ?_, parses.ends⟩
    simp [Receipt.Mismatched, clean]

/-- All wrong bits lie within eight places of each other. -/
def Burst (errors : Bytes) : Prop :=
  ∃ start, ∀ place : Nat, (bits errors)[place]? = some true → start ≤ place ∧ place < start + 8

/-- A frame under errors that spare its framing is received whole, and what stands behind it stays.
MSPv1 detects the errors just when their bytes do not cancel out, as one wrong byte alone never does.
MSPv2 detects any odd number of wrong bits, and any that lie close together. -/
theorem corruption_detected (respond : Responder) (fits : frame.Fits version)
    (normal : frame.direction ≠ Frame.refusal) (disturbs : frame.Disturbs version errors)
    (spoilt : ∃ byte ∈ errors, byte ≠ 0)
    (waiting : line.inbound = blend (frame.wire version) errors ++ rest) :
    ∃ receipt : Receipt,
      (match version with
        | .v1 => (receipt.Mismatched ↔ errors.foldl (· ^^^ ·) 0 ≠ 0) ∧
            (errors.countP (· ≠ 0) = 1 → receipt.Mismatched)
        | .v2 => ((bits errors).count true % 2 = 1 ∨ Burst errors) → receipt.Mismatched) ∧
      (receiveFrame version).Ends (Line.serves respond)
        (fun result after => result = receipt ∧ line.Took rest after) line := by
  obtain ⟨receipt, found, ends⟩ := disturbs.ends_receiveFrame respond fits normal waiting
  refine ⟨receipt, ?_, ends⟩
  cases version with
  | v1 => exact ⟨found, fun single => found.mpr (Checksum.xor_ne_zero_of_single single)⟩
  | v2 =>
    intro limited
    apply found.mpr
    obtain uneven | ⟨start, close⟩ := limited
    · exact Checksum.crc_ne_zero_of_odd uneven
    · exact Checksum.crc_ne_zero_of_burst spoilt close

def bruised : Frame := ⟨Frame.answer, 0, 105, [0xDC, 0x05]⟩

/-- In MSPv1 one wrong byte, in MSPv2 two wrong bits on either side of a byte boundary. -/
theorem bruised_detected :
    (∃ receipt : Receipt, receipt.Mismatched ∧
      (receiveFrame .v1).Ends (Line.serves Responder.silent)
        (fun result after => result = receipt ∧ after.inbound = [0x24])
        ⟨.new .v1, [0x24, 0x4D, 0x3E, 2, 105, 0xDC, 0x15, 0xB2, 0x24], []⟩) ∧
    ∃ receipt : Receipt, receipt.Mismatched ∧
      (receiveFrame .v2).Ends (Line.serves Responder.silent)
        (fun result after => result = receipt ∧ after.inbound = [])
        ⟨.new .v2, blend (bruised.wire .v2) [0, 0, 0, 0, 0, 0, 0, 0, 0, 1, 0x80], []⟩ := by
  constructor
  · obtain ⟨receipt, ⟨_, single⟩, ends⟩ := @corruption_detected .v1 bruised
      [0, 0, 0, 0, 0, 0, 0x10, 0] [0x24]
      ⟨.new .v1, [0x24, 0x4D, 0x3E, 2, 105, 0xDC, 0x15, 0xB2, 0x24], []⟩ Responder.silent (by decide)
      (by decide) ⟨by decide, by decide⟩ (by decide) (by decide)
    exact ⟨receipt, single (by decide), ends.weaken fun _ _ ended => ⟨ended.1, ended.2.inbound⟩⟩
  · have close : Burst [0, 0, 0, 0, 0, 0, 0, 0, 0, 1, 0x80] := by
      refine ⟨79, fun place wrong => ?_⟩
      have all : ∀ place < 88, (bits [0, 0, 0, 0, 0, 0, 0, 0, 0, 1, 0x80])[place]? = some true →
          79 ≤ place ∧ place < 79 + 8 := by
        decide +kernel
      exact all place (List.getElem?_eq_some_iff.mp wrong).1 wrong
    obtain ⟨receipt, found, ends⟩ := @corruption_detected .v2 bruised
      [0, 0, 0, 0, 0, 0, 0, 0, 0, 1, 0x80] []
      ⟨.new .v2, blend (bruised.wire .v2) [0, 0, 0, 0, 0, 0, 0, 0, 0, 1, 0x80], []⟩ Responder.silent
      (by decide) (by decide) ⟨by decide, by decide⟩ (by decide) (List.append_nil _).symm
    exact ⟨receipt, found (.inr close), ends.weaken fun _ _ ended => ⟨ended.1, ended.2.inbound⟩⟩

end FlightLink
