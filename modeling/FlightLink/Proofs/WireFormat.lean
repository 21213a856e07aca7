import FlightLink.Reception

/-! The wire format as a receiver meets it, apart from how it reads: headers as
byte strings, frames that end in any byte, and the noise that may stand before a
frame. Every byte string is noise up to the first preamble that a marker follows. -/

namespace FlightLink

namespace Header

def bytes (version : Version) (fields : Header) : Bytes :=
  match version with
  | .v1 => [fields.direction, UInt8.ofNat fields.length, UInt8.ofNat fields.code.toNat]
  | .v2 =>
    fields.direction :: fields.flag ::
      (LittleEndian.bytes 2 fields.code.toNat ++ LittleEndian.bytes 2 fields.length)

/-- Whether the version has room for the fields. MSPv1 has none for a flag. -/
def Fits (version : Version) (fields : Header) : Prop :=
  fields.length ≤ version.maxPayload ∧
    (version = .v1 → fields.code.toNat < 256 ∧ fields.flag = 0)

variable {version : Version} {fields : Header}

theorem length_bytes : (fields.bytes version).length = version.headerSize := by
  cases version <;> simp [bytes, Version.headerSize]

private theorem toNat_ofNat_of_lt {number : Nat} (small : number < 256) :
    (UInt8.ofNat number).toNat = number := by
  rw [UInt8.toNat_ofNat']
  exact Nat.mod_eq_of_lt small

private theorem ofNat_toNat_of_lt {code : UInt16} (small : code.toNat < 256) :
    UInt16.ofNat (UInt8.ofNat code.toNat).toNat = code := by
  rw [toNat_ofNat_of_lt small, UInt16.ofNat_toNat]

private theorem value_bytes_of_lt {number : Nat} (small : number < 65536) :
    LittleEndian.value (LittleEndian.bytes 2 number) = number := by
  rw [LittleEndian.value_bytes]
  exact Nat.mod_eq_of_lt small

theorem ofBytes?_bytes (fits : fields.Fits version) :
    ofBytes? version (fields.bytes version) = some fields := by
  obtain ⟨bounded, narrow⟩ := fits
  cases version with
  | v1 =>
    obtain ⟨small, unflagged⟩ := narrow rfl
    have short : fields.length < 256 := Nat.lt_succ_of_le bounded
    simp only [bytes, ofBytes?, toNat_ofNat_of_lt short, ofNat_toNat_of_lt small, ← unflagged]
  | v2 =>
    have code := value_bytes_of_lt fields.code.toNat_lt
    have length := value_bytes_of_lt (Nat.lt_succ_of_le bounded)
    simp only [LittleEndian.bytes] at code length
    simp only [bytes, LittleEndian.bytes, List.cons_append, List.nil_append, ofBytes?, code, length,
      UInt16.ofNat_toNat]

private theorem bytes_value_pair (low high : UInt8) :
    LittleEndian.bytes 2 (LittleEndian.value [low, high]) = [low, high] :=
  LittleEndian.bytes_value [low, high]

theorem of_ofBytes? {string : Bytes} (read : ofBytes? version string = some fields) :
    fields.Fits version ∧ string = fields.bytes version := by
  unfold ofBytes? at read
  split at read
  · rename_i direction length code
    cases read
    have narrow : (UInt16.ofNat code.toNat).toNat = code.toNat := by
      rw [UInt16.toNat_ofNat']
      exact Nat.mod_eq_of_lt (Nat.lt_trans code.toNat_lt (by decide))
    have small : (UInt16.ofNat code.toNat).toNat < 256 := by
      rw [narrow]
      exact code.toNat_lt
    refine ⟨⟨Nat.le_of_lt_succ length.toNat_lt, fun _ => ⟨small, rfl⟩⟩, ?_⟩
    simp only [bytes, narrow, UInt8.ofNat_toNat]
  · rename_i direction flag codeLow codeHigh lengthLow lengthHigh
    cases read
    have wide : (UInt16.ofNat (LittleEndian.value [codeLow, codeHigh])).toNat =
        LittleEndian.value [codeLow, codeHigh] := by
      rw [UInt16.toNat_ofNat']
      exact Nat.mod_eq_of_lt (LittleEndian.value_pair_lt codeLow codeHigh)
    refine ⟨⟨Nat.le_of_lt_succ (LittleEndian.value_pair_lt lengthLow lengthHigh), nofun⟩, ?_⟩
    simp only [bytes, wide, bytes_value_pair, List.cons_append, List.nil_append]
  · cases read

theorem exists_of_length {string : Bytes} (whole : string.length = version.headerSize) :
    ∃ fields : Header, fields.Fits version ∧ string = fields.bytes version := by
  cases read : ofBytes? version string with
  | some fields => exact ⟨fields, of_ofBytes? read⟩
  | none =>
    exfalso
    cases version with
    | v1 => match string, whole with | [_, _, _], _ => cases read
    | v2 => match string, whole with | [_, _, _, _, _, _], _ => cases read

end Header

namespace Frame

variable {version : Version} {frame : Frame}

def fields (version : Version) (frame : Frame) : Header :=
  ⟨frame.direction, if version = .v1 then 0 else frame.flag, frame.code, frame.payload.length⟩

/-- A frame that ends in some byte instead of its checksum. -/
def ending (version : Version) (frame : Frame) (last : UInt8) : Bytes :=
  preamble :: version.marker :: (frame.header version ++ (frame.payload ++ [last]))

theorem wire_eq_ending : frame.wire version = frame.ending version (frame.checksum version) := by
  simp only [wire, ending, List.append_assoc]

theorem header_eq_bytes : frame.header version = (frame.fields version).bytes version := by
  cases version <;> rfl

theorem fits_fields (fits : frame.Fits version) : (frame.fields version).Fits version :=
  ⟨fits.1, fun narrow => ⟨fits.2 narrow, if_pos narrow⟩⟩

theorem expected_fields :
    Reception.expected version (frame.fields version) frame.payload = frame.checksum version := by
  cases version <;> rfl

theorem exists_of_fields {fields : Header} (fits : fields.Fits version) {payload : Bytes}
    (whole : payload.length = fields.length) :
    ∃ frame : Frame, frame.Fits version ∧ frame.fields version = fields ∧
      frame.payload = payload := by
  refine ⟨⟨fields.direction, fields.flag, fields.code, payload⟩, ⟨?_, fun narrow => ?_⟩, ?_, rfl⟩
  · exact whole ▸ fits.1
  · exact (fits.2 narrow).1
  · have flag : (if version = .v1 then 0 else fields.flag) = fields.flag := by
      split
      next narrow => exact (fits.2 narrow).2.symm
      next => rfl
    simp only [Frame.fields, flag, whole]

/-- A request is packed just when the version has room for it. -/
theorem pack_eq_ok_iff {code : UInt16} {payload bytes : Bytes} :
    pack version code payload = .ok bytes ↔
      (ofRequest code payload).Fits version ∧ bytes = (ofRequest code payload).wire version := by
  unfold pack
  constructor
  · intro packed
    split at packed
    · cases packed
    next room =>
      split at packed
      · cases packed
      next short =>
        cases packed
        refine ⟨⟨Nat.le_of_not_lt room, fun narrow => ?_⟩, rfl⟩
        exact Nat.lt_succ_of_le (Nat.le_of_not_lt fun wide => short ⟨narrow, wide⟩)
  · intro room
    obtain ⟨⟨room, narrow⟩, rfl⟩ := room
    have small : ¬ version.maxPayload < payload.length := Nat.not_lt_of_le room
    have short : ¬ (version = .v1 ∧ 255 < code.toNat) :=
      fun wide => absurd (narrow wide.1) (Nat.not_lt.mpr wide.2)
    rw [if_neg small, if_neg short]

end Frame

/-- What is skipped before a frame: bytes that are no preamble, and preambles
together with a byte after them that is no marker. -/
inductive Noise : Bytes → Prop
  | nil : Noise []
  | byte {byte : UInt8} {rest : Bytes} (plain : byte ≠ Frame.preamble) (noise : Noise rest) :
      Noise (byte :: rest)
  | pair {byte : UInt8} {rest : Bytes} (unmarked : ∀ version : Version, byte ≠ version.marker)
      (noise : Noise rest) : Noise (Frame.preamble :: byte :: rest)

theorem Noise.of_plain {scrap : Bytes} (plain : Frame.preamble ∉ scrap) : Noise scrap := by
  induction scrap with
  | nil => exact .nil
  | cons byte scrap ih =>
    simp only [List.mem_cons, not_or] at plain
    exact .byte (Ne.symm plain.1) (ih plain.2)

theorem Version.ofMarker?_eq_none_iff {byte : UInt8} :
    ofMarker? byte = none ↔ ∀ version : Version, byte ≠ version.marker := by
  constructor
  · intro unmarked version marked
    subst marked
    rw [ofMarker?_marker] at unmarked
    cases unmarked
  · intro unmarked
    cases found : ofMarker? byte with
    | none => rfl
    | some version => exact absurd (ofMarker?_eq_some_iff.mp found) (unmarked version)

theorem Version.eq_other_of_ne {version current : Version} (differ : version ≠ current) :
    version = current.other := by
  cases version <;> cases current <;> first | rfl | exact absurd rfl differ

/-- What stands behind noise: nothing, a preamble that was cut off, or the start of
a frame. -/
inductive Noise.Stop : Bytes → Prop
  | nothing : Stop []
  | cut : Stop [Frame.preamble]
  | start (version : Version) (rest : Bytes) : Stop (Frame.preamble :: version.marker :: rest)

theorem exists_noise : ∀ input : Bytes, ∃ noise rest,
    input = noise ++ rest ∧ Noise noise ∧ Noise.Stop rest
  | [] => ⟨[], [], rfl, .nil, .nothing⟩
  | byte :: input => by
    by_cases plain : byte = Frame.preamble
    · subst plain
      cases input with
      | nil => exact ⟨[], _, rfl, .nil, .cut⟩
      | cons second input =>
        by_cases marked : ∃ version : Version, second = version.marker
        · obtain ⟨version, rfl⟩ := marked
          exact ⟨[], _, rfl, .nil, .start version input⟩
        · obtain ⟨noise, rest, rfl, skipped, stop⟩ := exists_noise input
          have unmarked : ∀ version : Version, second ≠ version.marker :=
            fun version same => marked ⟨version, same⟩
          exact ⟨_ :: _ :: noise, rest, rfl, .pair unmarked skipped, stop⟩
    · obtain ⟨noise, rest, rfl, skipped, stop⟩ := exists_noise input
      exact ⟨byte :: noise, rest, rfl, .byte plain skipped, stop⟩

end FlightLink
