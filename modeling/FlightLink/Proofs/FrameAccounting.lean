import FlightLink.Proofs.AnswerReception

/-! Each outcome of a reception tells what stood on the line, and what stood on the
line tells the outcome. Both go together with the bytes that are left: a receiver
that left one byte too many or too few would misread the next frame. -/

namespace FlightLink

/-- What an outcome and the bytes that are left say about the input, and the reverse. -/
structure Accounts (version : Version) (input : Bytes) (receipt : Receipt) (rest : Bytes) : Prop where
  consumed : ∃ taken, input = taken ++ rest
  accepted (code : UInt16) (payload remainder : Bytes) :
    receipt = ⟨.ok code, payload⟩ ∧ rest = remainder ↔
      ∃ (noise : Bytes) (frame : Frame), Noise noise ∧ frame.Fits version ∧
        frame.direction ≠ Frame.refusal ∧ frame.code = code ∧ frame.payload = payload ∧
        input = noise ++ (frame.wire version ++ remainder)
  foreign (expected received : Version) (remainder : Bytes) :
    receipt.code = .error (.versionMismatch expected received) ∧ rest = remainder ↔
      expected = version ∧ received = version.other ∧ ∃ noise, Noise noise ∧
        input = noise ++ (Frame.preamble :: version.other.marker :: remainder)
  /-- The rest of a refusal goes as far as it is there. -/
  refused (code : UInt16) (remainder : Bytes) :
    receipt.code = .error (.rejected code) ∧ rest = remainder ↔
      ∃ (noise : Bytes) (fields : Header) (behind : Bytes), Noise noise ∧ fields.Fits version ∧
        fields.direction = Frame.refusal ∧ fields.code = code ∧
        input = noise ++ (Frame.preamble :: version.marker :: (fields.bytes version ++ behind)) ∧
        remainder = behind.drop (fields.length + 1)
  corrupt (wanted last : UInt8) (remainder : Bytes) :
    receipt.code = .error (.checksumMismatch wanted last) ∧ rest = remainder ↔
      ∃ (noise : Bytes) (frame : Frame), Noise noise ∧ frame.Fits version ∧
        frame.direction ≠ Frame.refusal ∧ frame.checksum version = wanted ∧ last ≠ wanted ∧
        input = noise ++ (frame.ending version last ++ remainder)
  short (got asked : Nat) (remainder : Bytes) :
    receipt.code = .error (.shortRead got asked) ∧ rest = remainder ↔
      remainder = [] ∧ ∃ noise part buffer, Noise noise ∧ Cut version part got asked buffer ∧
        input = noise ++ part
  nothingElse :
    (∃ code, receipt.code = .ok code) ∨
    (∃ expected received, receipt.code = .error (.versionMismatch expected received)) ∨
    (∃ code, receipt.code = .error (.rejected code)) ∨
    (∃ wanted last, receipt.code = .error (.checksumMismatch wanted last)) ∨
    (∃ got asked, receipt.code = .error (.shortRead got asked))

namespace Parses

variable {version : Version} {input rest : Bytes} {receipt : Receipt}

theorem accounts (parses : Parses version input receipt rest) :
    Accounts version input receipt rest where
  consumed := by
    obtain ⟨taken, split, _⟩ := parses.consumes
    exact ⟨taken, split⟩
  accepted code payload remainder := by
    constructor
    · intro seen
      obtain ⟨same, rfl⟩ := seen
      cases parses with
      | accepted skipped fits normal =>
        cases same
        exact ⟨_, _, skipped, fits, normal, rfl, rfl, rfl⟩
      | _ => cases same
    · intro stood
      obtain ⟨noise, frame, skipped, fits, normal, rfl, rfl, rfl⟩ := stood
      exact (Parses.accepted skipped fits normal).unique parses
  foreign expected received remainder := by
    constructor
    · intro seen
      obtain ⟨same, rfl⟩ := seen
      cases parses with
      | foreign skipped =>
        cases same
        exact ⟨rfl, rfl, _, skipped, rfl⟩
      | _ => cases same
    · intro stood
      obtain ⟨rfl, rfl, noise, skipped, rfl⟩ := stood
      obtain ⟨rfl, rfl⟩ := (Parses.foreign skipped).unique parses
      exact ⟨rfl, rfl⟩
  refused code remainder := by
    constructor
    · intro seen
      obtain ⟨same, rfl⟩ := seen
      cases parses with
      | refused skipped fits refusal =>
        cases same
        exact ⟨_, _, _, skipped, fits, refusal, rfl, rfl, rfl⟩
      | _ => cases same
    · intro stood
      obtain ⟨noise, fields, behind, skipped, fits, refusal, rfl, rfl, rfl⟩ := stood
      obtain ⟨rfl, rfl⟩ := (Parses.refused skipped fits refusal).unique parses
      exact ⟨rfl, rfl⟩
  corrupt wanted last remainder := by
    constructor
    · intro seen
      obtain ⟨same, rfl⟩ := seen
      cases parses with
      | corrupt skipped fits normal wrong =>
        cases same
        exact ⟨_, _, skipped, fits, normal, rfl, wrong, rfl⟩
      | _ => cases same
    · intro stood
      obtain ⟨noise, frame, skipped, fits, normal, rfl, wrong, rfl⟩ := stood
      obtain ⟨rfl, rfl⟩ := (Parses.corrupt skipped fits normal wrong).unique parses
      exact ⟨rfl, rfl⟩
  short got asked remainder := by
    constructor
    · intro seen
      obtain ⟨same, rfl⟩ := seen
      cases parses with
      | cut skipped broken =>
        cases same
        exact ⟨rfl, _, _, _, skipped, broken, rfl⟩
      | _ => cases same
    · intro stood
      obtain ⟨rfl, noise, part, buffer, skipped, broken, rfl⟩ := stood
      obtain ⟨rfl, rfl⟩ := (Parses.cut skipped broken).unique parses
      exact ⟨rfl, rfl⟩
  nothingElse := by
    cases parses with
    | accepted => exact .inl ⟨_, rfl⟩
    | foreign => exact .inr (.inl ⟨_, _, rfl⟩)
    | refused => exact .inr (.inr (.inl ⟨_, rfl⟩))
    | corrupt => exact .inr (.inr (.inr (.inl ⟨_, _, rfl⟩)))
    | cut => exact .inr (.inr (.inr (.inr ⟨_, _, rfl⟩)))

end Parses

/-- A reception ends whatever is on the line, does nothing but read, and accounts for
every byte. So does a link, whatever its payload buffer held before. -/
theorem reception_accounts (version : Version) (respond : Responder) (line : Line) :
    (receiveFrame version).Ends (Line.serves respond)
      (fun receipt after => Accounts version line.inbound receipt after.inbound ∧
        line.Took after.inbound after) line ∧
    ∀ buffer : Bytes, (Link.receive (.new version) buffer).Ends (Line.serves respond)
      (fun received after =>
        Accounts version line.inbound ⟨received.outcome, received.payload⟩ after.inbound) line := by
  obtain ⟨receipt, rest, parses⟩ := Parses.total version line.inbound
  constructor
  · apply parses.ends.weaken
    intro _ after ended
    obtain ⟨rfl, took⟩ := ended
    rw [took.inbound]
    exact ⟨parses.accounts, took⟩
  · intro buffer
    apply (Link.ends_receive parses buffer).weaken
    intro _ after ended
    obtain ⟨rfl, middle, took, rfl⟩ := ended
    have left : (middle.told (Link.remarks (.new version) receipt)).inbound = rest := took.inbound
    rw [left]
    exact parses.accounts

end FlightLink
