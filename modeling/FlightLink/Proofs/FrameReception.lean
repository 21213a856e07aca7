import FlightLink.Proofs.Line
import FlightLink.Proofs.WireFormat

/-! What a reception makes of a byte string. `Leads` follows the phases over the
bytes; `Parses` is the grammar, which says nothing about phases. Every byte string
has exactly one reading by the grammar, and the reception arrives at it. -/

namespace FlightLink

namespace Reception

/-- A reception in some phase, with these bytes to come, ends with this receipt
and leaves the rest. -/
inductive Leads (version : Version) : Reception → Bytes → Receipt → Bytes → Prop
  | done {phase input receipt}
      (moved : phase.advance version (.ok (input.take (phase.awaited version))) = .done receipt) :
      Leads version phase input receipt (input.drop (phase.awaited version))
  | more {phase next : Reception} {input receipt rest}
      (moved : phase.advance version (.ok (input.take (phase.awaited version))) = .more next)
      (later : Leads version next (input.drop (phase.awaited version)) receipt rest) :
      Leads version phase input receipt rest

def continued (version : Version) (phase : Reception) : Program Receipt :=
  Program.loop phase fun phase => do
    let delivered ← Program.read (phase.awaited version)
    return phase.advance version delivered

variable {version : Version} {phase next : Reception} {input chunk rest remaining : Bytes}
  {receipt : Receipt}

theorem Leads.ends {respond : Responder} {line : Line}
    (leads : Leads version phase line.inbound receipt rest) :
    (continued version phase).Ends (Line.serves respond)
      (fun result after => result = receipt ∧ line.Took rest after) line := by
  generalize waiting : line.inbound = input at leads
  induction leads generalizing line with
  | done moved =>
    subst waiting
    apply Program.Ends.iterate
    rw [Program.unfold, Program.bind_eq, Program.bind_assoc]
    apply Line.ends_read
    simp only [pure, Program.bind, moved]
    exact .pure ⟨rfl, line.took_once _⟩
  | more moved _ ih =>
    subst waiting
    apply Program.Ends.iterate
    rw [Program.unfold, Program.bind_eq, Program.bind_assoc]
    apply Line.ends_read
    simp only [pure, Program.bind, moved]
    apply (ih rfl).weaken
    intro result after ended
    obtain ⟨same, took⟩ := ended
    exact ⟨same, (line.took_once _).trans took⟩

theorem Leads.unique {other : Receipt} {left : Bytes}
    (first : Leads version phase input receipt rest)
    (second : Leads version phase input other left) : other = receipt ∧ left = rest := by
  induction first with
  | done moved =>
    cases second with
    | done again =>
      rw [moved] at again
      cases again
      exact ⟨rfl, rfl⟩
    | more again => rw [moved] at again; cases again
  | more moved _ ih =>
    cases second with
    | done again => rw [moved] at again; cases again
    | more again later =>
      rw [moved] at again
      cases again
      exact ih later

private theorem advance_whole (whole : chunk.length = phase.awaited version) :
    phase.advance version (.ok chunk) = phase.complete version chunk := by
  simp only [advance, whole, Nat.lt_irrefl, false_and, if_false]

theorem Leads.step (whole : chunk.length = phase.awaited version)
    (moved : phase.complete version chunk = .more next)
    (later : Leads version next remaining receipt rest) :
    Leads version phase (chunk ++ remaining) receipt rest := by
  apply Leads.more
  · rw [← whole, List.take_left, advance_whole whole, moved]
  · rw [← whole, List.drop_left]
    exact later

theorem Leads.finish (whole : chunk.length = phase.awaited version)
    (moved : phase.complete version chunk = .done receipt) :
    Leads version phase (chunk ++ rest) receipt rest := by
  have leads : Leads version phase (chunk ++ rest) receipt
      ((chunk ++ rest).drop (phase.awaited version)) := by
    apply Leads.done
    rw [← whole, List.take_left, advance_whole whole, moved]
  rwa [← whole, List.drop_left] at leads

theorem Leads.short (few : input.length < phase.awaited version)
    (strict : phase.mayBeShort = false) :
    Leads version phase input
      ⟨.error (.shortRead input.length (phase.awaited version)), phase.remains input⟩ [] := by
  rw [← List.drop_of_length_le (Nat.le_of_lt few)]
  apply Leads.done
  rw [List.take_of_length_le (Nat.le_of_lt few), advance, if_pos ⟨few, strict⟩]

private theorem Leads.byte {byte : UInt8} (single : phase.awaited version = 1)
    (moved : phase.complete version [byte] = .more next)
    (later : Leads version next remaining receipt rest) :
    Leads version phase (byte :: remaining) receipt rest := by
  change Leads version phase ([byte] ++ remaining) receipt rest
  exact .step single.symm moved later

theorem Leads.skip (noise : Noise input) (later : Leads version .preamble remaining receipt rest) :
    Leads version .preamble (input ++ remaining) receipt rest := by
  induction noise with
  | nil => exact later
  | byte plain _ ih => exact .byte rfl (by simp only [complete, if_neg plain]) ih
  | pair unmarked _ ih =>
    have unknown := Version.ofMarker?_eq_none_iff.mpr unmarked
    apply Leads.byte rfl (by simp only [complete, if_true]; rfl)
    exact .byte rfl (by simp only [complete, unknown]) ih

theorem Leads.start (later : Leads version .header remaining receipt rest) :
    Leads version .preamble (Frame.preamble :: version.marker :: remaining) receipt rest := by
  apply Leads.byte rfl (by simp only [complete, if_true]; rfl)
  apply Leads.byte rfl ?_ later
  simp only [complete, Version.ofMarker?_marker, if_true]

variable {fields : Header}

theorem Leads.pastHeader (fits : fields.Fits version)
    (later : Leads version (afterHeader fields) remaining receipt rest) :
    Leads version .header (fields.bytes version ++ remaining) receipt rest := by
  apply Leads.step Header.length_bytes ?_ later
  simp only [complete, Header.ofBytes?_bytes fits]

theorem Leads.pastPayload {payload : Bytes} (normal : fields.direction ≠ Frame.refusal)
    (whole : payload.length = fields.length)
    (later : Leads version (.checksum fields payload) remaining receipt rest) :
    Leads version (afterHeader fields) (payload ++ remaining) receipt rest := by
  by_cases empty : fields.length = 0
  · rw [empty] at whole
    obtain rfl := List.eq_nil_of_length_eq_zero whole
    rw [afterHeader, if_neg normal, if_pos empty]
    exact later
  · rw [afterHeader, if_neg normal, if_neg empty]
    exact .step whole rfl later

theorem Leads.dropRefusal (refused : fields.direction = Frame.refusal) :
    Leads version (afterHeader fields) remaining ⟨.error (.rejected fields.code), []⟩
      (remaining.drop (fields.length + 1)) := by
  rw [afterHeader, if_pos refused]
  exact .done (by simp only [advance, mayBeShort, complete]; simp)

end Reception

/-- A frame that breaks off: what is there of it, how many bytes the last read gave,
how many it asked for, and what the payload buffer holds then. -/
inductive Cut (version : Version) : Bytes → Nat → Nat → Bytes → Prop
  | preamble : Cut version [] 0 1 []
  | marker : Cut version [Frame.preamble] 0 1 []
  | header {part : Bytes} (few : part.length < version.headerSize) :
      Cut version (Frame.preamble :: version.marker :: part) part.length version.headerSize []
  | payload {fields : Header} {part : Bytes} (fits : fields.Fits version)
      (normal : fields.direction ≠ Frame.refusal) (few : part.length < fields.length) :
      Cut version (Frame.preamble :: version.marker :: (fields.bytes version ++ part)) part.length
        fields.length (part ++ List.replicate (fields.length - part.length) 0)
  | checksum {fields : Header} {payload : Bytes} (fits : fields.Fits version)
      (normal : fields.direction ≠ Frame.refusal) (whole : payload.length = fields.length) :
      Cut version (Frame.preamble :: version.marker :: (fields.bytes version ++ payload)) 0 1 payload

/-- The readings of a byte string: what a receiver of the version should make of it,
and the bytes that it should leave. -/
inductive Parses (version : Version) : Bytes → Receipt → Bytes → Prop
  | accepted {noise rest : Bytes} {frame : Frame} (skipped : Noise noise)
      (fits : frame.Fits version) (normal : frame.direction ≠ Frame.refusal) :
      Parses version (noise ++ (frame.wire version ++ rest)) ⟨.ok frame.code, frame.payload⟩ rest
  | corrupt {noise rest : Bytes} {frame : Frame} {last : UInt8} (skipped : Noise noise)
      (fits : frame.Fits version) (normal : frame.direction ≠ Frame.refusal)
      (wrong : last ≠ frame.checksum version) :
      Parses version (noise ++ (frame.ending version last ++ rest))
        ⟨.error (.checksumMismatch (frame.checksum version) last), frame.payload⟩ rest
  | refused {noise rest : Bytes} {fields : Header} (skipped : Noise noise)
      (fits : fields.Fits version) (refusal : fields.direction = Frame.refusal) :
      Parses version
        (noise ++ (Frame.preamble :: version.marker :: (fields.bytes version ++ rest)))
        ⟨.error (.rejected fields.code), []⟩ (rest.drop (fields.length + 1))
  | foreign {noise rest : Bytes} (skipped : Noise noise) :
      Parses version (noise ++ (Frame.preamble :: version.other.marker :: rest))
        ⟨.error (.versionMismatch version version.other), []⟩ rest
  | cut {noise part buffer : Bytes} {got asked : Nat} (skipped : Noise noise)
      (broken : Cut version part got asked buffer) :
      Parses version (noise ++ part) ⟨.error (.shortRead got asked), buffer⟩ []

namespace Parses

open Reception

variable {version : Version} {input rest : Bytes} {receipt : Receipt}

private theorem leads_ending {frame : Frame} {last : UInt8}
    (fits : frame.Fits version) (normal : frame.direction ≠ Frame.refusal)
    (checked : (Reception.checksum (frame.fields version) frame.payload).complete version [last] =
      .done receipt) :
    Leads version .preamble (frame.ending version last ++ rest) receipt rest := by
  simp only [Frame.ending, List.cons_append, List.append_assoc, Frame.header_eq_bytes]
  apply Leads.start
  apply Leads.pastHeader (Frame.fits_fields fits)
  apply Leads.pastPayload normal rfl
  exact .finish rfl checked

private theorem leads_cut {part buffer : Bytes} {got asked : Nat}
    (broken : Cut version part got asked buffer) :
    Leads version .preamble part ⟨.error (.shortRead got asked), buffer⟩ [] := by
  cases broken with
  | preamble => exact .short Nat.one_pos rfl
  | marker =>
    apply Leads.step (show [Frame.preamble].length = _ from rfl)
      (by simp only [complete, if_true]; rfl)
    exact .short Nat.one_pos rfl
  | header few => exact .start (.short few rfl)
  | @payload fields part fits normal few =>
    apply Leads.start
    apply Leads.pastHeader fits
    have some : fields.length ≠ 0 := Nat.ne_zero_of_lt few
    rw [afterHeader, if_neg normal, if_neg some]
    exact .short few rfl
  | @checksum fields _ fits normal whole =>
    apply Leads.start
    apply Leads.pastHeader fits
    rw [← List.append_nil buffer]
    apply Leads.pastPayload normal whole
    rw [List.append_nil]
    exact .short Nat.one_pos rfl

/-- The reception arrives at the reading of the grammar. -/
theorem leads (parses : Parses version input receipt rest) :
    Leads version .preamble input receipt rest := by
  cases parses with
  | @accepted noise rest frame skipped fits normal =>
    apply Leads.skip skipped
    rw [Frame.wire_eq_ending]
    apply leads_ending fits normal
    simp only [complete, Frame.expected_fields, if_true]
    rfl
  | @corrupt noise rest frame last skipped fits normal wrong =>
    apply Leads.skip skipped
    apply leads_ending fits normal
    simp only [complete, Frame.expected_fields, if_neg wrong.symm]
  | refused skipped fits refusal =>
    apply Leads.skip skipped
    exact .start (.pastHeader fits (.dropRefusal refusal))
  | foreign skipped =>
    apply Leads.skip skipped
    have other : version.other ≠ version := by cases version <;> decide
    apply Leads.step (show [Frame.preamble].length = _ from rfl)
      (by simp only [complete, if_true]; rfl)
    apply Leads.finish (show [version.other.marker].length = _ from rfl)
    simp only [complete, Version.ofMarker?_marker, if_neg other]
  | cut skipped broken =>
    have leads := Leads.skip skipped (leads_cut broken)
    exact leads

theorem unique {other : Receipt} {left : Bytes} (first : Parses version input receipt rest)
    (second : Parses version input other left) : other = receipt ∧ left = rest :=
  first.leads.unique second.leads

private theorem total_start (version : Version) {noise : Bytes} (skipped : Noise noise)
    (behind : Bytes) : ∃ receipt rest,
      Parses version (noise ++ (Frame.preamble :: version.marker :: behind)) receipt rest := by
  by_cases few : behind.length < version.headerSize
  · exact ⟨_, _, .cut skipped (.header few)⟩
  obtain ⟨fields, fits, header⟩ := Header.exists_of_length
    (List.length_take_of_le (Nat.le_of_not_lt few))
  rw [← List.take_append_drop version.headerSize behind, header]
  generalize behind.drop version.headerSize = body
  by_cases refusal : fields.direction = Frame.refusal
  · exact ⟨_, _, .refused skipped fits refusal⟩
  by_cases part : body.length < fields.length
  · exact ⟨_, _, .cut skipped (.payload fits refusal part)⟩
  have whole := List.length_take_of_le (Nat.le_of_not_lt part)
  rw [← List.take_append_drop fields.length body]
  generalize body.take fields.length = payload at whole
  cases body.drop fields.length with
  | nil =>
    rw [List.append_nil]
    exact ⟨_, _, .cut skipped (.checksum fits refusal whole)⟩
  | cons last rest =>
    obtain ⟨frame, room, rfl, rfl⟩ := Frame.exists_of_fields fits whole
    have enclosed : Frame.preamble :: version.marker ::
        ((frame.fields version).bytes version ++ (frame.payload ++ last :: rest)) =
          frame.ending version last ++ rest := by
      simp only [Frame.ending, Frame.header_eq_bytes, List.cons_append, List.append_assoc,
        List.nil_append]
    rw [enclosed]
    by_cases right : last = frame.checksum version
    · rw [right, ← Frame.wire_eq_ending]
      exact ⟨_, _, .accepted skipped room refusal⟩
    · exact ⟨_, _, .corrupt skipped room refusal right⟩

theorem total (version : Version) (input : Bytes) :
    ∃ receipt rest, Parses version input receipt rest := by
  obtain ⟨noise, rest, rfl, skipped, stop⟩ := exists_noise input
  cases stop with
  | nothing => exact ⟨_, _, .cut skipped .preamble⟩
  | cut => exact ⟨_, _, .cut skipped .marker⟩
  | start announced behind =>
    by_cases same : announced = version
    · subst same
      exact total_start announced skipped behind
    · obtain rfl := Version.eq_other_of_ne same
      exact ⟨_, _, .foreign skipped⟩

theorem consumes (parses : Parses version input receipt rest) :
    ∃ taken, input = taken ++ rest ∧ (input ≠ [] → taken ≠ []) := by
  cases parses with
  | @accepted noise _ frame =>
    exact ⟨noise ++ frame.wire version, by simp, fun _ => by simp [Frame.wire]⟩
  | @corrupt noise _ frame last =>
    exact ⟨noise ++ frame.ending version last, by simp, fun _ => by simp [Frame.ending]⟩
  | @refused noise rest fields =>
    refine ⟨noise ++ (Frame.preamble :: version.marker ::
      (fields.bytes version ++ rest.take (fields.length + 1))), ?_, fun _ => by simp⟩
    simp
  | @foreign noise =>
    exact ⟨noise ++ [Frame.preamble, version.other.marker], by simp, fun _ => by simp⟩
  | cut => exact ⟨_, (List.append_nil _).symm, id⟩

theorem ends {respond : Responder} {line : Line} (parses : Parses version line.inbound receipt rest) :
    (receiveFrame version).Ends (Line.serves respond)
      (fun result after => result = receipt ∧ line.Took rest after) line :=
  parses.leads.ends

end Parses
end FlightLink
