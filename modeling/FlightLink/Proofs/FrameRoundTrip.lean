import FlightLink.Proofs.FrameReception

/-! Packing and receiving belong together. Packed frames that stand one behind another
are received one after another: each reception takes its own frame and no byte of the
next, whatever the payloads hold and whatever stands behind the last frame. -/

namespace FlightLink

def receiveFrames (version : Version) : (count : Nat) → Program (List Receipt)
  | 0 => return []
  | count + 1 => do
    let receipt ← receiveFrame version
    let receipts ← receiveFrames version count
    return receipt :: receipts

/-- A packed request under a direction of its own, as a device may send it. -/
structure Parcel (version : Version) where
  direction : UInt8
  code : UInt16
  payload : Bytes
  packed : Bytes
  isPacked : Frame.pack version code payload = .ok packed
  normal : direction ≠ Frame.refusal

namespace Parcel

variable {version : Version}

def bytes (parcel : Parcel version) : Bytes := parcel.packed.set 2 parcel.direction

def receipt (parcel : Parcel version) : Receipt := ⟨.ok parcel.code, parcel.payload⟩

def stream (parcels : List (Parcel version)) : Bytes := parcels.flatMap bytes

@[simp] theorem stream_cons {parcel : Parcel version} {parcels : List (Parcel version)} :
    stream (parcel :: parcels) = parcel.bytes ++ stream parcels := rfl

@[simp] theorem stream_append {first last : List (Parcel version)} :
    stream (first ++ last) = stream first ++ stream last := List.flatMap_append

theorem bytes_eq_wire (parcel : Parcel version) : ∃ frame : Frame, frame.Fits version ∧
    frame.direction = parcel.direction ∧ frame.code = parcel.code ∧
    frame.payload = parcel.payload ∧ parcel.bytes = frame.wire version := by
  obtain ⟨fits, packed⟩ := Frame.pack_eq_ok_iff.mp parcel.isPacked
  refine ⟨⟨parcel.direction, 0, parcel.code, parcel.payload⟩, fits, rfl, rfl, rfl, ?_⟩
  rw [bytes, packed]
  cases version <;> rfl

theorem parses (parcel : Parcel version) (rest : Bytes) :
    Parses version (parcel.bytes ++ rest) parcel.receipt rest := by
  obtain ⟨frame, fits, direction, code, payload, same⟩ := parcel.bytes_eq_wire
  have normal : frame.direction ≠ Frame.refusal := direction ▸ parcel.normal
  rw [same, receipt, ← code, ← payload]
  exact @Parses.accepted version [] rest frame .nil fits normal

/-- Where parcels wait, as many receptions take them all and nothing behind them. -/
theorem ends_receiveFrames {respond : Responder} {parcels : List (Parcel version)} {rest : Bytes}
    {line : Line} (waiting : line.inbound = stream parcels ++ rest) :
    (receiveFrames version parcels.length).Ends (Line.serves respond)
      (fun receipts after => receipts = parcels.map receipt ∧ line.Took rest after) line := by
  induction parcels generalizing line with
  | nil =>
    refine .pure ⟨rfl, ?_⟩
    have none := line.took_none
    rwa [waiting] at none
  | cons parcel parcels ih =>
    rw [stream_cons, List.append_assoc] at waiting
    have first := parcel.parses (stream parcels ++ rest)
    rw [← waiting] at first
    apply (Parses.ends first).bind
    intro received middle ended
    obtain ⟨rfl, took⟩ := ended
    apply (ih took.inbound).bind
    intro receipts after ended
    obtain ⟨rfl, later⟩ := ended
    exact .pure ⟨rfl, took.trans later⟩

end Parcel

/-- A request is packed just when the fields of the version can hold it. Packed frames, each
under any direction but a refusal's, are received in their order, and every reception leaves
what stands behind its own frame. -/
theorem packed_frames_received (version : Version) :
    (∀ (code : UInt16) (payload : Bytes), (∃ packed, Frame.pack version code payload = .ok packed) ↔
      (version = .v1 → payload.length ≤ 255 ∧ code.toNat ≤ 255) ∧
      (version = .v2 → payload.length ≤ 65535)) ∧
    ∀ (respond : Responder) (line : Line) (first last : List (Parcel version)) (trailing : Bytes),
      line.inbound = Parcel.stream (first ++ last) ++ trailing →
      (receiveFrames version first.length).Ends (Line.serves respond)
        (fun receipts after => receipts = first.map Parcel.receipt ∧
          line.Took (Parcel.stream last ++ trailing) after) line := by
  constructor
  · intro code payload
    simp only [Frame.pack_eq_ok_iff, exists_and_left, exists_eq, and_true]
    cases version with
    | v1 => simp [Frame.Fits, Frame.ofRequest, Version.maxPayload, Nat.lt_succ_iff]
    | v2 => simp [Frame.Fits, Frame.ofRequest, Version.maxPayload]
  · intro respond line first last trailing waiting
    apply Parcel.ends_receiveFrames
    rw [waiting, Parcel.stream_append, List.append_assoc]

def Parcel.deceptive : Parcel .v1 :=
  ⟨0x3F, 101, [0x24, 0x4D, 0x3E], _, Frame.pack_eq_ok_iff.mpr ⟨by decide, rfl⟩, by decide⟩

def Parcel.empty : Parcel .v1 :=
  ⟨Frame.answer, 200, [], _, Frame.pack_eq_ok_iff.mpr ⟨by decide, rfl⟩, by decide⟩

/-- One reception takes the first of two frames and leaves the second, and what stands behind it. -/
theorem deceptive_frame_received :
    (receiveFrames .v1 1).Ends (Line.serves Responder.silent)
      (fun receipts after => receipts = [⟨.ok 101, [0x24, 0x4D, 0x3E]⟩] ∧
        after.inbound = [0x24, 0x4D, 0x3E, 0, 200, 200, 0x24, 0x4D])
      ⟨.new .v1, [0x24, 0x4D, 0x3F, 3, 101, 0x24, 0x4D, 0x3E, 0x31,
        0x24, 0x4D, 0x3E, 0, 200, 200, 0x24, 0x4D], []⟩ := by
  apply ((packed_frames_received .v1).2 Responder.silent _ [.deceptive] [.empty] [0x24, 0x4D]
    (by decide)).weaken
  intro receipts after ended
  obtain ⟨rfl, took⟩ := ended
  exact ⟨rfl, took.inbound⟩

end FlightLink
