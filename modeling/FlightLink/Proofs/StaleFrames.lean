import FlightLink.Proofs.AnswerReception

/-! Waiting for an answer where whole frames wait. A frame that answers another request
costs patience, refusal or not, and the frame that costs the last of it is read too. What
stands behind the frames that were read is left alone. -/

namespace FlightLink

namespace Link

/-- What waiting for the answer to `code` comes to where frames wait, and nothing else. -/
structure Heeded (link : Link) (code : UInt16) (frames : List Frame) (received : Received Unit)
    (rest : Bytes) : Prop where
  /-- The first frame with the code is taken, if there is patience for those before it. -/
  taken : ∀ before frame behind, frames = before ++ frame :: behind →
    (∀ earlier ∈ before, earlier.code ≠ code) → frame.code = code → before.length < patience →
    received = ⟨link, frame.verdict.1, frame.verdict.2⟩ ∧ rest = Frame.wires link.version behind
  /-- The frame that costs the last of the patience is the one that the fault is about. -/
  spent : ∀ before last behind, frames = before ++ last :: behind →
    (∀ earlier ∈ before, earlier.code ≠ code) → last.code ≠ code → before.length + 1 = patience →
    received = ⟨link, .error (.codeMismatch code last.code), last.receipt.payload⟩ ∧
      rest = Frame.wires link.version behind
  starved : frames.length < patience → (∀ frame ∈ frames, frame.code ≠ code) →
    received = ⟨link, .error (.shortRead 0 1), []⟩ ∧ rest = []

variable {link : Link} {code : UInt16} {frames : List Frame} {received : Received Unit}
  {rest : Bytes} {respond : Responder} {line : Line}

private theorem wires_behind {before behind : List Frame} {frame : Frame}
    (split : frames = before ++ frame :: behind) :
    Frame.wires link.version frames = Frame.wires link.version before ++
      (frame.wire link.version ++ Frame.wires link.version behind) := by
  rw [split, Frame.wires_append, Frame.wires_cons]

theorem Answered.heeded (fit : ∀ frame ∈ frames, frame.Fits link.version)
    (answered : Answered code (patience - 1) link (Frame.wires link.version frames) received rest) :
    link.Heeded code frames received rest where
  taken before frame behind split others own within := by
    rw [wires_behind split] at answered
    apply Answered.unique _ answered
    have few : before.length ≤ patience - 1 := Nat.le_sub_one_of_lt within
    exact .frames (fun earlier member => fit earlier (by simp [split, member])) others few
      (fit frame (by simp [split])) own
  spent before last behind split others other all := by
    rw [wires_behind split] at answered
    apply Answered.unique _ answered
    exact .exhausted (fun earlier member => fit earlier (by simp [split, member])) others
      (Nat.eq_sub_of_add_eq all) (fit last (by simp [split])) other
  starved few others := by
    apply Answered.unique _ answered
    exact .starved fit others (Nat.le_sub_one_of_lt few)

/-- Waiting for an answer where whole frames wait comes to an end, with the right one heeded. -/
theorem ends_receiveAnswer_heeded (fit : ∀ frame ∈ frames, frame.Fits line.link.version)
    (waiting : line.inbound = Frame.wires line.link.version frames) (buffer : Bytes) :
    (line.link.receiveAnswer code buffer).Ends (Line.serves respond)
      (fun received after => line.link.Heeded code frames received after.inbound) line := by
  obtain ⟨result, rest, answered⟩ :=
    Answered.total code (patience - 1) line.link (Frame.wires line.link.version frames)
  have input := waiting ▸ answered
  apply (input.ends buffer).weaken
  intro received after ended
  obtain ⟨rfl, rfl⟩ := ended
  exact answered.heeded fit

/-- Eight frames over MSPv1 that answer request 42, the last of them a refusal with a
payload, and the answer to request 105 behind them. -/
def belated : Line :=
  ⟨.new .v1, Frame.wires .v1 (List.replicate 7 ⟨Frame.answer, 0, 42, [1]⟩ ++
    [⟨Frame.refusal, 0, 42, [2, 3]⟩, ⟨Frame.answer, 0, 105, [0xDC, 0x05]⟩]), []⟩

/-- One frame too many is in front of the answer, which is left for the next wait. -/
theorem answer_left_unread : (belated.link.receiveAnswer 105 []).Ends (Line.serves Responder.silent)
    (fun received after => received = ⟨.new .v1, .error (.codeMismatch 105 42), []⟩ ∧
      after.inbound = Frame.wire .v1 ⟨Frame.answer, 0, 105, [0xDC, 0x05]⟩) belated := by
  have ends := @ends_receiveAnswer_heeded 105 _ Responder.silent belated (by decide) rfl []
  apply ends.weaken
  intro received after heeded
  have spent := heeded.spent (List.replicate 7 ⟨Frame.answer, 0, 42, [1]⟩)
    ⟨Frame.refusal, 0, 42, [2, 3]⟩ [⟨Frame.answer, 0, 105, [0xDC, 0x05]⟩] rfl (by decide) (by decide) rfl
  rwa [Frame.wires_cons, Frame.wires_nil, List.append_nil] at spent

end Link
end FlightLink
