import FlightLink.Call
import FlightLink.Proofs.AnswerReception

/-! Changing over to the version of the other side. The frame that announces it is lost:
its first two bytes are taken, and the rest of it is noise to the new version, provided
that no preamble is in it. All frames behind it are received. -/

namespace FlightLink

def Frame.called (frame : Frame) (link : Link) (buffer : Bytes) : Called :=
  ⟨link, buffer, .ok (.frame frame.code frame.payload)⟩

namespace Link

variable {link : Link} {frame : Frame} {frames : List Frame} {scrap rest : Bytes}
  {respond : Responder} {line : Line}

theorem ends_receive_frame (plain : Frame.preamble ∉ scrap) (fits : frame.Fits link.version)
    (normal : frame.direction ≠ Frame.refusal)
    (waiting : line.inbound = scrap ++ (frame.wire link.version ++ rest)) (buffer : Bytes) :
    (Call.receive.perform link buffer).Ends (Line.serves respond)
      (fun called after => called = frame.called link buffer ∧ after.inbound = rest) line := by
  have parses := @Parses.accepted link.version scrap rest frame (.of_plain plain) fits normal
  rw [← waiting] at parses
  apply (ends_receive parses []).bind
  intro received after ended
  obtain ⟨rfl, middle, took, rfl⟩ := ended
  exact .pure ⟨rfl, took.inbound⟩

/-- Behind a scrap without a preamble, all frames are received and nothing is left. -/
theorem ends_receive_frames (plain : Frame.preamble ∉ scrap)
    (fit : ∀ frame ∈ frames, frame.Fits link.version)
    (normal : ∀ frame ∈ frames, frame.direction ≠ Frame.refusal)
    (waiting : line.inbound = scrap ++ Frame.wires link.version frames)
    (clean : frames = [] → scrap = []) (buffer : Bytes) :
    (Call.performAll link buffer (List.replicate frames.length .receive)).Ends (Line.serves respond)
      (fun results after => results = frames.map (·.called link buffer) ∧ after.inbound = []) line := by
  induction frames generalizing line scrap with
  | nil =>
    obtain rfl := clean rfl
    exact .pure ⟨rfl, waiting⟩
  | cons frame frames ih =>
    have own := fit frame (List.mem_cons_self ..)
    apply (ends_receive_frame plain own (normal frame (List.mem_cons_self ..)) waiting buffer).bind
    intro called middle ended
    obtain ⟨rfl, left⟩ := ended
    have later := @ih [] middle List.not_mem_nil (fun other member => fit other (List.mem_cons_of_mem _ member))
      (fun other member => normal other (List.mem_cons_of_mem _ member)) left (fun _ => rfl)
    apply later.bind
    intro results after ended
    obtain ⟨rfl, nothing⟩ := ended
    exact .pure ⟨rfl, nothing⟩

/-- The announcement of the other version is taken, and nothing behind it. -/
theorem ends_receive_announcement
    (waiting : line.inbound = Frame.preamble :: link.version.other.marker :: rest) (buffer : Bytes) :
    (Call.receive.perform link buffer).Ends (Line.serves respond)
      (fun called after => called = ⟨.new link.version.other, buffer,
          .error (.versionMismatch link.version link.version.other)⟩ ∧
        after.inbound = rest) line := by
  have parses := @Parses.foreign link.version [] rest .nil
  rw [List.nil_append, ← waiting] at parses
  apply (ends_receive parses []).bind
  intro received after ended
  obtain ⟨rfl, middle, took, rfl⟩ := ended
  exact .pure ⟨rfl, took.inbound⟩

/-- On frames of the other version, the first reception takes two bytes and changes the
link over, and every later one takes a frame. -/
theorem ends_changeOver {first : Frame} (more : frames ≠ [])
    (fit : ∀ frame ∈ frames, frame.Fits link.version.other)
    (normal : ∀ frame ∈ frames, frame.direction ≠ Frame.refusal)
    (plain : Frame.preamble ∉ (first.wire link.version.other).tail)
    (waiting : line.inbound = Frame.wires link.version.other (first :: frames)) (buffer : Bytes) :
    (Call.receive.perform link buffer).Ends (Line.serves respond)
      (fun called after => called.outcome = .error (.versionMismatch link.version link.version.other) ∧
        called.link.version = link.version.other ∧
        called.link.limit = link.version.other.maxPayload ∧ called.buffer = buffer ∧
        after.inbound = line.inbound.drop 2 ∧
        (Call.performAll called.link buffer (List.replicate frames.length .receive)).Ends
          (Line.serves respond)
          (fun results last => results = frames.map (·.called called.link buffer) ∧
            last.inbound = []) after) line := by
  rw [Frame.wires_cons] at waiting
  have announced : line.inbound = Frame.preamble :: link.version.other.marker ::
      ((first.wire link.version.other).tail.tail ++ Frame.wires link.version.other frames) := waiting
  apply (ends_receive_announcement announced buffer).weaken
  intro called after ended
  obtain ⟨rfl, left⟩ := ended
  refine ⟨rfl, rfl, rfl, rfl, ?_, ?_⟩
  · rw [left, announced]
    rfl
  · have quiet : Frame.preamble ∉ (first.wire link.version.other).tail.tail :=
      fun member => plain (List.mem_of_mem_tail member)
    exact @ends_receive_frames (.new link.version.other) frames _ respond after quiet fit normal left
      (fun none => absurd none more) buffer

def outdated : List Frame :=
  [⟨Frame.answer, 0, 101, [1, 2]⟩, ⟨Frame.answer, 0, 105, [0x24, 0x58, 0x3E]⟩, ⟨Frame.answer, 0, 109, []⟩]

/-- A link over MSPv2 loses the first of them to the change and receives the others. -/
theorem outdated_received : (Call.receive.perform (.new .v2) [7]).Ends (Line.serves Responder.silent)
    (fun called after => called.link = .new .v1 ∧ after.inbound = (Frame.wires .v1 outdated).drop 2 ∧
      (Call.performAll (.new .v1) [7] [.receive, .receive]).Ends (Line.serves Responder.silent)
        (fun results last => results = [⟨.new .v1, [7], .ok (.frame 105 [0x24, 0x58, 0x3E])⟩,
          ⟨.new .v1, [7], .ok (.frame 109 [])⟩] ∧ last.inbound = []) after)
    ⟨.new .v2, Frame.wires .v1 outdated, []⟩ := by
  have ends := @ends_changeOver (.new .v2) outdated.tail Responder.silent
    ⟨.new .v2, Frame.wires .v1 outdated, []⟩ ⟨Frame.answer, 0, 101, [1, 2]⟩ (by decide) (by decide)
    (by decide) (by decide) rfl [7]
  apply ends.weaken
  intro called after ended
  obtain ⟨⟨version, limit⟩, buffer, outcome⟩ := called
  obtain ⟨-, rfl, rfl, -, left, later⟩ := ended
  exact ⟨rfl, left, later⟩

end Link
end FlightLink
