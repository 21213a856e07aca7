import FlightLink.Proofs.AnswerReception

/-! Late answers to earlier requests that still wait when a transaction begins. They
are told from the answer by their code alone: those with other codes are dropped, and
the first one with the requested code is taken for the answer. -/

namespace FlightLink

variable {respond : Responder} {line : Line} {code : UInt16} {payload : Bytes} {late : List Frame}

/-- What a transaction comes to when it finds late answers. -/
structure Decided (code : UInt16) (line : Line) (late : List Frame) (answer : Frame)
    (result : Except Fault Unit × Bytes) (after : Line) : Prop where
  /-- The transaction has its own answer, and nothing is left for the next one to trip
  over, just when no late answer has the code. -/
  fresh : result = (.ok (), answer.payload) ∧ after.inbound = [] ↔ ∀ frame ∈ late, frame.code ≠ code
  /-- The first frame with the code decides, late or not. -/
  first : ∀ before frame behind, late ++ [answer] = before ++ frame :: behind →
    (∀ earlier ∈ before, earlier.code ≠ code) → frame.code = code →
      result = frame.verdict ∧ after.inbound = Frame.wires line.link.version behind
  sameLink : after.link = line.link

private theorem exists_first (frames : List Frame) (present : ∃ frame ∈ frames, frame.code = code) :
    ∃ before frame behind, frames = before ++ frame :: behind ∧
      (∀ earlier ∈ before, earlier.code ≠ code) ∧ frame.code = code := by
  have found : (frames.find? (·.code = code)).isSome := by simpa using present
  obtain ⟨frame, found⟩ := Option.isSome_iff_exists.mp found
  obtain ⟨own, before, behind, split, others⟩ := List.find?_eq_some_iff_append.mp found
  exact ⟨before, frame, behind, split, by simpa using others, by simpa using own⟩

private theorem decided {answer : Frame} {after : Line} {received : Received Unit}
    (few : late.length < Link.patience) (fit : ∀ frame ∈ late, frame.Fits line.link.version)
    (fits : answer.Fits line.link.version) (own : answer.code = code)
    (normal : answer.direction ≠ Frame.refusal) (kept : after.link = received.link)
    (answered : Link.Answered code (Link.patience - 1) line.link
      (Frame.wires line.link.version late ++ answer.wire line.link.version) received after.inbound) :
    Decided code line late answer (received.outcome, received.payload) after := by
  have first : ∀ before frame behind, late ++ [answer] = before ++ frame :: behind →
      (∀ earlier ∈ before, earlier.code ≠ code) → frame.code = code →
      received = ⟨line.link, frame.verdict.1, frame.verdict.2⟩ ∧
        after.inbound = Frame.wires line.link.version behind := by
    intro before frame behind split others same
    have allFit : ∀ earlier ∈ before ++ frame :: behind, earlier.Fits line.link.version := by
      rw [← split]
      simpa [or_imp, forall_and] using ⟨fit, fits⟩
    have lengths := congrArg List.length split
    simp only [List.length_append, List.length_cons, List.length_nil] at lengths
    have inTime : before.length ≤ Link.patience - 1 := by omega
    have decides := @Link.Answered.frames line.link (Frame.wires line.link.version behind) code _
      frame before (fun earlier member => allFit earlier (by simp [member])) others inTime
      (allFit frame (by simp)) same
    have waiting : Frame.wires line.link.version late ++ answer.wire line.link.version =
        Frame.wires line.link.version before ++
          (frame.wire line.link.version ++ Frame.wires line.link.version behind) := by
      have wires := congrArg (Frame.wires line.link.version) split
      simpa using wires
    rw [waiting] at answered
    exact decides.unique answered
  refine ⟨⟨?_, ?_⟩, ?_, ?_⟩
  · intro fresh frame member same
    obtain ⟨-, empty⟩ := fresh
    obtain ⟨before, frame, behind, rfl, others, same⟩ := exists_first _ ⟨frame, member, same⟩
    obtain ⟨-, left⟩ := first before frame (behind ++ [answer]) (by simp) others same
    rw [left] at empty
    simp [Frame.wire] at empty
  · intro others
    obtain ⟨rfl, left⟩ := first late answer [] rfl others own
    exact ⟨if_neg normal, left⟩
  · intro before frame behind split others same
    obtain ⟨rfl, left⟩ := first before frame behind split others same
    exact ⟨rfl, left⟩
  · obtain ⟨before, frame, behind, split, others, same⟩ :=
      exists_first (late ++ [answer]) ⟨answer, by simp, own⟩
    obtain ⟨rfl, -⟩ := first before frame behind split others same
    exact kept

/-- A transaction that finds up to seven late answers waiting, and a device that answers
the request. -/
theorem transact_decided (few : late.length < Link.patience)
    (fit : ∀ frame ∈ late, frame.Fits line.link.version)
    (waiting : line.inbound = Frame.wires line.link.version late)
    (takes : line.link.Takes code payload)
    (answers : respond.Answers line.link.version code payload (·.direction ≠ Frame.refusal))
    (buffer : Bytes) :
    (transact code payload buffer).Ends (Line.serves respond)
      (fun result after => ∃ answer : Frame,
        answer.Fits line.link.version ∧ answer.code = code ∧ answer.direction ≠ Frame.refusal ∧
        respond ((Frame.ofRequest code payload).wire line.link.version)
          (answer.wire line.link.version) ∧
        Decided code line late answer result after) line := by
  apply (ends_transact takes answers.responds buffer).weaken
  intro result after ended
  obtain ⟨reply, received, responded, answered, rfl, kept⟩ := ended
  obtain ⟨answer, fits, own, normal, rfl⟩ := answers.oneFrame reply responded
  rw [waiting] at answered
  exact ⟨answer, fits, own, normal, responded, decided few fit fits own normal kept answered⟩

private theorem payload_eq_of_wire_eq {version : Version} {frame other : Frame}
    (fits : frame.Fits version) (otherFits : other.Fits version)
    (normal : frame.direction ≠ Frame.refusal) (otherNormal : other.direction ≠ Frame.refusal)
    (same : frame.wire version = other.wire version) : frame.payload = other.payload := by
  have parses := @Parses.frame version [] [] frame .nil fits
  rw [same] at parses
  obtain ⟨receipts, -⟩ := parses.unique (.frame .nil otherFits)
  rw [Frame.receipt, Frame.receipt, if_neg normal, if_neg otherNormal] at receipts
  exact (congrArg Receipt.payload receipts).symm

def monotonous (code : UInt16) (payload : Bytes) : Responder :=
  fun _ reply => reply = Frame.wire .v1 ⟨Frame.answer, 0, code, payload⟩

def holding (code : UInt16) (payload : Bytes) : Line :=
  ⟨.new .v1, Frame.wires .v1 [⟨Frame.answer, 0, code, payload⟩], []⟩

/-- A late answer to a request for another message is dropped. -/
theorem late_answer_dropped :
    (transact 109 [] []).Ends (Line.serves (monotonous 109 [2]))
      (fun result after => result = (.ok (), [2]) ∧ after.inbound = []) (holding 101 [1]) := by
  have answers : (monotonous 109 [2]).Answers .v1 109 [] (·.direction ≠ Frame.refusal) :=
    ⟨⟨_, rfl⟩, fun reply same => ⟨_, by decide, rfl, by decide, same⟩⟩
  have ends := @transact_decided _ (holding 101 [1]) 109 [] [⟨Frame.answer, 0, 101, [1]⟩]
    (by decide) (by decide) rfl (by decide) answers []
  apply ends.weaken
  intro result after ended
  obtain ⟨answer, fits, own, normal, same, decided⟩ := ended
  obtain ⟨taken, left⟩ := decided.fresh.mpr (by decide)
  rw [taken, payload_eq_of_wire_eq fits (by decide) normal (by decide) same]
  exact ⟨rfl, left⟩

/-- A late answer to a request for the same message is taken for the answer, and the
answer is left for the next transaction to take. -/
theorem late_answer_taken :
    (transact 109 [] []).Ends (Line.serves (monotonous 109 [2]))
      (fun result after => result = (.ok (), [1]) ∧
        after.inbound = Frame.wire .v1 ⟨Frame.answer, 0, 109, [2]⟩) (holding 109 [1]) ∧
    ¬ (transact 109 [] []).Ends (Line.serves (monotonous 109 [2]))
      (fun result _ => result = (.ok (), [2])) (holding 109 [1]) := by
  have ends : (transact 109 [] []).Ends (Line.serves (monotonous 109 [2]))
      (fun result after => result = (.ok (), [1]) ∧
        after.inbound = Frame.wire .v1 ⟨Frame.answer, 0, 109, [2]⟩) (holding 109 [1]) := by
    have sends := @ends_transact (monotonous 109 [2]) (holding 109 [1]) 109 [] (by decide) ⟨_, rfl⟩ []
    apply sends.weaken
    intro result after ended
    obtain ⟨reply, received, rfl, answered, rfl, -⟩ := ended
    have late := @Link.Answered.frame (.new .v1) (Frame.wire .v1 ⟨Frame.answer, 0, 109, [2]⟩) 109
      (Link.patience - 1) [] ⟨Frame.answer, 0, 109, [1]⟩ .nil (by decide) rfl
    obtain ⟨rfl, left⟩ := late.unique answered
    exact ⟨rfl, left⟩
  refine ⟨ends, fun fresh => ?_⟩
  obtain ⟨result, after, runs, taken, -⟩ := ends.exists_runs
  have claimed := fresh.of_runs runs
  rw [taken] at claimed
  cases claimed

end FlightLink
