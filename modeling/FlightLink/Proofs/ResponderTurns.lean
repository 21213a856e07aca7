import FlightLink.Proofs.AnsweredCommands
import FlightLink.Proofs.LinkAttendance

/-! A line whose device does not answer the same request alike every time: what it sends depends on how
many requests were written before. As long as that is nothing or one frame, a line that was idle is idle
again after each transaction, and the link never changes over. -/

namespace FlightLink

open Program (Ends Uses)

variable {respondAt : Nat → Responder} {line : Line} {α : Type}

namespace Line

def turn (line : Line) : Nat := line.history.countP fun
  | .wrote .. => true
  | _ => false

/-- How a line answers whose device minds the turn. -/
def servesInTurn (respondAt : Nat → Responder) : Surroundings Line := fun request before =>
  serves (respondAt before.turn) request before

@[simp] theorem turn_exchanged (line : Line) (request reply : Bytes) :
    (line.exchanged request reply).turn = line.turn + 1 := by
  simp [turn, exchanged, note]

@[simp] theorem turn_flushed (line : Line) : (line.note .flushed).turn = line.turn := by
  simp [turn, note]

@[simp] theorem turn_reported (line : Line) (event : Log.Event) :
    (line.note (.reported event)).turn = line.turn := by
  simp [turn, note]

@[simp] theorem turn_took (line : Line) (count : Nat) : (line.took count).turn = line.turn := by
  simp [turn, took, note]

theorem serves_listening {respond other : Responder} {request : Request} {answer : request.Answer}
    {after : Line} (listening : request.Listening) (served : serves respond request line answer after) :
    serves other request line answer after ∧ after.turn = line.turn ∧ after.link = line.link := by
  cases request with
  | isOpen =>
    obtain ⟨rfl, rfl⟩ := served
    exact ⟨⟨rfl, rfl⟩, rfl, rfl⟩
  | flush =>
    obtain ⟨rfl, rfl⟩ := served
    exact ⟨⟨rfl, rfl⟩, turn_flushed line, rfl⟩
  | read count =>
    obtain ⟨rfl, rfl⟩ := served
    exact ⟨⟨rfl, rfl⟩, turn_took line count, rfl⟩
  | report event =>
    cases served
    exact ⟨rfl, turn_reported line event, rfl⟩
  | _ => exact listening.elim

theorem ends_inTurn {respond : Responder} {program : Program α} {wanted : α → Line → Prop}
    (ends : program.Ends (serves respond) wanted line) (listens : program.Uses Request.Listening) :
    program.Ends (servesInTurn respondAt)
      (fun result after => wanted result after ∧ after.turn = line.turn ∧ after.link = line.link)
      line := by
  induction ends with
  | pure done => exact .pure ⟨done, rfl, rfl⟩
  | ask allowed _ ih =>
    cases listens with
    | ask listening later =>
      obtain ⟨answer, after, served⟩ := allowed
      refine .ask ⟨answer, after, (serves_listening listening served).1⟩ fun answer after served => ?_
      obtain ⟨here, sameTurn, sameLink⟩ := serves_listening listening served
      rw [← sameTurn, ← sameLink]
      exact ih answer after here (later answer)
  | iterate _ ih =>
    cases listens with
    | iterate round later => exact .iterate (ih (.unfold round later))

theorem ends_report_inTurn {event : Log.Event} {next : Unit → Program α} {wanted : α → Line → Prop}
    (rest : (next ()).Ends (servesInTurn respondAt) wanted (line.note (.reported event))) :
    ((Program.report event).bind next).Ends (servesInTurn respondAt) wanted line := by
  apply Ends.ask
  · exact ⟨(), _, rfl⟩
  · intro done after noted
    cases done
    cases noted
    exact rest

theorem ends_write_inTurn {bytes : Bytes} {next : Except PortFault Nat → Program α}
    {wanted : α → Line → Prop} (responds : ∃ reply, respondAt line.turn bytes reply)
    (rest : ∀ reply, respondAt line.turn bytes reply →
      (next (.ok bytes.length)).Ends (servesInTurn respondAt) wanted (line.exchanged bytes reply)) :
    ((Program.write bytes).bind next).Ends (servesInTurn respondAt) wanted line := by
  obtain ⟨reply, responded⟩ := responds
  apply Ends.ask
  · exact ⟨.ok bytes.length, _, rfl, reply, responded, rfl⟩
  · intro answer after served
    obtain ⟨rfl, reply, responded, rfl⟩ := served
    exact rest reply responded

end Line

/-- The device sends nothing for a request, or one frame in its version. -/
structure Responder.Orderly (respond : Responder) (version : Version) : Prop where
  responds (code : UInt16) (payload : Bytes) :
    ∃ reply, respond ((Frame.ofRequest code payload).wire version) reply
  single (code : UInt16) (payload reply : Bytes) :
    respond ((Frame.ofRequest code payload).wire version) reply →
      reply = [] ∨ ∃ answer : Frame, answer.Fits version ∧ reply = answer.wire version

theorem Frame.receipt_of_wire {version : Version} {answer other : Frame} (fits : answer.Fits version)
    (fitsToo : other.Fits version) (same : answer.wire version = other.wire version) :
    other.receipt = answer.receipt := by
  have parses := @Parses.frame version [] [] answer .nil fits
  rw [same] at parses
  exact (parses.unique (.frame .nil fitsToo)).1

namespace Link

variable {link : Link} {code : UInt16} {payload : Bytes}

/-- What a reply of at most one frame comes to: the verdict of an answer, or else a failure. -/
inductive Settled (version : Version) (code : UInt16) (reply : Bytes) : Except Fault Unit × Bytes → Prop
  | answered {answer : Frame} (fits : answer.Fits version) (own : answer.code = code)
      (same : reply = answer.wire version) : Settled version code reply answer.verdict
  | missed {fault : Fault} {buffer : Bytes} (other : ∀ answer : Frame, answer.Fits version →
      reply = answer.wire version → answer.code ≠ code) :
      Settled version code reply (.error fault, buffer)

private theorem answered_nil (code : UInt16) (spare : Nat) (link : Link) :
    Answered code spare link [] ⟨link, .error (.shortRead 0 1), []⟩ [] := by
  have cut : Parses link.version [] ⟨.error (.shortRead 0 1), []⟩ [] := .cut .nil .preamble
  exact .taken cut rfl

private theorem staleCode?_other {answer : Frame} (other : answer.code ≠ code) :
    staleCode? code answer.receipt.code = some answer.code := by
  unfold Frame.receipt
  split <;> exact if_neg other

private theorem code_of_wire {version : Version} {answer other : Frame} (fits : answer.Fits version)
    (fitsToo : other.Fits version) (same : answer.wire version = other.wire version) :
    answer.code = other.code := by
  have receipts := Frame.receipt_of_wire fits fitsToo same
  unfold Frame.receipt at receipts
  split at receipts <;> split at receipts <;> simp_all

theorem Answered.settled {reply rest : Bytes} {received : Received Unit} {spare : Nat}
    (answered : Answered code (spare + 1) link reply received rest)
    (single : reply = [] ∨ ∃ answer : Frame, answer.Fits link.version ∧ reply = answer.wire link.version) :
    rest = [] ∧ received.link = link ∧
      Settled link.version code reply (received.outcome, received.payload) := by
  obtain rfl | ⟨answer, fits, rfl⟩ := single
  · obtain ⟨rfl, rfl⟩ := answered.unique (answered_nil ..)
    exact ⟨rfl, rfl, .missed fun answer _ same => nomatch same⟩
  · rw [← List.append_nil (answer.wire link.version)] at answered
    by_cases own : answer.code = code
    · obtain ⟨rfl, rfl⟩ := answered.unique (.frame .nil fits own)
      exact ⟨rfl, rfl, .answered fits own rfl⟩
    · have dropped := Answered.dropped (@Parses.frame link.version [] [] answer .nil fits)
        (staleCode?_other own) (answered_nil code spare _)
      obtain ⟨rfl, rfl⟩ := answered.unique dropped
      exact ⟨rfl, rfl, .missed fun other fitsToo same => code_of_wire fits fitsToo same ▸ own⟩

theorem ends_send_inTurn (takes : link.Takes code payload)
    (responds : ∃ reply, respondAt line.turn ((Frame.ofRequest code payload).wire link.version) reply) :
    (link.send code payload).Ends (Line.servesInTurn respondAt)
      (fun outcome after => outcome = .ok () ∧ (∃ reply,
        respondAt line.turn ((Frame.ofRequest code payload).wire link.version) reply ∧
        after.inbound = line.inbound ++ reply) ∧ after.turn = line.turn + 1 ∧ after.link = line.link)
      line := by
  have room : ¬ link.limit ≤ payload.length := Nat.not_le.mpr takes.1
  refine .answered (fun _ _ => Iff.rfl) ?_
  simp only [if_false, room, takes.packed]
  apply Line.ends_write_inTurn responds
  intro reply responded
  simp only [Nat.lt_irrefl, if_false]
  refine .answered (fun _ _ => Iff.rfl) ?_
  apply Line.ends_report_inTurn
  exact .pure ⟨rfl, ⟨reply, responded, rfl⟩, by simp, rfl⟩

theorem ends_receiveAnswer_inTurn {reply : Bytes}
    (single : reply = [] ∨ ∃ answer : Frame, answer.Fits link.version ∧ reply = answer.wire link.version)
    (waiting : line.inbound = reply) (buffer : Bytes) :
    (link.receiveAnswer code buffer).Ends (Line.servesInTurn respondAt)
      (fun received after => Settled link.version code reply (received.outcome, received.payload) ∧
        received.link = link ∧ after.inbound = [] ∧ after.turn = line.turn)
      line := by
  obtain ⟨received, rest, answered⟩ := Answered.total code (patience - 1) link reply
  obtain ⟨rfl, same, settled⟩ := answered.settled single
  have ends : (link.receiveAnswer code buffer).Ends (Line.serves .silent)
      (fun result after => result = received ∧ after.inbound = []) line := (waiting ▸ answered).ends buffer
  apply (Line.ends_inTurn ends (listens_awaitAnswer ..)).weaken
  intro result after ended
  obtain ⟨⟨rfl, left⟩, turn, -⟩ := ended
  exact ⟨settled, same, left, turn⟩

theorem ends_exchange_inTurn (takes : link.Takes code payload)
    (orderly : (respondAt line.turn).Orderly link.version) (nothing : line.inbound = [])
    (buffer : Bytes) :
    (link.exchange code payload buffer).Ends (Line.servesInTurn respondAt)
      (fun received after => (∃ reply,
        respondAt line.turn ((Frame.ofRequest code payload).wire link.version) reply ∧
        Settled link.version code reply (received.outcome, received.payload)) ∧
        received.link = link ∧ after.inbound = [] ∧ after.turn = line.turn + 1)
      line := by
  apply (ends_send_inTurn takes (orderly.responds code payload)).bind
  intro outcome sent ended
  obtain ⟨rfl, ⟨reply, responded, waiting⟩, turn, -⟩ := ended
  rw [nothing, List.nil_append] at waiting
  have single := orderly.single code payload reply responded
  apply (ends_receiveAnswer_inTurn single waiting buffer).weaken
  intro received after ended
  obtain ⟨settled, same, left, sameTurn⟩ := ended
  exact ⟨⟨reply, responded, settled⟩, same, left, sameTurn.trans turn⟩

end Link

theorem ends_locked_inTurn {body : Link → Program (Link × α)} {wanted : α → Line → Prop}
    (ends : (body line.link).Ends (Line.servesInTurn respondAt)
      (fun result after => wanted result.2 { after with link := result.1 }) line) :
    (Link.locked body).Ends (Line.servesInTurn respondAt) wanted line := by
  refine .answered (fun _ _ => Iff.rfl) ?_
  apply ends.bind
  intro result after done
  refine .ask ⟨(), _, rfl⟩ fun freed released left => ?_
  cases freed
  cases left
  exact .pure done

/-- A transaction from an idle line uses up one turn and leaves the line idle. -/
theorem ends_transact_inTurn {link : Link} {code : UInt16} {payload : Bytes}
    (takes : link.Takes code payload) (orderly : (respondAt line.turn).Orderly link.version)
    (idle : line.Idle link) (buffer : Bytes) :
    (transact code payload buffer).Ends (Line.servesInTurn respondAt)
      (fun result after => (∃ reply,
        respondAt line.turn ((Frame.ofRequest code payload).wire link.version) reply ∧
        Link.Settled link.version code reply result) ∧ after.Idle link ∧ after.turn = line.turn + 1)
      line := by
  obtain ⟨nothing, rfl⟩ := idle
  apply ends_locked_inTurn
  apply (Link.ends_exchange_inTurn takes orderly nothing buffer).bind
  intro received after ended
  obtain ⟨settled, same, left, turn⟩ := ended
  exact .pure ⟨settled, ⟨left, same⟩, turn⟩

end FlightLink
