import FlightLink.Proofs.AnswerReception
import FlightLink.Proofs.CrewInterleaving

/-! What a task does while it has the link. It may write when nothing waits to be read,
and listen otherwise, until it gives the link back. A conversation is attended to in
this way from its start: the record that it leaves is its request and the reads of the
answer, and it comes back with just that answer. -/

namespace FlightLink

/-- Requests that add nothing to the line and clear nothing from it unread. -/
def Request.Listening : Request → Prop
  | .isOpen | .flush | .read _ | .report _ => True
  | _ => False

theorem Request.Listening.onLine {request : Request} (listening : request.Listening) :
    request.OnLine := by
  cases request <;> first | exact trivial | exact False.elim listening

/-- Until it gives the link back, the task writes to a clear line or listens. What is
wanted then is about the line and what the task goes on with. -/
inductive Attends (respond : Responder) (wanted : Line → Program Unit → Prop) :
    Program Unit → Line → Prop
  | release {link next line} (done : wanted { line with link } (next ())) :
      Attends respond wanted (.ask (.release link) next) line
  | listen {request next line} (listening : request.Listening)
      (answered : ∃ answer after, Line.serves respond request line answer after)
      (rest : ∀ answer after, Line.serves respond request line answer after →
        Attends respond wanted (next answer) after) :
      Attends respond wanted (.ask request next) line
  | write {bytes next line} (clear : line.inbound = []) (responds : ∃ reply, respond bytes reply)
      (rest : ∀ reply, respond bytes reply →
        Attends respond wanted (next (.ok bytes.length)) (line.exchanged bytes reply)) :
      Attends respond wanted (.ask (.write bytes) next) line
  | iterate {ρ γ : Type} {body : ρ → Program (Progress ρ γ)} {start : ρ} {next : γ → Program Unit}
      {line} (round : Attends respond wanted (Program.unfold body start next) line) :
      Attends respond wanted (.iterate body start next) line

namespace Attends

variable {respond : Responder} {wanted : Line → Program Unit → Prop} {line : Line}

theorem of_ends {α : Type} {program : Program α} {next : α → Program Unit}
    {reached : α → Line → Prop} (ends : program.Ends (Line.serves respond) reached line)
    (listens : program.Uses Request.Listening)
    (rest : ∀ result after, reached result after → Attends respond wanted (next result) after) :
    Attends respond wanted (program.bind next) line := by
  induction ends with
  | pure done => exact rest _ _ done
  | ask allowed _ ih =>
    cases listens with
    | ask fine later => exact .listen fine allowed fun answer after served => ih answer after served (later answer)
  | iterate _ ih =>
    cases listens with
    | iterate round later =>
      apply Attends.iterate
      rw [Program.unfold_bind]
      exact ih (.unfold round later)

theorem concludes {program : Program Unit} (attends : Attends respond wanted program line) :
    ∃ (after : Line) (rest : Program Unit) (more : List Act),
      after.history = line.history ++ more ∧ wanted after rest := by
  induction attends with
  | release done => exact ⟨_, _, [], by simp, done⟩
  | @listen request next line listening answered _ ih =>
    obtain ⟨answer, after, served⟩ := answered
    obtain ⟨last, rest, more, record, done⟩ := ih answer after served
    obtain ⟨fresh, -, rfl⟩ := Line.serves_unrecorded listening.onLine served
    exact ⟨last, rest, fresh.history ++ more, by rw [record, List.append_assoc], done⟩
  | @write bytes next line clear responds _ ih =>
    obtain ⟨reply, responded⟩ := responds
    obtain ⟨last, rest, more, record, done⟩ := ih reply responded
    exact ⟨last, rest, .wrote bytes reply :: more, by rw [record]; simp [Line.exchanged, Line.note], done⟩
  | iterate _ ih => exact ih

end Attends

section Listening

open Program (Uses)

private theorem listens_receiveFrame (version : Version) :
    (receiveFrame version).Uses Request.Listening := by
  refine .iterate (fun phase => ?_) fun _ => .pure
  exact .ask trivial fun _ => .pure

theorem listens_switch (link : Link) (version : Version) :
    (link.switch version).Uses Request.Listening := by
  unfold Link.switch
  split
  · exact .ask trivial fun _ => .pure
  · exact .pure

private theorem listens_receive (link : Link) (buffer : Bytes) :
    (link.receive buffer).Uses Request.Listening := by
  refine .ask trivial fun opened => ?_
  cases opened with
  | false => exact .pure
  | true =>
    apply (listens_receiveFrame link.version).bind
    intro receipt
    obtain ⟨code, payload⟩ := receipt
    cases code with
    | ok code => exact .pure
    | error fault =>
      cases fault with
      | versionMismatch expected received =>
        refine .ask trivial fun _ => ?_
        exact (listens_switch link received).bind fun _ => .pure
      | _ => exact .pure

theorem listens_awaitAnswer (code : UInt16) (spare : Nat) (link : Link) (buffer : Bytes) :
    (Link.awaitAnswer code spare link buffer).Uses Request.Listening := by
  induction spare generalizing link buffer with
  | zero => exact (listens_receive link buffer).bind fun _ => .pure
  | succ spare ih =>
    apply (listens_receive link buffer).bind
    intro received
    cases Link.staleCode? code received.outcome with
    | none => exact .pure
    | some stale => exact .ask trivial fun _ => ih _ _

end Listening

/-- A request and its answer, which was read in these chunks. -/
structure Said (respond : Responder) (version : Version) (code : UInt16) (payload : Bytes)
    (answer : Frame) (chunks : List Bytes) : Prop where
  fits : (Frame.ofRequest code payload).Fits version
  answerFits : answer.Fits version
  own : answer.code = code
  replied : respond ((Frame.ofRequest code payload).wire version) (answer.wire version)
  whole : chunks.flatten = answer.wire version

def conversation (version : Version) (code : UInt16) (payload : Bytes) (answer : Frame)
    (chunks : List Bytes) : List Act :=
  .wrote ((Frame.ofRequest code payload).wire version) (answer.wire version) :: .flushed ::
    .reported (.sent code payload.length) :: chunks.map .read

/-- A device that answers every whole request with one frame. -/
def Responder.Reliable (respond : Responder) : Prop :=
  ∀ version code payload, (Frame.ofRequest code payload).Fits version →
    respond.Answers version code payload fun _ => True

section Conversation

variable {respond : Responder} {wanted : Line → Program Unit → Prop} {link : Link}
  {code : UInt16} {payload buffer : Bytes}

theorem attends_conversation (reliable : respond.Reliable) {refused : Fault → Program Unit}
    {concluded : Received Unit → Program Unit}
    (unsent : ∀ fault, Attends respond wanted (refused fault) ⟨link, [], []⟩)
    (answered : ∀ answer chunks, Said respond link.version code payload answer chunks →
      Attends respond wanted (concluded ⟨link, answer.verdict.1, answer.verdict.2⟩)
        ⟨link, [], conversation link.version code payload answer chunks⟩) :
    Attends respond wanted
      ((link.send code payload).bind fun
        | .error fault => refused fault
        | .ok () => (link.receiveAnswer code buffer).bind concluded) ⟨link, [], []⟩ := by
  refine @Attends.listen respond wanted .isOpen _ _ trivial ⟨true, _, rfl, rfl⟩ ?_
  intro opened line served
  obtain ⟨rfl, rfl⟩ := served
  by_cases large : link.limit ≤ payload.length
  · simp only [if_pos large]
    exact unsent _
  simp only [if_neg large]
  cases packed : Frame.pack link.version code payload with
  | error fault => exact unsent fault
  | ok bytes =>
    obtain ⟨fits, rfl⟩ := Frame.pack_eq_ok_iff.mp packed
    have device := reliable link.version code payload fits
    refine .write rfl device.responds fun reply responded => ?_
    obtain ⟨answer, answerFits, own, -, rfl⟩ := device.oneFrame reply responded
    change Attends respond wanted (Program.bind (if _ < _ then _ else _) _) _
    rw [if_neg (Nat.lt_irrefl _)]
    refine @Attends.listen respond wanted .flush _ _ trivial ⟨.ok (), _, rfl, rfl⟩ ?_
    intro flushed line served
    obtain ⟨rfl, rfl⟩ := served
    refine @Attends.listen respond wanted (.report _) _ _ trivial ⟨(), _, rfl⟩ ?_
    intro done line noted
    cases done
    subst noted
    apply Attends.of_ends (Link.ends_receiveAnswer answerFits own rfl buffer)
      (listens_awaitAnswer code (Link.patience - 1) link buffer)
    intro received after ended
    obtain ⟨rfl, chunks, split, rfl⟩ := ended
    rw [List.append_nil] at split
    exact answered answer chunks ⟨fits, answerFits, own, responded, split.symm⟩

end Conversation

end FlightLink
