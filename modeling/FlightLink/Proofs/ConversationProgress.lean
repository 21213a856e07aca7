import FlightLink.Proofs.ConversationPrograms
import FlightLink.Proofs.LinkAttendance

/-! Whole conversations. A transaction, and channel values that are sent, take the link,
send one request and read its answer. From a clear line each of them leaves the record
of that, a clear line, and a task that goes on with what the device answered. -/

namespace FlightLink

def Frame.objection (answer : Frame) : List Act :=
  if answer.direction = refusal then
    [.reported (.unacknowledged .setRawRc (.rejected answer.code))]
  else []

/-- A tenure at the link, from its record: nothing was written in it, or it was one whole
conversation and came back with what the device answered. Channel values are on the wire
then, whatever the answer. -/
inductive Tenure.Whole (respond : Responder) : Tenure → Prop
  | unsent {task before after} : Whole respond ⟨task, before, [], after⟩
  | transacted {task version code payload buffer answer chunks}
      {next : Except Fault Unit × Bytes → Program Unit}
      (said : Said respond version code payload answer chunks) :
      Whole respond
        ⟨task, (transact code payload buffer).bind next,
          conversation version code payload answer chunks, next answer.verdict⟩
  | commanded {task version channels answer chunks} {next : Except Fault Unit → Program Unit}
      (said : Said respond version Code.setRawRc.number channels.encode answer chunks) :
      Whole respond
        ⟨task, (Vehicle.sendChannels channels).bind next,
          conversation version Code.setRawRc.number channels.encode answer chunks ++ answer.objection,
          next (.ok ())⟩

/-- What is wanted when the holder gives the link back. -/
def Concludes (respond : Responder) (task : Nat) (before : Program Unit) (line : Line)
    (after : Program Unit) : Prop :=
  line.inbound = [] ∧ Courteous after ∧ Tenure.Whole respond ⟨task, before, line.history, after⟩

variable {respond : Responder} {task : Nat}

private theorem locked_bind {α : Type} {body : Link → Program (Link × α)} {next : α → Program Unit} :
    (Link.locked body).bind next = .ask .acquire fun link =>
      (body link).bind fun result => .ask (.release result.1) fun _ => next result.2 := by
  change Program.ask .acquire (fun link => ((body link).bind fun result =>
    (Program.release result.1).bind fun _ => .pure result.2).bind next) = _
  simp only [Program.bind_assoc]
  rfl

theorem transact_eq {code : UInt16} {payload buffer : Bytes}
    {next : Except Fault Unit × Bytes → Program Unit} :
    (transact code payload buffer).bind next = .ask .acquire fun link =>
      (link.send code payload).bind fun
        | .error fault => .ask (.release link) fun _ => next (.error fault, buffer)
        | .ok () => (link.receiveAnswer code buffer).bind fun received =>
          .ask (.release received.link) fun _ => next (received.outcome, received.payload) := by
  rw [transact, locked_bind]
  congr 1
  funext link
  simp only [Link.exchange, Program.bind_eq, Program.bind_assoc]
  congr 1
  funext outcome
  cases outcome with
  | error fault => rfl
  | ok => rfl

theorem sendChannels_eq {channels : ChannelOverride} {next : Except Fault Unit → Program Unit} :
    (Vehicle.sendChannels channels).bind next = .ask .acquire fun link =>
      (link.send Code.setRawRc.number channels.encode).bind fun
        | .error fault => .ask (.release link) fun _ => next (.error fault)
        | .ok () => (link.receiveAnswer Code.setRawRc.number []).bind fun received =>
          match received.outcome with
          | .error fault =>
            .ask (.report (.unacknowledged .setRawRc fault)) fun _ =>
              .ask (.release received.link) fun _ => next (.ok ())
          | .ok () => .ask (.release received.link) fun _ => next (.ok ()) := by
  rw [Vehicle.sendChannels, locked_bind]
  congr 1
  funext link
  simp only [Program.bind_eq, Program.bind_assoc]
  congr 1
  funext outcome
  cases outcome with
  | error fault => rfl
  | ok =>
    simp only [Program.bind_assoc]
    congr 1
    funext received
    cases received.outcome <;> rfl

private theorem attends_transact (reliable : respond.Reliable) {code : UInt16}
    {payload buffer : Bytes} {next : Except Fault Unit × Bytes → Program Unit}
    (rest : ∀ result, Courteous (next result)) {acquired : Link → Program Unit}
    (same : .ask .acquire acquired = (transact code payload buffer).bind next) (link : Link) :
    Attends respond (Concludes respond task (.ask .acquire acquired)) (acquired link)
      ⟨link, [], []⟩ := by
  rw [same]
  rw [transact_eq] at same
  cases same
  apply attends_conversation reliable
  · intro fault
    exact .release ⟨rfl, rest _, .unsent⟩
  · intro answer chunks said
    exact .release ⟨rfl, rest _, .transacted said⟩

private theorem attends_sendChannels (reliable : respond.Reliable) {channels : ChannelOverride}
    {next : Except Fault Unit → Program Unit} (rest : ∀ outcome, Courteous (next outcome))
    {acquired : Link → Program Unit}
    (same : .ask .acquire acquired = (Vehicle.sendChannels channels).bind next) (link : Link) :
    Attends respond (Concludes respond task (.ask .acquire acquired)) (acquired link)
      ⟨link, [], []⟩ := by
  rw [same]
  rw [sendChannels_eq] at same
  cases same
  apply attends_conversation reliable
  · intro fault
    exact .release ⟨rfl, rest _, .unsent⟩
  · intro answer chunks said
    have whole := @Tenure.Whole.commanded respond task _ channels answer chunks next said
    by_cases refusal : answer.direction = Frame.refusal
    · rw [Frame.objection, if_pos refusal] at whole
      rw [Frame.verdict, if_pos refusal]
      refine @Attends.listen respond _ (.report _) _ _ trivial ⟨(), _, rfl⟩ ?_
      intro done line noted
      cases done
      subst noted
      exact .release ⟨rfl, rest _, whole⟩
    · rw [Frame.objection, if_neg refusal, List.append_nil] at whole
      rw [Frame.verdict, if_neg refusal]
      exact .release ⟨rfl, rest _, whole⟩

theorem courteous_ask {request : Request} {next : request.Answer → Program Unit}
    (courteous : Courteous (.ask request next)) (other : request ≠ .acquire) :
    request.Aside ∧ ∀ answer, Courteous (next answer) := by
  generalize same : Program.ask request next = program at courteous
  cases courteous with
  | aside aside rest =>
    cases same
    exact ⟨aside, rest⟩
  | transact =>
    rw [transact_eq] at same
    cases same
    exact absurd rfl other
  | sendChannels =>
    rw [sendChannels_eq] at same
    cases same
    exact absurd rfl other
  | _ => cases same

theorem courteous_acquire (reliable : respond.Reliable) {acquired : Link → Program Unit}
    (courteous : Courteous (.ask .acquire acquired)) (link : Link) :
    Attends respond (Concludes respond task (.ask .acquire acquired)) (acquired link)
      ⟨link, [], []⟩ := by
  generalize same : Program.ask .acquire acquired = program at courteous
  cases courteous with
  | aside aside =>
    cases same
    cases aside
  | transact rest => exact same ▸ attends_transact reliable rest same link
  | sendChannels rest => exact same ▸ attends_sendChannels reliable rest same link
  | _ => cases same

end FlightLink
