import FlightLink.Proofs.ActivityCounters

/-! What a poller's activity delivers. A message is delivered directly behind a poll, and it is the one
that the payload of this poll carries. A poll that failed is counted as a failure instead. -/

namespace FlightLink

open Program (Loops Reaches Rounds Runs Uses)

section Executions

variable {α : Type} {program : Program α} {result other : α} {before after : Record}

theorem Program.Runs.unique (runs : Runs Record.anything program before result after)
    (runsToo : Runs Record.anything program before other after) : result = other := by
  induction runs with
  | pure =>
    cases runsToo with
    | pure => rfl
  | @ask request _ _ _ _ answer _ answered rest ih =>
    cases runsToo with
    | @ask _ _ _ _ _ second _ answeredToo restToo =>
      obtain ⟨-, rfl⟩ := answered
      obtain ⟨-, rfl⟩ := answeredToo
      obtain ⟨said, same⟩ := rest.reaches.extends
      obtain ⟨saidToo, sameToo⟩ := restToo.reaches.extends
      rw [same] at sameToo
      simp only [List.append_assoc, List.append_cancel_left_eq, List.singleton_append, List.cons.injEq,
        Query.mk.injEq, heq_eq_eq, true_and] at sameToo
      obtain ⟨rfl, -⟩ := sameToo
      exact ih restToo
  | iterate _ ih =>
    cases runsToo with
    | iterate roundToo => exact ih roundToo

end Executions

namespace Poller

def result (kind : Message.Kind) : Except Fault Unit × Bytes → Except Fault Message
  | (.ok (), payload) => kind.decode payload
  | (.error fault, _) => .error fault

/-- The last thing that was done is a poll, whose transaction came back with the outcome and the payload. -/
inductive Polled (id : PollerId) (kind : Message.Kind) : Record → Except Fault Unit × Bytes → Prop
  | transacted {earlier said : Record} {began : Duration} {outcome : Except Fault Unit × Bytes}
      (transacts : Runs Record.anything (transact kind.code.number [] []) [] outcome said) :
      Polled id kind (earlier ++ ⟨.isWanted id, true⟩ :: ⟨.now, began⟩ :: said) outcome

/-- Behind what a request is made: a delivery behind the poll that got the message, and the count of a
failure behind the poll that failed. -/
def Due (id : PollerId) (kind : Message.Kind) (subscriber : Subscriber) (before : Record) : Request → Prop
  | .deliver taker _ message =>
    taker = subscriber ∧ ∃ outcome, Polled id kind before outcome ∧ result kind outcome = .ok message
  | .count poller tally => poller = id ∧ (tally = .failure →
    ∃ outcome fault, Polled id kind before outcome ∧ result kind outcome = .error fault)
  | _ => True

section

variable {id : PollerId} {kind : Message.Kind} {period began : Duration} {subscriber : Subscriber}
  {delivered : Nat} {said record whole : Record} {polled : Except Fault Message} {request : Request}

theorem result_eq_ok_iff {outcome : Except Fault Unit × Bytes} {message : Message} :
    result kind outcome = .ok message ↔
      ∃ payload, outcome = (.ok (), payload) ∧ kind.decode payload = .ok message := by
  obtain ⟨_ | _, payload⟩ := outcome <;> simp [result]

theorem transacts_of_polls (runs : Runs Record.anything (poll kind) [] polled said) :
    ∃ outcome, Runs Record.anything (transact kind.code.number [] []) [] outcome said ∧
      result kind outcome = polled := by
  obtain ⟨outcome, middle, transacts, rest⟩ := runs.of_bind
  refine ⟨outcome, ?_⟩
  obtain ⟨_ | _, payload⟩ := outcome
  all_goals
    cases rest
    exact ⟨transacts, rfl⟩

theorem Polled.of_polls (runs : Runs Record.anything (poll kind) [] polled said) :
    ∃ outcome, Polled id kind (record ++ ⟨.isWanted id, true⟩ :: ⟨.now, began⟩ :: said) outcome ∧
      result kind outcome = polled := by
  obtain ⟨outcome, transacts, same⟩ := transacts_of_polls runs
  exact ⟨outcome, .transacted transacts, same⟩

private theorem suffix_of_last {call : Query} {earlier other said later : Record} {began beganToo : Duration}
    (called : call.request ≠ .now) (same : earlier ++ call :: ⟨.now, began⟩ :: said =
      other ++ call :: ⟨.now, beganToo⟩ :: later) (never : call ∉ said) (neverToo : call ∉ later) :
    said = later := by
  have last {front said later : Record} {began beganToo : Duration} (never : call ∉ said)
      (same : call :: ⟨.now, began⟩ :: said = front ++ call :: ⟨.now, beganToo⟩ :: later) : said = later := by
    match front with
    | [] => exact (List.cons.inj (List.cons.inj same).2).2
    | [_] =>
      obtain ⟨-, same⟩ := List.cons.inj same
      exact absurd ((List.cons.inj same).1 ▸ rfl) called
    | _ :: _ :: front =>
      obtain ⟨-, same⟩ := List.cons.inj same
      obtain ⟨-, rfl⟩ := List.cons.inj same
      exact absurd (List.mem_append_right _ (List.mem_cons_self ..)) never
  obtain ⟨front, -, same⟩ | ⟨front, -, same⟩ := List.append_eq_append_iff.mp same
  · exact last never same
  · exact (last neverToo same).symm

theorem Polled.unique {outcome other : Except Fault Unit × Bytes} (polled : Polled id kind record outcome)
    (polledToo : Polled id kind record other) : outcome = other := by
  have never {outcome : Except Fault Unit × Bytes} {said : Record}
      (transacts : Runs Record.anything (transact kind.code.number [] []) [] outcome said) :
      ⟨.isWanted id, true⟩ ∉ said := fun member => converses_transact.asked transacts.reaches _ member
  generalize here : record = whole at polledToo
  obtain ⟨transacts⟩ := polled
  obtain ⟨transactsToo⟩ := polledToo
  obtain rfl := suffix_of_last (by simp) here (never transacts) (never transactsToo)
  exact transacts.unique transactsToo

theorem due_of_conversing (conversing : request.Conversing) : Due id kind subscriber record request := by
  cases request <;> first | exact conversing.elim | exact trivial

theorem due_of_concluding (concluding : request.Concluding id) : Due id kind subscriber record request := by
  cases request <;>
    first | exact concluding.elim | exact ⟨concluding.1, fun same => absurd same concluding.2⟩ | exact trivial

theorem due_of_settles {next : request.Answer → Program (Progress Nat Unit)} {later : Record}
    (runs : Runs Record.anything (poll kind) [] polled said)
    (reaches : Reaches Record.anything (settle id kind period subscriber delivered began polled) []
      (.ask request next) later) :
    Due id kind subscriber (record ++ ⟨.isWanted id, true⟩ :: ⟨.now, began⟩ :: (said ++ later)) request := by
  have concluded {next : Nat} {goesOn : request.Answer → Program (Progress Nat Unit)} {later : Record}
      (reaches : Reaches Record.anything (conclude id kind period began next) [] (.ask request goesOn) later)
      (record : Record) : Due id kind subscriber record request := by
    cases (polls_conclude ..).reached reaches with
    | ask concluding => exact due_of_concluding concluding
  obtain ⟨outcome, got, same⟩ := @Polled.of_polls id kind began said record polled runs
  cases polled with
  | ok message =>
    obtain ⟨due, rfl⟩ | ⟨_, more, rfl, concludes⟩ := reaches.of_ask
    · cases due
      rw [List.append_nil]
      exact ⟨rfl, outcome, got, same⟩
    · exact concluded concludes _
  | error fault =>
    obtain ⟨due, rfl⟩ | ⟨_, told, rfl, reports⟩ := reaches.of_ask
    · cases due
      rw [List.append_nil]
      exact ⟨rfl, fun _ => ⟨outcome, fault, got, same⟩⟩
    obtain ⟨due, rfl⟩ | ⟨_, more, rfl, concludes⟩ := reports.of_ask
    · cases due
      exact trivial
    · exact concluded concludes _

theorem due_of_reaches {next : request.Answer → Program (Progress Nat Unit)}
    (reaches : Reaches Record.anything (round id kind period subscriber delivered) [] (.ask request next)
      said) (record : Record) : Due id kind subscriber (record ++ said) request := by
  generalize due : Program.ask request next = rest at reaches
  cases reached_of_reaches reaches with
  | unasked =>
    rw [round_eq] at due
    cases due
    exact trivial
  | unwanted => cases due
  | called =>
    cases due
    exact trivial
  | polling busy inside =>
    rename_i part _
    cases part with
    | pure polled => exact absurd rfl (busy polled)
    | ask =>
      cases due
      cases (converses_poll kind).reached inside with
      | ask conversing => exact due_of_conversing conversing
    | iterate => cases due
  | settling runs settles => exact due_of_settles runs (due ▸ settles)

theorem due_of_loops {next : request.Answer → Program Unit}
    (loops : Loops (round id kind period subscriber) 0 (.ask request next) record) :
    Due id kind subscriber record request := by
  generalize due : Program.ask request next = program at loops
  cases loops with
  | between => cases due
  | @within whole state said rest rounds reaches =>
    cases rest with
    | pure progress => cases progress <;> cases due
    | ask =>
      cases due
      exact due_of_reaches reaches whole
    | iterate => cases due

end
end Poller
end FlightLink
