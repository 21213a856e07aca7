import FlightLink.Proofs.FiniteSupply
import FlightLink.Proofs.LinkAttendance

/-! What a poller's activity asks. A turn begins with the question whether the poller is still wanted,
has one transaction, and ends with a rest or an overrun. What an activity has asked is whole turns and
the beginning of one more, which comes to its end once the port has no more bytes to give. -/

namespace FlightLink

open Program (Abides Ends Follows Halts Reaches Uses)

section

variable {code : UInt16} {payload buffer : Bytes}

def Request.Conversing : Request → Prop
  | .acquire | .isOpen | .write _ | .flush | .read _ | .release _ | .report _ => True
  | _ => False

theorem Request.Listening.conversing : ∀ {request : Request}, request.Listening → request.Conversing
  | .isOpen, _ | .flush, _ | .read _, _ | .report _, _ => trivial

theorem Link.converses_send (link : Link) : (link.send code payload).Uses Request.Conversing := by
  refine .ask trivial fun opened => ?_
  cases opened with
  | false => exact .pure
  | true =>
    change Uses _ (if _ then _ else _)
    split
    · exact .pure
    · split
      · exact .pure
      · refine .ask trivial fun accepted => ?_
        cases accepted with
        | error fault => exact .pure
        | ok written =>
          change Uses _ (if _ then _ else _)
          split
          · exact .pure
          · refine .ask trivial fun flushed => ?_
            cases flushed with
            | error fault => exact .pure
            | ok => exact .ask trivial fun _ => .pure

theorem Link.converses_receiveAnswer (link : Link) :
    (link.receiveAnswer code buffer).Uses Request.Conversing :=
  (listens_awaitAnswer ..).weaken fun _ => Request.Listening.conversing

theorem Link.converses_locked {α : Type} {body : Link → Program (Link × α)}
    (converses : ∀ link, (body link).Uses Request.Conversing) :
    (Link.locked body).Uses Request.Conversing :=
  .ask trivial fun link => (converses link).bind fun _ => .ask trivial fun _ => .pure

theorem converses_transact : (transact code payload buffer).Uses Request.Conversing := by
  apply Link.converses_locked
  intro link
  refine (link.converses_send.bind fun sent => ?_).bind fun _ => .pure
  cases sent with
  | error fault => exact .pure
  | ok => exact link.converses_receiveAnswer

end

/-- The requests of an activity. It minds its own poller only. -/
def Request.Polling (id : PollerId) : Request → Prop
  | .isWanted poller | .count poller _ | .rest poller _ => poller = id
  | .now | .deliver .. => True
  | request => request.Conversing

theorem Request.Conversing.polling (id : PollerId) :
    ∀ {request : Request}, request.Conversing → request.Polling id
  | .acquire, _ | .isOpen, _ | .write _, _ | .flush, _ | .read _, _ | .release _, _ | .report _, _ =>
    trivial

def Request.Concluding (id : PollerId) : Request → Prop
  | .count poller tally => poller = id ∧ tally ≠ .failure
  | .rest poller _ => poller = id
  | .now | .report _ => True
  | _ => False

theorem Request.Concluding.polling {id : PollerId} :
    ∀ {request : Request}, request.Concluding id → request.Polling id
  | .count .., counting => counting.1
  | .rest .., same => same
  | .now, _ | .report _, _ => trivial

namespace Poller

/-- The courses of a poll. -/
inductive Polls (kind : Message.Kind) : Record → Except Fault Message → Prop
  | failed {said fault payload}
      (transacts : Transacts kind.code.number [] [] said (.error fault, payload)) :
      Polls kind said (.error fault)
  | answered {said payload} (transacts : Transacts kind.code.number [] [] said (.ok (), payload)) :
      Polls kind said (kind.decode payload)

inductive Concludes (id : PollerId) (kind : Message.Kind) (period began : Duration) : Record → Prop
  | rested {ended : Duration} (inTime : ¬ period < ended.since began) :
      Concludes id kind period began
        [⟨.count id .iteration, ()⟩, ⟨.now, ended⟩, ⟨.rest id (began + period), ()⟩]
  | overran {ended : Duration} (late : period < ended.since began) :
      Concludes id kind period began
        [⟨.count id .iteration, ()⟩, ⟨.now, ended⟩, ⟨.count id .overrun, ()⟩,
          ⟨.report (.overrun kind.code (ended.since began) period), ()⟩]

/-- The courses of a turn, with the number of deliveries before it and after it. -/
inductive Turn (id : PollerId) (kind : Message.Kind) (period : Duration) (subscriber : Subscriber)
    (delivered : Nat) : Record → Nat → Prop
  | delivered {began : Duration} {said message last} (polls : Polls kind said (.ok message))
      (concludes : Concludes id kind period began last) :
      Turn id kind period subscriber delivered (⟨.isWanted id, true⟩ :: ⟨.now, began⟩ ::
        (said ++ ⟨.deliver subscriber (delivered + 1) message, ()⟩ :: last)) (delivered + 1)
  | failed {began : Duration} {said fault last} (polls : Polls kind said (.error fault))
      (concludes : Concludes id kind period began last) :
      Turn id kind period subscriber delivered (⟨.isWanted id, true⟩ :: ⟨.now, began⟩ ::
        (said ++ ⟨.count id .failure, ()⟩ :: ⟨.report (.pollFailed kind.code fault), ()⟩ :: last))
        delivered

def Rounded (id : PollerId) (kind : Message.Kind) (period : Duration) (subscriber : Subscriber)
    (delivered : Nat) (said : Record) : Progress Nat Unit → Prop
  | .more next => Turn id kind period subscriber delivered said next
  | .done () => said = [⟨.isWanted id, false⟩]

inductive Turns (id : PollerId) (kind : Message.Kind) (period : Duration) (subscriber : Subscriber) :
    Record → Nat → Prop
  | none : Turns id kind period subscriber [] 0
  | after {whole said delivered next} (turns : Turns id kind period subscriber whole delivered)
      (turn : Turn id kind period subscriber delivered said next) :
      Turns id kind period subscriber (whole ++ said) next

section

variable {allowed : Record → Bytes → Prop} {record said : Record} {id : PollerId}
  {kind : Message.Kind} {period began : Duration} {subscriber : Subscriber} {delivered next : Nat}

def conclude (id : PollerId) (kind : Message.Kind) (period began : Duration) (next : Nat) :
    Program (Progress Nat Unit) := do
  Program.count id .iteration
  let elapsed := (← Program.now).since began
  if period < elapsed then
    Program.count id .overrun
    Program.report (.overrun kind.code elapsed period)
  else
    Program.rest id (began + period)
  return .more next

def settle (id : PollerId) (kind : Message.Kind) (period : Duration) (subscriber : Subscriber)
    (delivered : Nat) (began : Duration) : Except Fault Message → Program (Progress Nat Unit)
  | .ok message => do
    Program.deliver subscriber (delivered + 1) message
    conclude id kind period began (delivered + 1)
  | .error fault => do
    Program.count id .failure
    Program.report (.pollFailed kind.code fault)
    conclude id kind period began delivered

theorem round_eq : round id kind period subscriber delivered =
    .ask (.isWanted id) fun
      | false => .pure (.done ())
      | true => .ask .now fun began =>
        (poll kind).bind (settle id kind period subscriber delivered began) := by
  refine congrArg (Program.ask _) (funext fun wanted => ?_)
  cases wanted with
  | false => rfl
  | true =>
    refine congrArg (Program.ask _) (funext fun began => ?_)
    change (poll kind).bind _ = _
    refine congrArg (Program.bind _) (funext fun polled => ?_)
    cases polled <;> rfl

theorem follows_poll (fine : ∀ before bytes, allowed before bytes) (kind : Message.Kind)
    (record : Record) : (poll kind).Follows allowed (Polls kind) record := by
  apply (follows_transact [] fun _ _ _ => fine _ _).bind
  intro result said transacts
  obtain ⟨outcome, payload⟩ := result
  cases outcome with
  | error fault => exact .pure ⟨said, rfl, .failed transacts⟩
  | ok => exact .pure ⟨said, rfl, .answered transacts⟩

theorem follows_conclude (id : PollerId) (kind : Message.Kind) (period began : Duration) (next : Nat)
    (record : Record) :
    (conclude id kind period began next).Follows allowed
      (fun said progress => progress = .more next ∧ Concludes id kind period began said) record := by
  refine .ask nofun fun counted _ => ?_
  cases counted
  refine .ask nofun fun ended _ => ?_
  rw [List.append_assoc]
  change Abides _ _ (if period < ended.since began then _ else _) _
  split
  next late =>
    refine .ask nofun fun counted _ => .ask nofun fun told _ => ?_
    cases counted
    cases told
    exact .pure ⟨_, by simp, rfl, .overran late⟩
  next inTime =>
    refine .ask nofun fun rested _ => ?_
    cases rested
    exact .pure ⟨_, by simp, rfl, .rested inTime⟩

theorem follows_round (fine : ∀ before bytes, allowed before bytes) (record : Record) :
    (round id kind period subscriber delivered).Follows allowed
      (Rounded id kind period subscriber delivered) record := by
  rw [round_eq]
  refine .ask nofun fun wanted _ => ?_
  cases wanted with
  | false => exact .pure ⟨_, rfl, rfl⟩
  | true =>
    refine .ask nofun fun began _ => ?_
    apply (follows_poll fine kind _).bind
    intro polled said polls
    cases polled with
    | ok message =>
      refine .ask nofun fun took _ => ?_
      cases took
      apply (follows_conclude id kind period began (delivered + 1) _).abides
      intro progress last concluded
      obtain ⟨rfl, concludes⟩ := concluded
      exact ⟨_, by simp, .delivered polls concludes⟩
    | error fault =>
      refine .ask nofun fun counted _ => .ask nofun fun told _ => ?_
      cases counted
      cases told
      apply (follows_conclude id kind period began delivered _).abides
      intro progress last concluded
      obtain ⟨rfl, concludes⟩ := concluded
      exact ⟨_, by simp, .failed polls concludes⟩

theorem halts_poll (kind : Message.Kind) : (poll kind).Halts := by
  apply (halts_transact ..).bind
  intro result
  obtain ⟨outcome, payload⟩ := result
  cases outcome <;> exact .pure

theorem halts_conclude (id : PollerId) (kind : Message.Kind) (period began : Duration) (next : Nat) :
    (conclude id kind period began next).Halts := by
  refine .ask fun _ => .ask fun ended => ?_
  change Halts (if period < ended.since began then _ else _)
  split
  · exact .ask fun _ => .ask fun _ => .pure
  · exact .ask fun _ => .pure

theorem halts_round : (round id kind period subscriber delivered).Halts := by
  rw [round_eq]
  refine .ask fun wanted => ?_
  cases wanted with
  | false => exact .pure
  | true =>
    refine .ask fun began => (halts_poll kind).bind fun polled => ?_
    cases polled with
    | ok message => exact .ask fun _ => halts_conclude id kind period began (delivered + 1)
    | error fault => exact .ask fun _ => .ask fun _ => halts_conclude id kind period began delivered

theorem converses_poll (kind : Message.Kind) : (poll kind).Uses Request.Conversing := by
  apply converses_transact.bind
  intro result
  obtain ⟨outcome, payload⟩ := result
  cases outcome <;> exact .pure

theorem polls_conclude (id : PollerId) (kind : Message.Kind) (period began : Duration) (next : Nat) :
    (conclude id kind period began next).Uses (Request.Concluding id) := by
  refine .ask ⟨rfl, nofun⟩ fun _ => .ask trivial fun ended => ?_
  change Uses _ (if period < ended.since began then _ else _)
  split
  · exact .ask ⟨rfl, nofun⟩ fun _ => .ask trivial fun _ => .pure
  · exact .ask rfl fun _ => .pure

theorem polls_round :
    (round id kind period subscriber delivered).Uses (Request.Polling id) := by
  rw [round_eq]
  refine .ask rfl fun wanted => ?_
  cases wanted with
  | false => exact .pure
  | true =>
    refine .ask trivial fun began => ?_
    refine ((converses_poll kind).weaken fun _ converses => converses.polling id).bind fun polled => ?_
    have concludes (next : Nat) : (conclude id kind period began next).Uses (Request.Polling id) :=
      (polls_conclude id kind period began next).weaken fun _ concluding => concluding.polling
    cases polled with
    | ok message => exact .ask trivial fun _ => concludes _
    | error fault => exact .ask rfl fun _ => .ask trivial fun _ => concludes _

def behind (id : PollerId) (kind : Message.Kind) (period : Duration) (subscriber : Subscriber) :
    Progress Nat Unit → Program Unit :=
  Program.behind (round id kind period subscriber) .pure

theorem unfold_round : Program.unfold (round id kind period subscriber) delivered .pure =
    (round id kind period subscriber delivered).bind (behind id kind period subscriber) :=
  Program.unfold_eq_bind ..

/-- Where an activity stands that has asked what the record says. -/
inductive Stands (id : PollerId) (kind : Message.Kind) (period : Duration) (subscriber : Subscriber) :
    Program Unit → Record → Prop
  | between {whole delivered} (turns : Turns id kind period subscriber whole delivered) :
      Stands id kind period subscriber (behind id kind period subscriber (.more delivered)) whole
  | within {whole delivered said rest} (turns : Turns id kind period subscriber whole delivered)
      (reaches : Reaches Record.anything (round id kind period subscriber delivered) [] rest said) :
      Stands id kind period subscriber (rest.bind (behind id kind period subscriber)) (whole ++ said)

theorem rounded_of_reaches {progress : Progress Nat Unit}
    (reaches : Reaches Record.anything (round id kind period subscriber delivered) [] (.pure progress)
      said) : Rounded id kind period subscriber delivered said progress := by
  have follows : (round id kind period subscriber delivered).Follows (fun _ _ => True)
      (Rounded id kind period subscriber delivered) [] := follows_round (fun _ _ => trivial) []
  obtain ⟨whole, rfl, rounded⟩ := follows.of_runs reaches.runs
  exact rounded

/-- However far a round has come, it comes to its end from there, as a whole. -/
theorem ends_round {rest : Program (Progress Nat Unit)}
    (reaches : Reaches Record.anything (round id kind period subscriber delivered) [] rest said) {most : Nat}
    (room : said.delivered.length ≤ most) : rest.Ends (Record.scarce most)
      (fun progress after => Rounded id kind period subscriber delivered after progress) said := by
  have follows : (round id kind period subscriber delivered).Follows (fun _ _ => True)
      (Rounded id kind period subscriber delivered) [] := follows_round (fun _ _ => trivial) []
  apply (halts_round.reached follows reaches room).weaken
  intro progress after rounded
  obtain ⟨whole, rfl, rounded⟩ := rounded
  exact rounded

namespace Stands

theorem start : Stands id kind period subscriber (activity id kind period subscriber) [] :=
  .between .none

theorem asked {request : Request} {next : request.Answer → Program Unit} {answer : request.Answer}
    (stands : Stands id kind period subscriber (.ask request next) record)
    (possible : request.Possible answer) :
    Stands id kind period subscriber (next answer) (record ++ [⟨request, answer⟩]) := by
  generalize due : Program.ask request next = program at stands
  cases stands with
  | between => cases due
  | @within whole delivered said rest turns reaches =>
    cases rest with
    | pure progress => cases progress <;> cases due
    | ask =>
      cases due
      rw [List.append_assoc]
      exact .within turns (reaches.trans (.ask ⟨possible, rfl⟩ .here))
    | iterate => cases due

theorem unfolded {ρ γ : Type} {body : ρ → Program (Progress ρ γ)} {start : ρ} {next : γ → Program Unit}
    (stands : Stands id kind period subscriber (.iterate body start next) record) :
    Stands id kind period subscriber (Program.unfold body start next) record := by
  generalize due : Program.iterate body start next = program at stands
  have here {whole delivered} (turns : Turns id kind period subscriber whole delivered) :
      Stands id kind period subscriber
        (Program.unfold (round id kind period subscriber) delivered .pure) whole := by
    have within := Stands.within turns .here
    rwa [List.append_nil, ← unfold_round] at within
  cases stands with
  | between turns =>
    cases due
    exact here turns
  | @within whole delivered said rest turns reaches =>
    cases rest with
    | pure progress =>
      cases progress with
      | more next =>
        cases due
        exact here (.after turns (rounded_of_reaches reaches))
      | done => cases due
    | ask => cases due
    | iterate =>
      cases due
      rw [Program.unfold_bind]
      exact .within turns (reaches.trans (.iterate .here))

theorem polls {program : Program Unit} (stands : Stands id kind period subscriber program record) :
    program.Uses (Request.Polling id) := by
  have polls_behind (progress : Progress Nat Unit) :
      (behind id kind period subscriber progress).Uses (Request.Polling id) := by
    cases progress with
    | more next => exact .iterate (fun _ => polls_round) fun _ => .pure
    | done => exact .pure
  cases stands with
  | between => exact polls_behind _
  | within _ reaches => exact (polls_round.reached reaches).bind polls_behind

theorem ended (stands : Stands id kind period subscriber (.pure ()) record) :
    ∃ whole delivered, Turns id kind period subscriber whole delivered ∧
      record = whole ++ [⟨.isWanted id, false⟩] := by
  generalize due : Program.pure () = program at stands
  cases stands with
  | between => cases due
  | @within whole delivered said rest turns reaches =>
    cases rest with
    | pure progress =>
      cases progress with
      | more => cases due
      | done =>
        cases rounded_of_reaches reaches
        exact ⟨whole, delivered, turns, rfl⟩
    | ask | iterate => cases due

end Stands

private theorem settles_of_delivers {taker : Subscriber} {ordinal : Nat} {message : Message}
    {next : Unit → Program (Progress Nat Unit)} {polled : Except Fault Message}
    (reaches : Reaches Record.anything (settle id kind period subscriber delivered began polled) record
      (.ask (.deliver taker ordinal message) next) said) :
    polled = .ok message ∧ said = record := by
  have concludes (next : Nat) {before rest after}
      (reaches : Reaches Record.anything (conclude id kind period began next) before rest after) :
      rest.Uses (Request.Concluding id) := (polls_conclude id kind period began next).reached reaches
  cases polled with
  | ok message =>
    cases reaches with
    | here => exact ⟨rfl, rfl⟩
    | ask _ rest => cases concludes _ rest with | ask fine _ => cases fine
  | error fault =>
    cases reaches with
    | ask _ rest =>
    cases rest with
    | ask _ rest => cases concludes _ rest with | ask fine _ => cases fine

theorem polls_of_delivers {taker : Subscriber} {ordinal : Nat} {message : Message}
    {next : Unit → Program (Progress Nat Unit)}
    (reaches : Reaches Record.anything (round id kind period subscriber delivered) []
      (.ask (.deliver taker ordinal message) next) said) :
    ∃ began polled, Polls kind polled (.ok message) ∧
      said = ⟨.isWanted id, true⟩ :: ⟨.now, began⟩ :: polled := by
  rw [round_eq] at reaches
  cases reaches with
  | @ask _ _ _ _ _ wanted _ answered reaches =>
  obtain ⟨-, rfl⟩ := answered
  cases wanted with
  | false => cases reaches
  | true =>
  cases reaches with
  | @ask _ _ _ _ _ began _ answered reaches =>
  obtain ⟨-, rfl⟩ := answered
  have polled_of_runs {polled middle} (runs : Program.Runs Record.anything (poll kind)
      [⟨.isWanted id, true⟩, ⟨.now, began⟩] polled middle)
      (settles : Reaches Record.anything (settle id kind period subscriber delivered began polled) middle
        (.ask (.deliver taker ordinal message) next) said) :
      ∃ began polled, Polls kind polled (.ok message) ∧
        said = ⟨.isWanted id, true⟩ :: ⟨.now, began⟩ :: polled := by
    obtain ⟨rfl, rfl⟩ := settles_of_delivers settles
    have follows : (poll kind).Follows (fun _ _ => True) (Polls kind)
        [⟨.isWanted id, true⟩, ⟨.now, began⟩] := follows_poll (fun _ _ => trivial) kind _
    obtain ⟨whole, rfl, polls⟩ := follows.of_runs runs
    exact ⟨began, whole, polls, rfl⟩
  obtain ⟨rest, inside, due⟩ | ⟨polled, middle, runs, settles⟩ := reaches.of_bind
  · cases rest with
    | pure polled =>
      apply polled_of_runs inside.runs
      rw [due]
      exact .here
    | ask =>
      cases due
      cases (converses_poll kind).reached inside with
      | ask fine _ => cases fine
    | iterate => cases due
  · exact polled_of_runs runs settles

namespace Stands

theorem delivers {taker : Subscriber} {ordinal : Nat} {message : Message} {next : Unit → Program Unit}
    (stands : Stands id kind period subscriber (.ask (.deliver taker ordinal message) next) record) :
    ∃ whole delivered began polled, Turns id kind period subscriber whole delivered ∧
      Polls kind polled (.ok message) ∧
      record = whole ++ ⟨.isWanted id, true⟩ :: ⟨.now, began⟩ :: polled := by
  generalize due : Program.ask (.deliver taker ordinal message) next = program at stands
  cases stands with
  | between => cases due
  | @within whole delivered said rest turns reaches =>
    cases rest with
    | pure progress => cases progress <;> cases due
    | ask =>
      cases due
      obtain ⟨began, polled, polls, rfl⟩ := polls_of_delivers reaches
      exact ⟨whole, delivered, began, polled, turns, polls, rfl⟩
    | iterate => cases due

theorem untold {program : Program Unit} (stands : Stands id kind period subscriber program record)
    (never : ⟨.isWanted id, true⟩ ∉ record) : record = [] ∨ record = [⟨.isWanted id, false⟩] := by
  have nothing {whole delivered} (turns : Turns id kind period subscriber whole delivered)
      (never : ⟨.isWanted id, true⟩ ∉ whole) : whole = [] := by
    cases turns with
    | none => rfl
    | after _ turn =>
      apply absurd _ never
      cases turn <;> simp
  cases stands with
  | between turns => exact .inl (nothing turns never)
  | @within whole delivered said rest turns reaches =>
    obtain rfl := nothing turns fun told => never (List.mem_append_left _ told)
    rw [round_eq] at reaches
    cases reaches with
    | here => exact .inl rfl
    | @ask _ _ _ _ _ wanted _ answered reaches =>
      obtain ⟨-, rfl⟩ := answered
      cases wanted with
      | false =>
        cases reaches
        exact .inr rfl
      | true =>
        obtain ⟨more, rfl⟩ := reaches.extends
        simp at never

end Stands

end
end Poller
end FlightLink
