import FlightLink.Proofs.ActivityProgress

/-! An activity that uses one message and one buffer again and again. Whatever is left in the buffer by the
polls before, and whatever message it was handed when it was launched, it does the same as an activity that
takes fresh ones for every poll. -/

namespace FlightLink

namespace Progress

/-- Rounds that are alike go on alike, or come to alike results. -/
inductive Alike {ρ σ γ δ : Type} (states : ρ → σ → Prop) (results : γ → δ → Prop) :
    Progress ρ γ → Progress σ δ → Prop
  | more {state other} (alike : states state other) : Alike states results (.more state) (.more other)
  | done {result other} (alike : results result other) : Alike states results (.done result) (.done other)

end Progress

namespace Program

/-- The programs ask the same, whatever they are answered, and come to alike results. -/
inductive Alike : {α β : Type} → (results : α → β → Prop) → Program α → Program β → Prop
  | pure {α β : Type} {results : α → β → Prop} {result other} (alike : results result other) :
      Alike results (.pure result) (.pure other)
  | ask {α β : Type} {results : α → β → Prop} {request : Request} {next : request.Answer → Program α}
      {goesOn : request.Answer → Program β} (rest : ∀ answer, Alike results (next answer) (goesOn answer)) :
      Alike results (.ask request next) (.ask request goesOn)
  | iterate {α β ρ σ γ δ : Type} {results : α → β → Prop} {body : ρ → Program (Progress ρ γ)}
      {twin : σ → Program (Progress σ δ)} {start : ρ} {first : σ} {next : γ → Program α}
      {goesOn : δ → Program β} (states : ρ → σ → Prop) (ends : γ → δ → Prop) (begin : states start first)
      (round : ∀ state other, states state other →
        Alike (Progress.Alike states ends) (body state) (twin other))
      (rest : ∀ result other, ends result other → Alike results (next result) (goesOn other)) :
      Alike results (.iterate body start next) (.iterate twin first goesOn)

variable {α β γ δ : Type} {results : α → β → Prop} {program final : Program α} {twin : Program β}

namespace Alike

theorem weaken {others : α → β → Prop} (alike : Alike results program twin)
    (implies : ∀ result other, results result other → others result other) :
    Alike others program twin := by
  induction alike with
  | pure alike => exact .pure (implies _ _ alike)
  | ask _ ih => exact .ask fun answer => ih answer implies
  | iterate states ends begin round _ _ ih =>
    exact .iterate states ends begin round fun result other alike => ih result other alike implies

theorem refl (program : Program α) : Alike Eq program program := by
  induction program with
  | pure => exact .pure rfl
  | ask request next ih => exact .ask ih
  | iterate body start next round rest =>
    refine .iterate Eq Eq rfl (fun state other same => ?_) fun result other same => same ▸ rest result
    subst same
    apply (round state).weaken
    rintro progress other rfl
    cases progress with
    | more => exact .more rfl
    | done => exact .done rfl

theorem symm (alike : Alike results program twin) :
    Alike (fun result other => results other result) twin program := by
  induction alike with
  | pure alike => exact .pure alike
  | ask _ ih => exact .ask ih
  | iterate states ends begin _ _ round rest =>
    refine .iterate (fun state other => states other state) (fun result other => ends other result) begin
      (fun state other alike => ?_) fun result other alike => rest other result alike
    apply (round other state alike).weaken
    intro progress other alike
    cases alike with
    | more alike => exact .more alike
    | done alike => exact .done alike

theorem bind {others : γ → δ → Prop} {next : α → Program γ} {goesOn : β → Program δ}
    (first : Alike results program twin)
    (rest : ∀ result other, results result other → Alike others (next result) (goesOn other)) :
    Alike others (program.bind next) (twin.bind goesOn) := by
  induction first with
  | pure alike => exact rest _ _ alike
  | ask _ ih => exact .ask fun answer => ih answer rest
  | iterate states ends begin round _ _ ih =>
    exact .iterate states ends begin round fun result other alike => ih result other alike rest

theorem unfolded {ρ σ γ δ : Type} {body : ρ → Program (Progress ρ γ)}
    {double : σ → Program (Progress σ δ)} {start : ρ} {first : σ} {next : γ → Program α}
    {goesOn : δ → Program β}
    (alike : Alike results (.iterate body start next) (.iterate double first goesOn)) :
    Alike results (unfold body start next) (unfold double first goesOn) := by
  cases alike with
  | iterate states ends begin round rest =>
    apply (round _ _ begin).bind
    intro progress other alike
    cases alike with
    | more alike => exact .iterate states ends alike round rest
    | done alike => exact rest _ _ alike

theorem reaches {σ : Type} {answers : Surroundings σ} {before after : σ}
    (alike : Alike results program twin) (reaches : Reaches answers program before final after) :
    ∃ left, Reaches answers twin before left after ∧ Alike results final left := by
  induction reaches generalizing twin with
  | here => exact ⟨twin, .here, alike⟩
  | ask answered _ ih =>
    cases alike with
    | ask rest =>
      obtain ⟨left, reaches, alike⟩ := ih (rest _)
      exact ⟨left, .ask answered reaches, alike⟩
  | iterate _ ih =>
    generalize whole : Program.iterate _ _ _ = program at alike
    cases alike with
    | pure | ask => cases whole
    | iterate states ends begin round rest =>
      cases whole
      obtain ⟨left, reaches, alike⟩ := ih (.unfolded (.iterate states ends begin round rest))
      exact ⟨left, .iterate reaches, alike⟩

end Alike
end Program

open Program (Alike Reaches)

section Transactions

variable {code : UInt16} {payload : Bytes}

def Received.Alike {α : Type} (first second : Received α) : Prop :=
  second.link = first.link ∧ second.outcome = first.outcome ∧
    ∀ result, first.outcome = .ok result → second.payload = first.payload

namespace Link

theorem alike_receive (link : Link) (buffer other : Bytes) :
    Alike Received.Alike (link.receive buffer) (link.receive other) := by
  refine .ask fun opened => ?_
  cases opened with
  | false => exact .pure ⟨rfl, rfl, nofun⟩
  | true =>
    apply (Alike.refl _).weaken
    rintro received _ rfl
    exact ⟨rfl, rfl, fun _ _ => rfl⟩

private theorem alike_asAnswer {first second : Received UInt16} (alike : first.Alike second) :
    (asAnswer code first).Alike (asAnswer code second) := by
  obtain ⟨_, _, filled⟩ := first
  obtain ⟨link, outcome, other⟩ := second
  obtain ⟨rfl, rfl, same⟩ := alike
  unfold asAnswer
  cases staleCode? code outcome with
  | some stale => exact ⟨rfl, rfl, nofun⟩
  | none =>
    refine ⟨rfl, rfl, fun result passed => ?_⟩
    cases outcome with
    | error fault => cases passed
    | ok received => exact same received rfl

theorem alike_awaitAnswer (spare : Nat) (link : Link) (buffer other : Bytes) :
    Alike Received.Alike (awaitAnswer code spare link buffer) (awaitAnswer code spare link other) := by
  induction spare generalizing link buffer other with
  | zero => exact (link.alike_receive buffer other).bind fun _ _ alike => .pure (alike_asAnswer alike)
  | succ spare ih =>
    apply (link.alike_receive buffer other).bind
    intro first second alike
    have answer := @alike_asAnswer code _ _ alike
    obtain ⟨_, _, filled⟩ := first
    obtain ⟨link, outcome, other⟩ := second
    obtain ⟨rfl, rfl, -⟩ := alike
    dsimp only
    cases staleCode? code outcome with
    | some stale => exact .ask fun _ => ih ..
    | none => exact .pure answer

theorem alike_exchange (link : Link) (buffer other : Bytes) :
    Alike Received.Alike (link.exchange code payload buffer) (link.exchange code payload other) := by
  apply (Alike.refl _).bind
  rintro sent _ rfl
  cases sent with
  | error fault => exact .pure ⟨rfl, rfl, nofun⟩
  | ok => exact alike_awaitAnswer ..

end Link

theorem alike_transact (buffer other : Bytes) :
    Alike (fun first second => second.1 = first.1 ∧ (first.1 = .ok () → second.2 = first.2))
      (transact code payload buffer) (transact code payload other) := by
  refine .ask fun link => ?_
  change Alike _ (((link.exchange code payload buffer).bind _).bind _)
    (((link.exchange code payload other).bind _).bind _)
  rw [Program.bind_assoc, Program.bind_assoc]
  apply (link.alike_exchange buffer other).bind
  rintro ⟨_, first, _⟩ ⟨link, second, _⟩ ⟨rfl, rfl, same⟩
  exact .ask fun _ => .pure ⟨rfl, same ()⟩

end Transactions

namespace Poller

/-- What an activity has at hand: the message that it delivers and the buffer that its polls fill. -/
structure Memory where
  message : Message
  buffer : Bytes
  delivered : Nat

def pollInto (memory : Memory) : Program (Memory × Except Fault Unit) := do
  let (outcome, buffer) ← transact memory.message.code.number [] memory.buffer
  match outcome with
  | .error fault => return ({ memory with buffer }, .error fault)
  | .ok () =>
    let (message, refreshed) := memory.message.refresh buffer
    return ({ memory with message, buffer }, refreshed)

def close (id : PollerId) (code : Code) (period began : Duration) : Program Unit := do
  Program.count id .iteration
  let elapsed := (← Program.now).since began
  if period < elapsed then
    Program.count id .overrun
    Program.report (.overrun code elapsed period)
  else
    Program.rest id (began + period)

def reusingRound (id : PollerId) (period : Duration) (subscriber : Subscriber) (memory : Memory) :
    Program (Progress Memory Message) := do
  if !(← Program.isWanted id) then
    return .done memory.message
  let began ← Program.now
  let (memory, polled) ← pollInto memory
  match polled with
  | .ok () =>
    Program.deliver subscriber (memory.delivered + 1) memory.message
    close id memory.message.code period began
    return .more { memory with delivered := memory.delivered + 1 }
  | .error fault =>
    Program.count id .failure
    Program.report (.pollFailed memory.message.code fault)
    close id memory.message.code period began
    return .more memory

/-- The activity of a poller that begins with the message of an activity before it. -/
def reusing (id : PollerId) (period : Duration) (subscriber : Subscriber) (message : Message) :
    Program Message :=
  Program.loop ⟨message, [], 0⟩ (reusingRound id period subscriber)

section

variable {id : PollerId} {kind : Message.Kind} {period : Duration} {subscriber : Subscriber} {memory : Memory}

private theorem kind_of_map {α : Type} {decoded : Except Fault α} {make : α → Message} {message : Message}
    (kinds : ∀ content, (make content).kind = kind) (same : make <$> decoded = .ok message) :
    message.kind = kind := by
  cases decoded <;> cases same
  exact kinds _

theorem kind_of_decode {payload : Bytes} {message : Message} (decoded : kind.decode payload = .ok message) :
    message.kind = kind := by
  cases kind with
  | override => cases decoded
  | imu | altitude | rxMap | rc => exact kind_of_map (fun _ => rfl) decoded

inductive Leaves (kind : Message.Kind) (delivered : Nat) :
    Memory × Except Fault Unit → Except Fault Message → Prop
  | got {memory : Memory} (same : memory.message.kind = kind) (count : memory.delivered = delivered) :
      Leaves kind delivered (memory, .ok ()) (.ok memory.message)
  | failed {memory : Memory} {fault} (same : memory.message.kind = kind)
      (count : memory.delivered = delivered) : Leaves kind delivered (memory, .error fault) (.error fault)

theorem alike_poll (same : memory.message.kind = kind) :
    Alike (Leaves kind memory.delivered) (pollInto memory) (poll kind) := by
  subst same
  apply (alike_transact memory.buffer []).bind
  rintro ⟨_, buffer⟩ ⟨outcome, payload⟩ ⟨rfl, filled⟩
  cases outcome with
  | error fault => exact .pure (.failed rfl rfl)
  | ok =>
    obtain rfl := filled rfl
    change Alike _ (match memory.message.refresh payload with | (message, refreshed) => Program.pure _)
      (Program.pure (memory.message.kind.decode payload))
    unfold Message.refresh
    cases decoded : memory.message.kind.decode payload with
    | error fault => exact .pure (.failed rfl rfl)
    | ok message => exact .pure (.got (kind_of_decode decoded) rfl)

def Matches (kind : Message.Kind) (memory : Memory) (delivered : Nat) : Prop :=
  memory.message.kind = kind ∧ memory.delivered = delivered

def HandsOver (kind : Message.Kind) (message : Message) (_ : Unit) : Prop := message.kind = kind

theorem conclude_eq {began : Duration} {next : Nat} : conclude id kind period began next =
    (close id kind.code period began).bind fun _ => .pure (.more next) := by
  refine congrArg (Program.ask _) (funext fun _ => congrArg (Program.ask _) (funext fun ended => ?_))
  change (if period < ended.since began then _ else _) =
    Program.bind (if period < ended.since began then _ else _) _
  split <;> rfl

theorem alike_conclude {began : Duration} {next : Nat} (matching : Matches kind memory next) :
    Alike (Progress.Alike (Matches kind) (HandsOver kind))
      ((close id kind.code period began).bind fun _ => .pure (.more memory))
      (conclude id kind period began next) := by
  rw [conclude_eq]
  exact (Alike.refl _).bind fun _ _ _ => .pure (.more matching)

theorem alike_round (same : memory.message.kind = kind) :
    Alike (Progress.Alike (Matches kind) (HandsOver kind))
      (reusingRound id period subscriber memory) (round id kind period subscriber memory.delivered) := by
  rw [round_eq]
  refine .ask fun wanted => ?_
  cases wanted with
  | false => exact .pure (.done same)
  | true =>
    refine .ask fun began => ?_
    apply (alike_poll same).bind
    rintro ⟨memory, outcome⟩ polled leaves
    cases leaves with
    | got same count =>
      obtain rfl := same
      rw [← count]
      exact .ask fun _ => alike_conclude ⟨rfl, rfl⟩
    | failed same count =>
      obtain rfl := same
      rw [← count]
      exact .ask fun _ => .ask fun _ => alike_conclude ⟨rfl, rfl⟩

/-- Whatever it is handed, an activity that reuses its message and its buffer does the same. -/
theorem alike_activity {message : Message} (same : message.kind = kind) :
    Alike (HandsOver kind) (reusing id period subscriber message)
      (activity id kind period subscriber) := by
  refine .iterate (Matches kind) (HandsOver kind) ⟨same, rfl⟩ ?_ fun _ _ => .pure
  rintro memory _ ⟨same, rfl⟩
  exact alike_round same

theorem reaches_reusing_iff {message : Message} (same : message.kind = kind) {record : Record} :
    (∃ final, Reaches Record.anything (reusing id period subscriber message) [] final record) ↔
      ∃ final, Reaches Record.anything (activity id kind period subscriber) [] final record := by
  have alike := @alike_activity id kind period subscriber message same
  constructor
  · rintro ⟨final, reaches⟩
    obtain ⟨left, reaches, -⟩ := alike.reaches reaches
    exact ⟨left, reaches⟩
  · rintro ⟨final, reaches⟩
    obtain ⟨left, reaches, -⟩ := alike.symm.reaches reaches
    exact ⟨left, reaches⟩

end
end Poller
end FlightLink
