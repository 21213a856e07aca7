import FlightLink.Proofs.CrewInterleaving

/-! Programs that come to the port in no other way than by whole conversations: a
transaction, or channel values that are sent. Everything that pollers do is of this
kind, and so is what a session does, apart from the few operations that take the link
for something else. -/

namespace FlightLink

def Request.Aside : Request → Prop
  | .report _ | .launch .. => True
  | request => request.Elsewhere

inductive Courteous : {α : Type} → Program α → Prop
  | pure {α : Type} {result : α} : Courteous (.pure result)
  | aside {α : Type} {request : Request} {next : request.Answer → Program α}
      (aside : request.Aside) (rest : ∀ answer, Courteous (next answer)) :
      Courteous (.ask request next)
  | iterate {α ρ γ : Type} {body : ρ → Program (Progress ρ γ)} {start : ρ} {next : γ → Program α}
      (round : ∀ state, Courteous (body state)) (rest : ∀ result, Courteous (next result)) :
      Courteous (.iterate body start next)
  | transact {α : Type} {code : UInt16} {payload buffer : Bytes}
      {next : Except Fault Unit × Bytes → Program α} (rest : ∀ result, Courteous (next result)) :
      Courteous ((FlightLink.transact code payload buffer).bind next)
  | sendChannels {α : Type} {channels : ChannelOverride} {next : Except Fault Unit → Program α}
      (rest : ∀ outcome, Courteous (next outcome)) :
      Courteous ((Vehicle.sendChannels channels).bind next)

namespace Courteous

variable {α β : Type}

theorem bind {program : Program α} {next : α → Program β} (first : Courteous program)
    (rest : ∀ result, Courteous (next result)) : Courteous (program.bind next) := by
  induction first with
  | pure => exact rest _
  | aside aside _ ih => exact .aside aside fun answer => ih answer rest
  | iterate round _ _ ih => exact .iterate round fun result => ih result rest
  | transact _ ih =>
    rw [Program.bind_assoc]
    exact .transact fun result => ih result rest
  | sendChannels _ ih =>
    rw [Program.bind_assoc]
    exact .sendChannels fun outcome => ih outcome rest

theorem unfold {ρ γ : Type} {body : ρ → Program (Progress ρ γ)} {start : ρ} {next : γ → Program α}
    (round : ∀ state, Courteous (body state)) (rest : ∀ result, Courteous (next result)) :
    Courteous (Program.unfold body start next) := by
  apply (round start).bind
  intro progress
  cases progress with
  | more state => exact .iterate round rest
  | done result => exact rest result

end Courteous

namespace Poller

theorem courteous_poll (kind : Message.Kind) : Courteous (poll kind) := by
  apply Courteous.transact
  intro result
  obtain ⟨outcome, payload⟩ := result
  cases outcome <;> exact .pure

private theorem courteous_conclude (id : PollerId) (kind : Message.Kind) (period : Duration)
    (delivered : Nat) (began : Duration) (polled : Except Fault Message) :
    Courteous (do
      Program.count id .iteration
      let elapsed := (← Program.now).since began
      if period < elapsed then
        Program.count id .overrun
        Program.report (.overrun kind.code elapsed period)
      else
        Program.rest id (began + period)
      return .more (if polled.isOk then delivered + 1 else delivered) :
        Program (Progress Nat Unit)) := by
  refine .aside trivial fun _ => ?_
  refine .aside trivial fun ended => ?_
  change Courteous (if period < ended.since began then _ else _)
  split
  · refine .aside trivial fun _ => ?_
    exact .aside trivial fun _ => .pure
  · exact .aside trivial fun _ => .pure

theorem courteous_round (id : PollerId) (kind : Message.Kind) (period : Duration)
    (subscriber : Subscriber) (delivered : Nat) :
    Courteous (round id kind period subscriber delivered) := by
  refine .aside trivial fun wanted => ?_
  cases wanted with
  | false => exact .pure
  | true =>
    refine .aside trivial fun began => ?_
    apply (courteous_poll kind).bind
    intro polled
    have conclude := courteous_conclude id kind period delivered began polled
    cases polled with
    | ok message => exact .aside trivial fun _ => conclude
    | error fault =>
      refine .aside trivial fun _ => ?_
      exact .aside trivial fun _ => conclude

theorem courteous_activity (id : PollerId) (kind : Message.Kind) (period : Duration)
    (subscriber : Subscriber) : Courteous (activity id kind period subscriber) :=
  .iterate (courteous_round id kind period subscriber) fun _ => .pure

theorem courteous_launch (poller : Poller) (subscriber : Subscriber) :
    Courteous (poller.launch subscriber) :=
  .aside trivial fun _ => .aside trivial fun _ => .pure

theorem courteous_start (kind : Message.Kind) (hertz : Float32) (subscriber : Subscriber) :
    Courteous (start kind hertz subscriber) := by
  unfold start
  split
  · exact .pure
  · refine .aside trivial fun id => ?_
    exact (courteous_launch ..).bind fun _ => .pure

theorem courteous_stop (poller : Poller) : Courteous poller.stop := by
  refine .aside trivial fun _ => .aside trivial fun claimed => ?_
  cases claimed with
  | none => exact .pure
  | some activity =>
    refine .aside trivial fun ending => ?_
    cases ending <;> exact .aside trivial fun _ => .pure

theorem courteous_resubscribe (poller : Poller) (subscriber : Subscriber) :
    Courteous (poller.resubscribe subscriber) :=
  poller.courteous_stop.bind fun _ => poller.courteous_launch subscriber

theorem courteous_drop (poller : Poller) : Courteous poller.drop :=
  .aside trivial fun _ => .aside trivial fun _ => .pure

end Poller

theorem courteous_tryRead (message : Message) : Courteous (tryRead message) := by
  apply Courteous.transact
  intro result
  obtain ⟨outcome, payload⟩ := result
  cases outcome <;> exact .pure

namespace Vehicle

theorem courteous_commit (vehicle : Vehicle) (channels : Except Fault ChannelOverride) :
    Courteous (vehicle.commit channels) := by
  cases channels with
  | error fault => exact .pure
  | ok channels =>
    apply Courteous.sendChannels
    intro outcome
    cases outcome <;> exact .pure

theorem courteous_tryReset (vehicle : Vehicle) : Courteous vehicle.tryReset := by
  apply (courteous_tryRead _).bind
  intro result
  obtain ⟨read, outcome⟩ := result
  cases outcome with
  | error fault => exact .pure
  | ok =>
    cases read with
    | rc received => exact vehicle.courteous_commit _
    | _ => exact .pure

theorem courteous_verdict (command : Log.Command) (result : Vehicle × Except Fault Unit) :
    Courteous (verdict command result) := by
  obtain ⟨vehicle, outcome⟩ := result
  cases outcome with
  | ok => exact .pure
  | error fault => exact .aside trivial fun _ => .pure

theorem courteous_arm (vehicle : Vehicle) : Courteous vehicle.arm :=
  (vehicle.courteous_commit _).bind (courteous_verdict _)

theorem courteous_disarm (vehicle : Vehicle) : Courteous vehicle.disarm :=
  (vehicle.courteous_commit _).bind (courteous_verdict _)

theorem courteous_setSticks (vehicle : Vehicle) (throttle roll pitch yaw : UInt16) :
    Courteous (vehicle.setSticks throttle roll pitch yaw) :=
  (vehicle.courteous_commit _).bind (courteous_verdict _)

theorem courteous_reset (vehicle : Vehicle) : Courteous vehicle.reset :=
  vehicle.courteous_tryReset.bind (courteous_verdict _)

theorem courteous_read (message : Message) : Courteous (Vehicle.read message) := by
  apply (courteous_tryRead message).bind
  intro result
  obtain ⟨message, outcome⟩ := result
  cases outcome with
  | ok => exact .pure
  | error fault => exact .aside trivial fun _ => .pure

theorem courteous_register (vehicle : Vehicle) (kind : Message.Kind) (hertz : Float32)
    (subscriber : Subscriber) : Courteous (vehicle.register kind hertz subscriber) := by
  apply (Poller.courteous_start kind hertz subscriber).bind
  intro started
  cases started with
  | error fault => exact .pure
  | ok poller => exact .aside trivial fun _ => .pure

theorem courteous_stopAll (pollers : List Poller) : Courteous (stopAll pollers) := by
  induction pollers with
  | nil => exact .pure
  | cons poller rest ih => exact poller.courteous_stop.bind fun _ => ih

theorem courteous_shutDown (vehicle : Vehicle) : Courteous vehicle.shutDown := by
  apply ((courteous_stopAll _).bind fun _ => .pure).bind
  exact fun _ => .aside trivial fun _ => .pure

end Vehicle

/-- Whether an operation takes the link for conversations only. -/
def Operation.Conversing : Operation → Prop
  | .hold _ | .discardInput | .switch _ => False
  | _ => True

namespace Session

theorem courteous_withPoller (session : Session) (name : String) (act : Poller → Program Unit)
    (courteous : ∀ poller, Courteous (act poller)) : Courteous (session.withPoller name act) := by
  unfold withPoller
  split
  · exact courteous _
  · exact .pure

theorem courteous_startPoller (session : Session) (name : String) (kind : Message.Kind)
    (hertz : Float32) (subscriber : Subscriber) :
    Courteous (session.startPoller name kind hertz subscriber) := by
  apply (Poller.courteous_start kind hertz subscriber).bind
  intro started
  cases started with
  | error fault => exact .pure
  | ok poller =>
    exact (session.courteous_withPoller name _ Poller.courteous_drop).bind fun _ => .pure

theorem courteous_perform (session : Session) {operation : Operation}
    (conversing : operation.Conversing) : Courteous (session.perform operation) := by
  cases operation with
  | arm => exact session.vehicle.courteous_arm.bind fun _ => .pure
  | disarm => exact session.vehicle.courteous_disarm.bind fun _ => .pure
  | setSticks => exact (session.vehicle.courteous_setSticks ..).bind fun _ => .pure
  | reset => exact session.vehicle.courteous_reset.bind fun _ => .pure
  | read kind => exact (Vehicle.courteous_read _).bind fun _ => .pure
  | tryRead kind => exact (courteous_tryRead _).bind fun _ => .pure
  | register => exact (session.vehicle.courteous_register ..).bind fun _ => .pure
  | start => exact session.courteous_startPoller ..
  | stop name =>
    exact (session.courteous_withPoller name _ Poller.courteous_stop).bind fun _ => .pure
  | resubscribe name subscriber =>
    exact (session.courteous_withPoller name _ (·.courteous_resubscribe subscriber)).bind
      fun _ => .pure
  | drop name =>
    exact (session.courteous_withPoller name _ Poller.courteous_drop).bind fun _ => .pure
  | stopPollers =>
    exact ((Vehicle.courteous_stopAll _).bind fun _ => .pure).bind fun _ => .pure
  | sleep span => exact .aside trivial fun _ => .pure
  | transact => exact .transact fun _ => .pure
  | shutDown => exact session.vehicle.courteous_shutDown.bind fun _ => .pure
  | hold | discardInput | switch => cases conversing

theorem courteous_performAll (session : Session) (operations : List Operation)
    (conversing : ∀ operation ∈ operations, operation.Conversing) :
    Courteous (session.performAll operations) := by
  induction operations generalizing session with
  | nil => exact .pure
  | cons operation rest ih =>
    apply (session.courteous_perform (conversing operation (List.mem_cons_self ..))).bind
    intro performed
    obtain ⟨session, result⟩ := performed
    exact ih session fun operation member => conversing operation (List.mem_cons_of_mem _ member)

end Session
end FlightLink
