import FlightLink.Proofs.ActivityProgress
import FlightLink.Proofs.Ensemble
import FlightLink.Proofs.PollerOwnership

/-! What a session does with its pollers. Every operation stops a poller before it launches it again, and
leaves none half stopped. -/

namespace FlightLink

open Program (Uses)

theorem Request.Conversing.plain : ∀ {request : Request}, request.Conversing → request.Plain
  | .acquire, _ | .isOpen, _ | .write _, _ | .flush, _ | .read _, _ | .release _, _ | .report _, _ =>
    trivial

section Plain

theorem plain_transact {code : UInt16} {payload buffer : Bytes} :
    (transact code payload buffer).Uses Request.Plain :=
  converses_transact.weaken fun _ => Request.Conversing.plain

theorem plain_tryRead (message : Message) : (tryRead message).Uses Request.Plain := by
  apply plain_transact.bind
  intro result
  obtain ⟨outcome, payload⟩ := result
  cases outcome <;> exact .pure

theorem plain_read (message : Message) : (Vehicle.read message).Uses Request.Plain := by
  apply (plain_tryRead message).bind
  intro result
  obtain ⟨message, outcome⟩ := result
  cases outcome with
  | ok => exact .pure
  | error fault => exact .ask trivial fun _ => .pure

theorem plain_locked {α : Type} {body : Link → Program (Link × α)}
    (plain : ∀ link, (body link).Uses Request.Plain) : (Link.locked body).Uses Request.Plain :=
  .ask trivial fun link => (plain link).bind fun _ => .ask trivial fun _ => .pure

theorem plain_sendChannels (channels : ChannelOverride) :
    (Vehicle.sendChannels channels).Uses Request.Plain := by
  refine Uses.weaken (Link.converses_locked fun link => ?_) fun _ => Request.Conversing.plain
  apply link.converses_send.bind
  intro sent
  cases sent with
  | error fault => exact .pure
  | ok =>
    apply link.converses_receiveAnswer.bind
    intro received
    obtain ⟨link, outcome, payload⟩ := received
    cases outcome with
    | error fault => exact .ask trivial fun _ => .pure
    | ok => exact .pure

end Plain

namespace Vehicle

variable {vehicle : Vehicle} {care : Care} {pollers : List Poller}

theorem tends_commit (vehicle : Vehicle) (channels : Except Fault ChannelOverride) (care : Care) :
    Tends (fun result after => result.1.pollers = vehicle.pollers ∧ after = care)
      (vehicle.commit channels) care := by
  cases channels with
  | error fault => exact .pure ⟨rfl, rfl⟩
  | ok channels =>
    apply Tends.of_uses (plain_sendChannels channels)
    intro outcome
    cases outcome <;> exact .pure ⟨rfl, rfl⟩

theorem tends_tryReset (vehicle : Vehicle) (care : Care) :
    Tends (fun result after => result.1.pollers = vehicle.pollers ∧ after = care) vehicle.tryReset
      care := by
  apply Tends.of_uses (plain_tryRead _)
  intro result
  obtain ⟨message, outcome⟩ := result
  cases outcome with
  | error fault => exact .pure ⟨rfl, rfl⟩
  | ok =>
    cases message with
    | rc received => exact vehicle.tends_commit _ care
    | _ => exact .pure ⟨rfl, rfl⟩

theorem tends_verdict {command : Log.Command} {attempt : Program (Vehicle × Except Fault Unit)}
    (tends : Tends (fun result after => result.1.pollers = vehicle.pollers ∧ after = care) attempt care) :
    Tends (fun result after => result.1.pollers = vehicle.pollers ∧ after = care)
      (attempt.bind (verdict command)) care := by
  apply tends.bind
  rintro ⟨commanded, outcome⟩ after ⟨same, rfl⟩
  cases outcome with
  | ok => exact .pure ⟨same, rfl⟩
  | error fault => exact .plain trivial fun _ => .pure ⟨same, rfl⟩

theorem tends_register (kind : Message.Kind) (hertz : Float32) (subscriber : Subscriber) (care : Care) :
    Tends (fun result after => result.1.pollers = vehicle.pollers ∧ after = care ∨
        ∃ poller : Poller, care poller.id = none ∧ result.1.pollers = vehicle.pollers ++ [poller] ∧
          after = care.put poller.id .settled)
      (vehicle.register kind hertz subscriber) care := by
  apply (Poller.tends_start kind hertz subscriber care).bind
  intro started after known
  cases started with
  | error fault => exact .pure (.inl ⟨rfl, known⟩)
  | ok poller => exact .plain trivial fun _ => .pure (.inr ⟨poller, known.1, rfl, known.2⟩)

theorem tends_stopAll (covers : care.Covers pollers) :
    Tends (fun _ after => ∀ id, after id = if id ∈ pollers.map (·.id) then some .quiet else care id)
      (stopAll pollers) care := by
  induction pollers generalizing care with
  | nil => exact .pure fun _ => rfl
  | cons poller rest ih =>
    obtain ⟨phase, owned, atRest⟩ := covers.atRest poller List.mem_cons_self
    apply (Poller.tends_stop owned atRest).bind
    rintro _ after rfl
    have later : (care.put poller.id .quiet).Covers (poller :: rest) := covers.put trivial
    apply (ih (later.sublist (List.sublist_cons_self ..))).weaken
    intro _ after stopped id
    rw [stopped]
    by_cases here : id = poller.id
    · simp [here]
    · simp [here, Care.put_of_ne here]

theorem tends_dropAll (covers : care.Covers pollers) :
    Tends (fun _ after => ∀ id, if id ∈ pollers.map (·.id)
        then ∃ phase : Phase, after id = some phase ∧ phase.Unwanted else after id = care id)
      (dropAll pollers) care := by
  induction pollers generalizing care with
  | nil => exact .pure fun _ => rfl
  | cons poller rest ih =>
    obtain ⟨phase, owned, atRest⟩ := covers.atRest poller List.mem_cons_self
    have outside : poller.id ∉ rest.map (·.id) := (List.nodup_cons.mp covers.apart).1
    apply (Poller.tends_drop owned atRest).bind
    rintro _ after ⟨left, unwanted, rfl⟩
    have later : (care.put poller.id left).Covers rest := by
      apply (covers.sublist (List.sublist_cons_self ..)).congr
      exact fun id member => Care.put_of_ne fun same => outside (same ▸ member)
    apply (ih later).weaken
    intro _ after dropped id
    specialize dropped id
    by_cases here : id = poller.id
    · subst here
      rw [if_neg outside, Care.put_self] at dropped
      simpa using ⟨left, dropped, unwanted⟩
    · rw [Care.put_of_ne here] at dropped
      simpa [here] using dropped

theorem tends_stopPollers (covers : care.Covers vehicle.pollers) :
    Tends (fun result after => result.pollers = [] ∧
        ∀ id, after id = if id ∈ vehicle.pollers.map (·.id) then some .quiet else care id)
      vehicle.stopPollers care :=
  (tends_stopAll covers).bind fun _ _ stopped => .pure ⟨rfl, stopped⟩

theorem tends_leave (covers : care.Covers vehicle.pollers) :
    Tends (fun result after => result.pollers = [] ∧
        ∀ id, if id ∈ vehicle.pollers.map (·.id)
          then ∃ phase : Phase, after id = some phase ∧ phase.Unwanted else after id = care id)
      vehicle.leave care :=
  (tends_dropAll covers).bind fun _ _ dropped => .pure ⟨rfl, dropped⟩

end Vehicle

def Errand.stops (session : Session) : Errand → List Poller
  | .perform (.stop name) => (session.poller? name).toList
  | .perform .stopPollers | .perform .shutDown => session.vehicle.pollers
  | _ => []

def Errand.drops (session : Session) : Errand → List Poller
  | .perform (.drop name) => (session.poller? name).toList
  | .leave => session.vehicle.pollers
  | _ => []

/-- What an errand comes to. -/
structure Errand.Done (errand : Errand) (session result : Session) (care : Care) : Prop where
  covers : care.Covers result.owned
  stopped : ∀ poller ∈ errand.stops session, care poller.id = some .quiet
  dropped : ∀ poller ∈ errand.drops session, poller.id ∉ result.owned.map (·.id) ∧
    ∃ phase : Phase, care poller.id = some phase ∧ phase.Unwanted

namespace Session

variable {session : Session} {care : Care} {name : String} {poller : Poller}

theorem mem_owned (named : session.poller? name = some poller) : poller ∈ session.owned := by
  obtain ⟨before, after, same, -⟩ := List.lookup_eq_some_iff.mp named
  apply List.mem_append_right
  simp [same]

def without (session : Session) (name : String) : Session :=
  { session with pollers := session.pollers.filter (·.1 ≠ name) }

theorem owned_without (session : Session) (name : String) :
    (session.without name).owned.Sublist session.owned :=
  (List.Sublist.refl _).append (List.filter_sublist.map _)

theorem not_owned_without (covers : care.Covers session.owned)
    (named : session.poller? name = some poller) :
    poller.id ∉ (session.without name).owned.map (·.id) := by
  obtain ⟨before, after, same, -⟩ := List.lookup_eq_some_iff.mp named
  have moved : (poller :: (session.vehicle.pollers ++ (before ++ after).map (·.2))).Perm
      session.owned := by
    have middle := @List.perm_middle _ poller (session.vehicle.pollers ++ before.map (·.2)) (after.map (·.2))
    simpa [owned, same] using middle.symm
  have left : (session.without name).owned.Sublist
      (session.vehicle.pollers ++ (before ++ after).map (·.2)) := by
    simp only [without, owned, same, List.filter_append]
    rw [List.filter_cons_of_neg (by simp), ← List.filter_append]
    exact (List.Sublist.refl _).append (List.filter_sublist.map _)
  have outside := (List.nodup_cons.mp (covers.perm moved).apart).1
  exact fun member => outside ((left.map _).subset member)

theorem tends_withPoller {act : Poller → Program Unit} {wanted : Unit → Care → Prop}
    (tends : ∀ poller, session.poller? name = some poller → Tends wanted (act poller) care)
    (missing : session.poller? name = none → wanted () care) :
    Tends wanted (session.withPoller name act) care := by
  unfold withPoller
  split
  next poller named => exact tends poller named
  next unnamed => exact .pure (missing unnamed)

end Session

namespace Errand

variable {session result : Session} {care : Care} {errand : Errand}

theorem done_of_covers (covers : care.Covers result.owned) (stops : errand.stops session = [])
    (drops : errand.drops session = []) : errand.Done session result care := by
  refine ⟨covers, ?_, ?_⟩
  · rw [stops]
    exact fun _ member => nomatch member
  · rw [drops]
    exact fun _ member => nomatch member

private theorem tends_commanded {operation : Operation} {attempt : Program (Vehicle × Bool)}
    {answer : Bool → Operation.Result} (covers : care.Covers session.owned)
    (tends : Tends (fun result after => result.1.pollers = session.vehicle.pollers ∧ after = care)
      attempt care)
    (stops : (perform operation).stops session = []) (drops : (perform operation).drops session = []) :
    Tends (fun result after => (perform operation).Done session result.1 after)
      (attempt.bind fun commanded =>
        .pure ({ session with vehicle := commanded.1 }, answer commanded.2)) care := by
  apply tends.bind
  rintro ⟨vehicle, passed⟩ after ⟨same, rfl⟩
  have owned : Session.owned { session with vehicle } = session.owned := congrArg (· ++ _) same
  exact .pure (done_of_covers (owned ▸ covers) stops drops)

private theorem tends_register (covers : care.Covers session.owned) (kind : Message.Kind)
    (hertz : Float32) (subscriber : Subscriber) :
    Tends (fun result after => (perform (.register kind hertz subscriber)).Done session result.1 after)
      (session.perform (.register kind hertz subscriber)) care := by
  apply (session.vehicle.tends_register kind hertz subscriber care).bind
  rintro ⟨vehicle, outcome⟩ after (⟨same, rfl⟩ | ⟨poller, fresh, same, rfl⟩)
  · have owned : Session.owned { session with vehicle } = session.owned := congrArg (· ++ _) same
    exact .pure (done_of_covers (owned ▸ covers) rfl rfl)
  · have owned : Session.owned { session with vehicle } =
        session.vehicle.pollers ++ poller :: session.pollers.map (·.2) := by
      change vehicle.pollers ++ _ = _
      rw [same, List.append_assoc, List.singleton_append]
    refine .pure (done_of_covers ?_ rfl rfl)
    rw [owned]
    exact (covers.cons fresh).perm List.perm_middle

private theorem tends_start (covers : care.Covers session.owned) (name : String) (kind : Message.Kind)
    (hertz : Float32) (subscriber : Subscriber) :
    Tends (fun result after => (perform (.start name kind hertz subscriber)).Done session result.1 after)
      (session.perform (.start name kind hertz subscriber)) care := by
  apply (Poller.tends_start kind hertz subscriber care).bind
  intro started after known
  cases started with
  | error fault =>
    cases known
    exact .pure (done_of_covers covers rfl rfl)
  | ok poller =>
    obtain ⟨fresh, rfl⟩ := known
    have launched := (covers.sublist (session.owned_without name)).cons fresh
    have replaces : Tends (fun _ after => after.Covers (poller :: (session.without name).owned))
        (session.withPoller name Poller.drop) (care.put poller.id .settled) := by
      refine session.tends_withPoller (fun old named => ?_) fun _ => launched
      have other : old.id ≠ poller.id := by
        intro same
        obtain ⟨phase, owned, -⟩ := covers.atRest old (Session.mem_owned named)
        rw [same, fresh] at owned
        cases owned
      obtain ⟨phase, owned, atRest⟩ := covers.atRest old (Session.mem_owned named)
      apply (Poller.tends_drop ((Care.put_of_ne other).trans owned) atRest).weaken
      rintro _ after ⟨left, -, rfl⟩
      apply launched.congr
      intro id member
      apply Care.put_of_ne
      rintro rfl
      obtain same | member := List.mem_cons.mp member
      · exact other same
      · exact Session.not_owned_without covers named member
    refine replaces.bind fun _ after covers => .pure (done_of_covers ?_ rfl rfl)
    refine covers.perm ?_
    rw [Session.owned, List.map_append, ← List.append_assoc]
    exact List.perm_append_singleton ..

private theorem tends_stop (covers : care.Covers session.owned) (name : String) :
    Tends (fun result after => (perform (.stop name)).Done session result.1 after)
      (session.perform (.stop name)) care := by
  refine Tends.bind (session.tends_withPoller (fun poller named => ?_) fun unnamed => ?_)
    (fun _ after done => .pure done)
  · obtain ⟨phase, owned, atRest⟩ := covers.atRest poller (Session.mem_owned named)
    apply (Poller.tends_stop owned atRest).weaken
    rintro _ after rfl
    refine ⟨covers.put trivial, fun other member => ?_, fun _ member => nomatch member⟩
    simp only [stops, named, Option.toList_some, List.mem_singleton] at member
    rw [member, Care.put_self]
  · exact done_of_covers covers (by simp [stops, unnamed]) rfl

private theorem tends_resubscribe (covers : care.Covers session.owned) (name : String)
    (subscriber : Subscriber) :
    Tends (fun result after => (perform (.resubscribe name subscriber)).Done session result.1 after)
      (session.perform (.resubscribe name subscriber)) care := by
  refine Tends.bind (session.tends_withPoller (fun poller named => ?_) fun _ => ?_)
    (fun _ after done => .pure done)
  · obtain ⟨phase, owned, atRest⟩ := covers.atRest poller (Session.mem_owned named)
    apply (Poller.tends_resubscribe owned atRest subscriber).weaken
    rintro _ after rfl
    exact done_of_covers (covers.put trivial) rfl rfl
  · exact done_of_covers covers rfl rfl

private theorem tends_drop (covers : care.Covers session.owned) (name : String) :
    Tends (fun result after => (perform (.drop name)).Done session result.1 after)
      (session.perform (.drop name)) care := by
  suffices drops : Tends (fun _ after => (perform (.drop name)).Done session (session.without name) after)
      (session.withPoller name Poller.drop) care from drops.bind fun _ _ done => .pure done
  refine session.tends_withPoller (fun poller named => ?_) fun unnamed => ?_
  · obtain ⟨phase, owned, atRest⟩ := covers.atRest poller (Session.mem_owned named)
    have outside := Session.not_owned_without covers named
    apply (Poller.tends_drop owned atRest).weaken
    rintro _ after ⟨left, unwanted, rfl⟩
    refine ⟨?_, fun _ member => (nomatch member), fun other member => ?_⟩
    · apply (covers.sublist (session.owned_without name)).congr
      exact fun id member => Care.put_of_ne fun same => outside (same ▸ member)
    · simp only [drops, named, Option.toList_some, List.mem_singleton] at member
      rw [member]
      exact ⟨outside, left, Care.put_self, unwanted⟩
  · exact done_of_covers (covers.sublist (session.owned_without name)) rfl (by simp [drops, unnamed])

private theorem owned_registered (session : Session) : session.vehicle.pollers.Sublist session.owned :=
  List.sublist_append_left ..

private theorem tends_stopPollers (covers : care.Covers session.owned) :
    Tends (fun result after => (perform .stopPollers).Done session result.1 after)
      (session.perform .stopPollers) care := by
  apply (Vehicle.tends_stopPollers (covers.sublist (owned_registered session))).bind
  rintro vehicle after ⟨nothing, stopped⟩
  have fewer : (Session.owned { session with vehicle }).Sublist session.owned := by
    rw [Session.owned, nothing]
    exact List.sublist_append_right ..
  refine .pure ⟨(covers.sublist fewer).stopped stopped, fun poller member => ?_,
    fun _ member => nomatch member⟩
  have inside : poller.id ∈ session.vehicle.pollers.map (·.id) := List.mem_map_of_mem member
  rw [stopped, if_pos inside]

private theorem tends_shutDown (covers : care.Covers session.owned) :
    Tends (fun result after => (perform .shutDown).Done session result.1 after)
      (session.perform .shutDown) care := by
  refine Tends.bind (Tends.bind (Vehicle.tends_stopPollers (covers.sublist (owned_registered session)))
    fun vehicle after stopped => .plain trivial fun _ => .pure stopped.2) fun _ after stopped => ?_
  refine .pure ⟨covers.stopped stopped, fun poller member => ?_, fun _ member => nomatch member⟩
  have inside : poller.id ∈ session.vehicle.pollers.map (·.id) := List.mem_map_of_mem member
  rw [stopped, if_pos inside]

/-- Every operation stops a poller before it launches it again, and leaves no poller half stopped. -/
theorem tends_perform (covers : care.Covers session.owned) (operation : Operation) :
    Tends (fun result after => (perform operation).Done session result.1 after)
      (session.perform operation) care := by
  cases operation with
  | arm => exact tends_commanded covers (Vehicle.tends_verdict (session.vehicle.tends_commit _ _)) rfl rfl
  | disarm => exact tends_commanded covers (Vehicle.tends_verdict (session.vehicle.tends_commit _ _)) rfl rfl
  | setSticks => exact tends_commanded covers (Vehicle.tends_verdict (session.vehicle.tends_commit _ _)) rfl rfl
  | reset => exact tends_commanded covers (Vehicle.tends_verdict (session.vehicle.tends_tryReset _)) rfl rfl
  | read => exact .of_uses (plain_read _) fun _ => .pure (done_of_covers covers rfl rfl)
  | tryRead => exact .of_uses (plain_tryRead _) fun _ => .pure (done_of_covers covers rfl rfl)
  | sleep span => exact .plain trivial fun _ => .pure (done_of_covers covers rfl rfl)
  | transact => exact .of_uses plain_transact fun _ => .pure (done_of_covers covers rfl rfl)
  | hold span =>
    refine .of_uses (plain_locked fun link => ?_) fun _ => .pure (done_of_covers covers rfl rfl)
    exact .ask trivial fun _ => .pure
  | discardInput =>
    refine .of_uses (plain_locked fun link => ?_) fun _ => .pure (done_of_covers covers rfl rfl)
    exact .ask trivial fun _ => .pure
  | switch version =>
    refine .of_uses (plain_locked fun link => ?_) fun _ => .pure (done_of_covers covers rfl rfl)
    have plain := (listens_switch link version).weaken fun _ listens =>
      (Request.Listening.conversing listens).plain
    exact plain.bind fun _ => .pure
  | register => exact tends_register covers ..
  | start => exact tends_start covers ..
  | stop => exact tends_stop covers _
  | resubscribe => exact tends_resubscribe covers ..
  | drop => exact tends_drop covers _
  | stopPollers => exact tends_stopPollers covers
  | shutDown => exact tends_shutDown covers

private theorem tends_leave (covers : care.Covers session.owned) :
    Tends (leave.Done session) (leave.program session) care := by
  apply (Vehicle.tends_leave (covers.sublist (owned_registered session))).bind
  rintro vehicle after ⟨nothing, dropped⟩
  have owned : Session.owned { session with vehicle } = session.pollers.map (·.2) := by
    rw [Session.owned, nothing, List.nil_append]
  have apart : ∀ id ∈ (session.pollers.map (·.2)).map (·.id),
      id ∉ session.vehicle.pollers.map (·.id) := by
    have distinct := covers.apart
    rw [Session.owned, List.map_append] at distinct
    exact fun id kept gone => (List.nodup_append.mp distinct).2.2 id gone id kept rfl
  refine .pure ⟨?_, fun _ member => (nomatch member), fun poller member => ?_⟩
  · rw [owned]
    refine (covers.sublist (List.sublist_append_right ..)).congr fun id member => ?_
    simpa [apart id member] using dropped id
  · rw [owned]
    have inside : poller.id ∈ session.vehicle.pollers.map (·.id) := List.mem_map_of_mem member
    refine ⟨fun kept => apart _ kept inside, ?_⟩
    simpa [inside] using dropped poller.id

theorem tends_program (covers : care.Covers session.owned) (errand : Errand) :
    Tends (errand.Done session) (errand.program session) care := by
  cases errand with
  | perform operation => exact (tends_perform covers operation).bind fun _ _ done => .pure done
  | leave => exact tends_leave covers

end Errand
end FlightLink
