import Mathlib.Data.List.Nodup
import FlightLink.Proofs.PollerDismissal

/-! Stopping a poller is final. Once a stop has come to its end, no activity of the poller does anything
until one is launched, and whoever is dismissed begins no further turn, even when its poller is launched
again. But a turn that was begun is gone through to its end, transaction and all. -/

namespace FlightLink

def Numbered (pollers : List Poller) : Prop :=
  ∀ index (poller : Poller), pollers[index]? = some poller → poller.id = ⟨index⟩

theorem Numbered.nodup {pollers : List Poller} (numbered : Numbered pollers) :
    (pollers.map (·.id)).Nodup := by
  have listed : pollers.map (·.id) = (List.range pollers.length).map PollerId.mk := by
    apply List.ext_getElem? fun index => ?_
    rw [List.getElem?_map, List.getElem?_map]
    cases found : pollers[index]? with
    | none => simp [List.getElem?_eq_none_iff.mp found]
    | some poller =>
      have inside := (List.getElem?_eq_some_iff.mp found).1
      simp [numbered index poller found, inside]
  rw [listed]
  exact List.nodup_range.map fun _ _ same => PollerId.mk.inj same

namespace Ensemble

section Start

variable {sessions : List Session} {subscriber : PollerId → Subscriber} {version : Version}

private def initialCare (sessions : List Session) (index : Nat) : Care := fun poller =>
  if poller ∈ (sessions[index]?.elim [] Session.owned).map (·.id) then some .settled else none

private theorem owner_of_initialCare {index : Nat} {id : PollerId} {phase : Phase}
    (cared : initialCare sessions index id = some phase) :
    phase = .settled ∧ ∃ session, sessions[index]? = some session ∧ id ∈ session.owned.map (·.id) := by
  unfold initialCare at cared
  split at cared
  next member =>
    cases cared
    refine ⟨rfl, ?_⟩
    cases found : sessions[index]? with
    | none => simp [found] at member
    | some session => exact ⟨session, rfl, by simpa [found] using member⟩
  next => cases cared

theorem holds_start (numbered : Numbered (sessions.flatMap Session.owned)) {poller : Poller}
    (member : poller ∈ sessions.flatMap Session.owned) :
    (start version sessions subscriber).Holds poller.id .settled := by
  obtain ⟨index, found⟩ := List.getElem?_of_mem member
  have number := numbered index poller found
  have launched : (start version sessions subscriber).cell? poller.id =
      some ⟨poller.kind, poller.hertz, poller.period, true, false, .zero, some ⟨index⟩⟩ := by
    simp [cell?, start, number, found]
  refine .settled launched fun position live => ?_
  obtain ⟨stint, found, same, -⟩ := live
  simp only [start, List.getElem?_map, Option.map_eq_some_iff] at found
  obtain ⟨other, found, rfl⟩ := found
  have numbers := numbered position other found
  change other.id = poller.id at same
  rw [numbers, number] at same
  exact congrArg (fun number => some (ActivityId.mk number)) (PollerId.mk.inj same).symm

theorem valid_start (numbered : Numbered (sessions.flatMap Session.owned)) :
    ∃ cares, (start version sessions subscriber).Valid cares := by
  have distinct := numbered.nodup
  rw [List.map_flatMap, List.nodup_flatMap] at distinct
  obtain ⟨within, between⟩ := distinct
  have single {first second : Nat} {id : PollerId} {one two : Phase} (before : first < second)
      (cared : initialCare sessions first id = some one) :
      initialCare sessions second id ≠ some two := by
    intro caredToo
    obtain ⟨-, session, found, member⟩ := owner_of_initialCare cared
    obtain ⟨-, other, foundToo, memberToo⟩ := owner_of_initialCare caredToo
    obtain ⟨inside, rfl⟩ := List.getElem?_eq_some_iff.mp found
    obtain ⟨insideToo, rfl⟩ := List.getElem?_eq_some_iff.mp foundToo
    exact List.pairwise_iff_getElem.mp between first second inside insideToo before member memberToo
  refine ⟨initialCare sessions, ⟨fun index owner found => ?_, fun index id phase cared => ?_,
    fun first second id one two => ?_, fun stint member => ?_⟩⟩
  · simp only [start, List.getElem?_map, Option.map_eq_some_iff] at found
    obtain ⟨session, found, rfl⟩ := found
    refine ⟨within session (List.mem_of_getElem? found), fun poller member => ⟨.settled, ?_, trivial⟩⟩
    rw [initialCare, found, Option.elim_some, if_pos (List.mem_map_of_mem member)]
  · obtain ⟨rfl, session, found, member⟩ := owner_of_initialCare cared
    obtain ⟨poller, inside, rfl⟩ := List.mem_map.mp member
    exact holds_start numbered (List.mem_flatMap.mpr ⟨session, List.mem_of_getElem? found, inside⟩)
  · obtain ⟨phase, one⟩ := one
    obtain ⟨other, two⟩ := two
    obtain before | same | after := Nat.lt_trichotomy first second
    · exact absurd two (single before one)
    · exact same
    · exact absurd one (single after two)
  · obtain ⟨poller, listed, rfl⟩ := List.mem_map.mp member
    obtain ⟨index, found⟩ := List.getElem?_of_mem listed
    change poller.id.index < (List.map _ (sessions.flatMap Session.owned)).length
    rw [numbered index poller found, List.length_map]
    exact (List.getElem?_eq_some_iff.mp found).1

end Start

variable {ensemble before after last : Ensemble} {deed : Deed} {deeds : List Deed} {index : Nat}
  {cares : Nat → Care} {session : Session} {name : String}

section Errands

variable {session result : Session} {errand : Errand} {dropped : Poller}

theorem stopped_of_finished (sound : before.Sound)
    (due : before.owners[index]? = some (.busy session errand (.pure result)))
    (stops : dropped ∈ errand.stops session) :
    (before.setOwner index (.idle result)).Stopped dropped.id := by
  obtain ⟨cares, valid⟩ := sound.valid
  have tends := valid.tended _ _ due
  cases tends with
  | pure done =>
    cases valid.holds _ _ _ (done.stopped dropped stops) with
    | quiet stopped => exact stopped.spared (.setOwner ..)

theorem forsaken_of_finished (sound : before.Sound)
    (due : before.owners[index]? = some (.busy session errand (.pure result)))
    (drops : dropped ∈ errand.drops session) :
    (before.setOwner index (.idle result)).Forsaken dropped.id := by
  obtain ⟨cares, valid⟩ := sound.valid
  have tends := valid.tended _ _ due
  cases tends with
  | pure done =>
    obtain ⟨gone, phase, cared, unwanted⟩ := done.dropped dropped drops
    obtain ⟨later, validLater, -, unowned⟩ := valid.finished due
    refine ⟨((valid.holds _ _ _ cared).unwanted unwanted).spared (.setOwner ..), later, validLater, ?_⟩
    exact unowned _ ⟨phase, cared⟩ gone

end Errands

section Again

variable {own : Poller} {errand : Errand}

inductive Idles (poller : PollerId) (session : Session) : Program Session → Prop
  | called {next : Option ActivityId → Program Session} (nothing : next none = .pure session) :
      Idles poller session (.ask (.dismiss poller) fun _ => .ask (.claim poller) next)
  | told {next : Option ActivityId → Program Session} (nothing : next none = .pure session) :
      Idles poller session (.ask (.claim poller) next)
  | done : Idles poller session (.pure session)

theorem idles_stop (named : session.poller? name = some own) :
    Idles own.id session ((Errand.perform (.stop name)).program session) := by
  simp only [Errand.program, Session.perform, Session.withPoller, named]
  exact .called rfl

structure Amid (ensemble : Ensemble) (index : Nat) (session : Session) (errand : Errand) (own : Poller) :
    Prop where
  stopped : ensemble.Stopped own.id
  member : own ∈ session.owned
  stands : ∃ program, ensemble.owners[index]? = some (.busy session errand program) ∧
    Idles own.id session program

/-- The steps of such an owner. None is a request to the port. -/
inductive Superfluous (before : Ensemble) (index : Nat) (session : Session) (poller : PollerId) :
    Deed → Ensemble → Prop
  | dismissed (owner : Owner) : Superfluous before index session poller
      (.asked (.owner index) ⟨.dismiss poller, ()⟩) ((before.roused poller).setOwner index owner)
  | claimed (owner : Owner) : Superfluous before index session poller
      (.asked (.owner index) ⟨.claim poller, none⟩) (before.setOwner index owner)
  | finished : Superfluous before index session poller (.finished index)
      (before.setOwner index (.idle session))

theorem getElem?_setOwner {old : Owner} (due : ensemble.owners[index]? = some old) (owner : Owner) :
    (ensemble.setOwner index owner).owners[index]? = some owner :=
  List.getElem?_set_self (List.getElem?_eq_some_iff.mp due).1

namespace Amid

theorem minds (amid : ensemble.Amid index session errand own) (valid : ensemble.Valid cares) :
    (cares index).Minds own.id := by
  obtain ⟨program, due, idles⟩ := amid.stands
  have tends := valid.tended _ _ due
  cases idles with
  | called =>
    cases tends with
    | dismiss owned => exact ⟨_, owned⟩
    | plain plain => cases plain
  | told =>
    cases tends with
    | claim told => exact ⟨_, told⟩
    | plain plain => cases plain
  | done =>
    cases tends with
    | pure done =>
      obtain ⟨phase, owned, -⟩ := done.covers.atRest own amid.member
      exact ⟨phase, owned⟩

theorem moves (amid : before.Amid index session errand own) (step : Step before deed after)
    (party : deed.party? = some (.owner index)) : before.Superfluous index session own.id deed after ∧
      (deed = .finished index ∨ after.Amid index session errand own) := by
  obtain ⟨stopped, member, program, due, idles⟩ := amid
  cases step with
  | pass => cases party
  | stintAsks | stintTurns | stintEnds | stintCrashes => cases party
  | begin errand idle =>
    cases party
    cases due.symm.trans idle
  | finish busy =>
    cases party
    cases due.symm.trans busy
    cases idles
    exact ⟨.finished, .inl rfl⟩
  | ownerTurns busy =>
    cases party
    cases due.symm.trans busy
    cases idles
  | ownerAsks busy served =>
    have remains := stopped.step (.ownerAsks busy served)
    cases party
    cases due.symm.trans busy
    cases idles with
    | called nothing =>
      cases served
      refine ⟨stopped.dismissed ▸ .dismissed _, .inr ⟨remains id, member, ?_⟩⟩
      exact ⟨_, getElem?_setOwner due _, .told nothing⟩
    | told nothing =>
      obtain ⟨rfl, rfl⟩ := served
      obtain ⟨unclaimed, same⟩ := stopped.claimed
      rw [unclaimed, same] at remains ⊢
      refine ⟨.claimed _, .inr ⟨remains id, member, _, getElem?_setOwner due _, ?_⟩⟩
      exact nothing ▸ .done

theorem step (amid : before.Amid index session errand own) (sound : before.Sound)
    (step : Step before deed after) (goesOn : deed ≠ .finished index) :
    after.Amid index session errand own := by
  by_cases party : deed.party? = some (.owner index)
  · exact (amid.moves step party).2.resolve_left goesOn
  · obtain ⟨program, due, idles⟩ := amid.stands
    have stands := (step.owner party).trans due
    refine ⟨amid.stopped.step step fun launches => ?_, amid.member, program, stands, idles⟩
    obtain ⟨cares, valid⟩ := sound.valid
    obtain ⟨-, other, launcher, minds⟩ := valid.stopped_of_launches sound.orderly step launches
    have same := valid.apart other index own.id minds (amid.minds valid)
    exact party (same ▸ launcher)

theorem path (amid : before.Amid index session errand own) (sound : before.Sound)
    (path : Path before deeds after) (goesOn : .finished index ∉ deeds) :
    after.Amid index session errand own := by
  induction path with
  | none => exact amid
  | step path step ih =>
    have earlier := ih fun member => goesOn (List.mem_append_left _ member)
    refine earlier.step (sound.path path) step ?_
    rintro rfl
    exact goesOn (List.mem_append_right _ (List.mem_singleton_self _))

end Amid

theorem Stopped.amid_of_began (stopped : before.Stopped own.id)
    (idle : before.owners[index]? = some (.idle session)) (named : session.poller? name = some own)
    (step : Step before (.began index (.perform (.stop name))) after) :
    after.Amid index session (.perform (.stop name)) own := by
  cases step with
  | begin _ due =>
    cases idle.symm.trans due
    refine ⟨stopped.spared (.setOwner ..), Session.mem_owned named, ?_⟩
    exact ⟨_, getElem?_setOwner due _, idles_stop named⟩

theorem Stopped.ends_stop (stopped : ensemble.Stopped own.id) (party : Party) :
    own.stop.Ends (serves party) (fun _ after => after = ensemble.roused own.id) ensemble := by
  refine .ask ⟨(), _, rfl⟩ fun _ after dismissed => ?_
  cases dismissed
  rw [stopped.dismissed]
  refine .ask ⟨_, _, rfl, rfl⟩ fun claimed after served => ?_
  obtain ⟨rfl, rfl⟩ := served
  obtain ⟨unclaimed, same⟩ := stopped.roused.claimed
  rw [unclaimed, same]
  exact .pure rfl

end Again

/-- What stopping comes to, in everything that may follow. -/
structure Finality (ensemble : Ensemble) : Prop where
  whole : ∀ stint ∈ ensemble.stints, stint.Whole
  /-- When a stop is over, no activity of the poller does anything, until one is launched. -/
  stopped {index session errand program after deeds last} {poller : Poller} :
    ensemble.owners[index]? = some (.busy session errand program) → poller ∈ errand.stops session →
    Step ensemble (.finished index) after → Path after deeds last →
    (∀ deed ∈ deeds, ¬ deed.Launches poller.id) → last.Stopped poller.id ∧
      ∀ deed ∈ deeds, ∀ position stint, deed.party? = some (.activity ⟨position⟩) →
        last.stints[position]? = some stint → stint.poller ≠ poller.id
  /-- An activity whose poller is dismissed begins no further turn, even when another is launched. If it
  had not begun one, it does nothing but ask. -/
  dismissed {party answer after deeds last index} {stint : Stint} :
    ensemble.stints[index]? = some stint →
    Step ensemble (.asked party ⟨.dismiss stint.poller, answer⟩) after → Path after deeds last →
    .asked (.activity ⟨index⟩) ⟨.isWanted stint.poller, true⟩ ∉ deeds ∧
      (stint.record = [] → ∃ later, last.stints[index]? = some later ∧
        (later.record = [] ∨ later.record = [⟨.isWanted stint.poller, false⟩]))
  /-- No activity of a dropped poller ever begins a turn again. -/
  dropped {index session errand program after deeds last party} {poller : Poller} :
    ensemble.owners[index]? = some (.busy session errand program) → poller ∈ errand.drops session →
    Step ensemble (.finished index) after → Path after deeds last →
    .asked party ⟨.isWanted poller.id, true⟩ ∉ deeds
  /-- To stop a stopped poller comes to an end, and leaves a wake-up behind. -/
  again {party} {poller : Poller} : ensemble.Stopped poller.id →
    poller.stop.Ends (serves party) (fun _ after => after = ensemble.roused poller.id) ensemble
  /-- It does nothing else, whatever the others do meanwhile. -/
  meanwhile {index session name after middle last deeds deed} {poller : Poller} :
    ensemble.Stopped poller.id → ensemble.owners[index]? = some (.idle session) →
    session.poller? name = some poller → Step ensemble (.began index (.perform (.stop name))) after →
    Path after deeds middle → .finished index ∉ deeds → Step middle deed last →
    deed.party? = some (.owner index) → middle.Superfluous index session poller.id deed last

theorem Sound.finality (sound : ensemble.Sound) : ensemble.Finality where
  whole stint member := (sound.orderly stint member).whole
  stopped busy stops finished path apart := by
    cases finished with
    | finish due =>
      cases busy.symm.trans due
      have stopped := stopped_of_finished sound due stops
      exact ⟨stopped.path path apart, fun deed done position stint own found =>
        path.undone apart stopped.silent done own found⟩
  dismissed found step path := ⟨sound.untold found step path, sound.unbegun found step path⟩
  dropped busy drops finished path := by
    have orderly := sound.orderly.step finished
    cases finished with
    | finish due =>
      cases busy.symm.trans due
      exact (forsaken_of_finished sound due drops).untold_path orderly path
  again stopped := stopped.ends_stop _
  meanwhile stopped idle named began path goesOn step party := by
    have amid := (stopped.amid_of_began idle named began).path (sound.step began) path goesOn
    exact (amid.moves step party).1

/-- Stopping is final and cuts nothing, whatever owners and activities there are, and in whatever order
their steps are taken. -/
theorem stopping_final {version : Version} {sessions : List Session}
    {subscriber : PollerId → Subscriber} (numbered : Numbered (sessions.flatMap Session.owned))
    (path : Path (start version sessions subscriber) deeds ensemble) : ensemble.Finality :=
  (Sound.path ⟨orderly_start version sessions subscriber, valid_start numbered⟩ path).finality

def altimeter : Poller := ⟨⟨0⟩, .altitude, 10, ⟨100000000⟩⟩

def lookout : Session := ⟨⟨.initial, .initial, [], .default⟩, [], [("altitude", altimeter)]⟩

theorem numbered_lookout : Numbered ([lookout].flatMap Session.owned) := by
  intro index poller found
  cases index with
  | zero =>
    cases found
    rfl
  | succ => cases found

def vigil : Ensemble := start .v1 [lookout] fun _ => ⟨"altitude", none⟩

theorem vigil_path : ∃ deeds ensemble, Path vigil deeds ensemble ∧
    ensemble.owners[0]? = some (.busy lookout (.perform (.stop "altitude")) (.pure lookout)) := by
  have called : Path vigil [.began 0 (.perform (.stop "altitude"))] _ := Path.none.step (.begin _ rfl)
  have dismissed : Path vigil (_ ++ [.asked (.owner 0) ⟨.dismiss ⟨0⟩, ()⟩]) _ :=
    called.step (.ownerAsks rfl rfl)
  have claimed : Path vigil (_ ++ [.asked (.owner 0) ⟨.claim ⟨0⟩, some ⟨0⟩⟩]) _ :=
    dismissed.step (.ownerAsks rfl ⟨rfl, rfl⟩)
  have turned : Path vigil (_ ++ [.turned (.activity ⟨0⟩)]) _ := claimed.step (.stintTurns rfl rfl rfl)
  have told : Path vigil (_ ++ [.asked (.activity ⟨0⟩) ⟨.isWanted ⟨0⟩, false⟩]) _ :=
    turned.step (.stintAsks rfl rfl rfl ⟨rfl, rfl⟩)
  have ended : Path vigil (_ ++ [.ended ⟨0⟩ .finished]) _ := told.step (.stintEnds rfl rfl rfl)
  have joined : Path vigil (_ ++ [.asked (.owner 0) ⟨.join ⟨0⟩, .finished⟩]) _ :=
    ended.step (.ownerAsks rfl ⟨⟨_, rfl, rfl⟩, rfl⟩)
  have reported : Path vigil (_ ++ [.asked (.owner 0) ⟨.report (.pollerStopped .altitude), ()⟩]) _ :=
    joined.step (.ownerAsks rfl ⟨trivial, rfl⟩)
  exact ⟨_, _, reported, rfl⟩

theorem vigil_stops : ∃ deeds ensemble after, Path vigil deeds ensemble ∧
    Step ensemble (.finished 0) after ∧ ensemble.Finality ∧ after.Stopped altimeter.id := by
  obtain ⟨deeds, ensemble, path, due⟩ := vigil_path
  have final := stopping_final numbered_lookout path
  have finished := Step.finish due
  have stops : altimeter ∈ (Errand.perform (.stop "altitude")).stops lookout := by
    simp [Errand.stops, Session.poller?, lookout]
  refine ⟨deeds, ensemble, _, path, finished, final, ?_⟩
  exact (final.stopped due stops finished .none (by simp)).1

end Ensemble
end FlightLink
