import FlightLink.Proofs.CounterTotals
import FlightLink.Proofs.SubscriberFailure

/-! Stops that are given up. An owner that waits for an activity has claimed it already, so when the owner
waits no longer, nobody joins that activity any more. It begins no further poll, until its poller is launched
again. But a launch makes the poller wanted for whatever goes on of it. So two activities of a poller go on
just when a launch finds one, and no launch does so when all owners wait for the end of their stops. -/

namespace FlightLink

/-- Errands that may be given up while they wait for an activity: they leave the session as it is. -/
def Errand.Recallable : Errand → Prop
  | .perform (.stop _) | .perform (.resubscribe _ _) => True
  | _ => False

inductive Move
  | did (deed : Deed)
  | gaveUp (owner : Nat)

def Move.Launches (poller : PollerId) : Move → Prop
  | .did deed => deed.Launches poller
  | .gaveUp _ => False

namespace Ensemble

inductive Moves : Ensemble → Move → Ensemble → Prop
  | step {before deed after} (step : Step before deed after) : Moves before (.did deed) after
  | giveUp {ensemble index session errand activity} {next : Ending → Program Session}
      (due : ensemble.owners[index]? = some (.busy session errand (.ask (.join activity) next)))
      (recallable : errand.Recallable) :
      Moves ensemble (.gaveUp index) (ensemble.setOwner index (.idle session))

inductive Walk (first : Ensemble) : List (Ensemble × Move) → Ensemble → Prop
  | none : Walk first [] first
  | move {middle last moves move} (walk : Walk first moves middle) (moved : Moves middle move last) :
      Walk first (moves ++ [(middle, move)]) last

/-- Whenever a poller is launched, nothing goes on of it. -/
def Undisturbed (moves : List (Ensemble × Move)) : Prop :=
  ∀ entry ∈ moves, ∀ poller, entry.2.Launches poller → ∀ index, ¬ entry.1.Live poller index

def Subscribed (ensemble : Ensemble) (poller : PollerId) (subscriber : Subscriber) : Prop :=
  ∀ stint ∈ ensemble.stints, stint.poller = poller → stint.ending = none → stint.subscriber = subscriber

variable {before after first last : Ensemble} {deed : Deed} {move : Move} {moves : List (Ensemble × Move)}
  {poller : PollerId} {subscriber : Subscriber} {party : Party} {index : Nat}

theorem undisturbed_snoc : Undisturbed (moves ++ [(before, move)]) ↔
    Undisturbed moves ∧ ∀ poller, move.Launches poller → ∀ index, ¬ before.Live poller index := by
  simp only [Undisturbed, List.forall_mem_append, List.forall_mem_singleton]

section Launches

theorem Live.launched (live : before.Live poller index) (other : PollerId) (cell : Cell)
    (subscriber : Subscriber) : (before.launched other cell subscriber).Live poller index := by
  obtain ⟨stint, found, own, goesOn⟩ := live
  have inside := (List.getElem?_eq_some_iff.mp found).1
  exact ⟨stint, (List.getElem?_append_left inside).trans found, own, goesOn⟩

theorem launched_live (cell : Cell) (subscriber : Subscriber) :
    (before.launched poller cell subscriber).Live poller before.stints.length :=
  ⟨_, List.getElem?_concat_length .., rfl, rfl⟩

theorem subscribed_launched (silent : ∀ index, ¬ before.Live poller index) (cell : Cell) :
    (before.launched poller cell subscriber).Subscribed poller subscriber := by
  intro stint member own goesOn
  obtain earlier | latest := List.mem_append.mp member
  · obtain ⟨index, found⟩ := List.getElem?_of_mem earlier
    exact absurd ⟨stint, found, own, goesOn⟩ (silent index)
  · obtain rfl := List.mem_singleton.mp latest
    rfl

theorem Changes.subscribed {request : Request} (changes : Changes before request after)
    (subscribed : before.Subscribed poller subscriber) (apart : ¬ request.Launches poller) :
    after.Subscribed poller subscriber := by
  cases changes with
  | launched =>
    intro stint member own goesOn
    obtain earlier | latest := List.mem_append.mp member
    · exact subscribed stint earlier own goesOn
    · obtain rfl := List.mem_singleton.mp latest
      exact absurd own apart
  | _ => exact subscribed

theorem Subscribed.setStint {stint next : Stint} (subscribed : before.Subscribed poller subscriber)
    (due : before.stints[index]? = some stint) (goesOn : stint.ending = none)
    (own : next.poller = stint.poller) (same : next.subscriber = stint.subscriber) :
    (before.setStint index next).Subscribed poller subscriber := by
  intro later member ownToo goesOnToo
  obtain member | rfl := List.mem_or_eq_of_mem_set member
  · exact subscribed later member ownToo goesOnToo
  · exact same.trans (subscribed stint (List.mem_of_getElem? due) (own.symm.trans ownToo) goesOn)

theorem Step.subscribed (step : Step before deed after) (subscribed : before.Subscribed poller subscriber)
    (apart : ¬ deed.Launches poller) : after.Subscribed poller subscriber := by
  cases step with
  | pass | begin | finish | ownerTurns => exact subscribed
  | ownerAsks _ served => exact (serves_changes served).subscribed subscribed apart
  | stintAsks due goesOn _ served =>
    have changes := serves_changes served
    exact (changes.subscribed subscribed apart).setStint (changes.stint due) goesOn rfl rfl
  | stintTurns due goesOn | stintEnds due goesOn | stintCrashes due goesOn =>
    exact subscribed.setStint due goesOn rfl rfl

end Launches

namespace Moves

theorem orderly (moved : Moves before move after) (orderly : before.Orderly) : after.Orderly := by
  cases moved with
  | step step => exact orderly.step step
  | giveUp => exact orderly

theorem faithful (moved : Moves before move after) (faithful : ∀ stint ∈ before.stints, stint.Faithful) :
    ∀ stint ∈ after.stints, stint.Faithful := by
  cases moved with
  | step step => exact step.faithful faithful
  | giveUp => exact faithful

theorem unwanted (moved : Moves before move after) (unwanted : before.Unwanted poller)
    (apart : ¬ move.Launches poller) : after.Unwanted poller := by
  cases moved with
  | step step => exact unwanted.step step apart
  | giveUp => exact unwanted.spared (.setOwner ..)

theorem subscribed (moved : Moves before move after) (subscribed : before.Subscribed poller subscriber)
    (apart : ¬ move.Launches poller) : after.Subscribed poller subscriber := by
  cases moved with
  | step step => exact step.subscribed subscribed apart
  | giveUp => exact subscribed

theorem was_live (moved : Moves before move after) (apart : ¬ move.Launches poller)
    (live : after.Live poller index) : before.Live poller index := by
  cases moved with
  | step step => exact step.was_live apart live
  | giveUp => exact live

/-- One activity of a poller goes on after a move, unless it launches another beside it. -/
theorem single_iff (moved : Moves before move after) (single : before.Single) (orderly : before.Orderly) :
    after.Single ↔ ∀ poller, move.Launches poller → ∀ index, ¬ before.Live poller index := by
  constructor
  · intro singleToo poller launches index live
    cases moved with
    | giveUp => cases launches
    | step step =>
      obtain ⟨owner, session, errand, subscriber, next, cell, -, -, -, rfl⟩ := orderly.launch step launches
      have same := singleToo poller index _ (live.launched poller cell subscriber)
        (launched_live cell subscriber)
      obtain ⟨stint, found, -⟩ := live
      exact absurd same (Nat.ne_of_lt (List.getElem?_eq_some_iff.mp found).1)
  · intro silent poller first second live liveToo
    by_cases launches : move.Launches poller
    · cases moved with
      | giveUp => cases launches
      | step step =>
        have none := silent poller launches
        exact (step.live_launched none live).trans (step.live_launched none liveToo).symm
    · exact single poller first second (moved.was_live launches live) (moved.was_live launches liveToo)

end Moves

namespace Walk

theorem keeps {allowed : Move → Prop} {kept : Ensemble → Prop} (walk : Walk first moves last)
    (allows : ∀ entry ∈ moves, allowed entry.2) (holds : kept first)
    (keeps : ∀ {middle move last}, Moves middle move last → allowed move → kept middle → kept last) :
    (∀ entry ∈ moves, kept entry.1 ∧ ∃ next, Moves entry.1 entry.2 next) ∧ kept last := by
  induction walk with
  | none => exact ⟨List.forall_mem_nil _, holds⟩
  | move walk moved ih =>
    obtain ⟨earlier, latest⟩ := List.forall_mem_append.mp allows
    obtain ⟨all, middle⟩ := ih earlier
    have here := List.forall_mem_singleton.mp latest
    refine ⟨List.forall_mem_append.mpr ⟨all, ?_⟩, keeps moved here middle⟩
    exact List.forall_mem_singleton.mpr ⟨middle, _, moved⟩

theorem orderly (walk : Walk first moves last) (orderly : first.Orderly) : last.Orderly :=
  (@keeps _ _ _ (fun _ => True) Ensemble.Orderly walk (fun _ _ => trivial) orderly
    fun moved _ => moved.orderly).2

theorem faithful (walk : Walk first moves last) (faithful : ∀ stint ∈ first.stints, stint.Faithful) :
    ∀ stint ∈ last.stints, stint.Faithful :=
  (@keeps _ _ _ (fun _ => True) (fun ensemble => ∀ stint ∈ ensemble.stints, stint.Faithful) walk
    (fun _ _ => trivial) faithful fun moved _ => moved.faithful).2

theorem single_iff (walk : Walk first moves last) (single : first.Single) (orderly : first.Orderly) :
    ((∀ entry ∈ moves, entry.1.Single) ∧ last.Single) ↔ Undisturbed moves := by
  induction walk with
  | none => exact ⟨fun _ => List.forall_mem_nil _, fun _ => ⟨List.forall_mem_nil _, single⟩⟩
  | move walk moved ih =>
    have steady := walk.orderly orderly
    constructor
    · rintro ⟨all, latest⟩
      obtain ⟨earlier, middle⟩ := List.forall_mem_append.mp all
      have single := List.forall_mem_singleton.mp middle
      exact undisturbed_snoc.mpr ⟨ih.mp ⟨earlier, single⟩, (moved.single_iff single steady).mp latest⟩
    · intro undisturbed
      obtain ⟨earlier, latest⟩ := undisturbed_snoc.mp undisturbed
      obtain ⟨all, single⟩ := ih.mpr earlier
      refine ⟨List.forall_mem_append.mpr ⟨all, ?_⟩, (moved.single_iff single steady).mpr latest⟩
      exact List.forall_mem_singleton.mpr single

theorem undisturbed (walk : Walk first moves last) (sound : first.Sound)
    (patient : ∀ entry ∈ moves, ∀ owner, entry.2 ≠ .gaveUp owner) :
    last.Sound ∧ Undisturbed moves := by
  induction walk with
  | none => exact ⟨sound, List.forall_mem_nil _⟩
  | move walk moved ih =>
    obtain ⟨earlier, latest⟩ := List.forall_mem_append.mp patient
    obtain ⟨middle, undisturbed⟩ := ih earlier
    cases moved with
    | giveUp => exact absurd rfl (List.forall_mem_singleton.mp latest _)
    | step step =>
      refine ⟨middle.step step, undisturbed_snoc.mpr ⟨undisturbed, fun poller launches => ?_⟩⟩
      obtain ⟨cares, valid⟩ := middle.valid
      exact (valid.stopped_of_launches middle.orderly step launches).1.silent

end Walk

/-- How the activities of a poller follow one another, in everything that may happen. -/
structure Succession (moves : List (Ensemble × Move)) (ensemble : Ensemble) : Prop where
  /-- Two activities of a poller go on at some time just when a launch finds one that goes on. -/
  single_iff : ((∀ entry ∈ moves, entry.1.Single) ∧ ensemble.Single) ↔ Undisturbed moves
  /-- No launch does so when all owners wait for the end of their stops. -/
  patient : (∀ entry ∈ moves, ∀ owner, entry.2 ≠ .gaveUp owner) → Undisturbed moves
  /-- From a dismissal until the next launch no activity of the poller begins a poll, whoever gives up what
  meanwhile. -/
  dismissed {party : Party} {poller : PollerId} {answer : Unit} {after last : Ensemble}
    {later : List (Ensemble × Move)} :
    ensemble.cell? poller ≠ none → Step ensemble (.asked party ⟨.dismiss poller, answer⟩) after →
    Walk after later last → (∀ entry ∈ later, ¬ entry.2.Launches poller) →
    ∀ entry ∈ later, ∀ party, entry.2 ≠ .did (.asked party ⟨.isWanted poller, true⟩)
  /-- From a launch that finds nothing of the poller until the next one, whatever its activities deliver goes
  to the subscriber of that launch. -/
  delivered {party : Party} {poller : PollerId} {subscriber : Subscriber} {answer : Unit}
    {after last : Ensemble} {later : List (Ensemble × Move)} :
    (∀ index, ¬ ensemble.Live poller index) →
    Step ensemble (.asked party ⟨.launch poller subscriber, answer⟩) after → Walk after later last →
    (∀ entry ∈ later, ¬ entry.2.Launches poller) →
    ∀ entry ∈ later, ∀ index stint taker ordinal message answer,
      entry.2 = .did (.asked (.activity ⟨index⟩) ⟨.deliver taker ordinal message, answer⟩) →
      entry.1.stints[index]? = some stint → stint.poller = poller → taker = subscriber

theorem Step.taker {taker : Subscriber} {ordinal : Nat} {message : Message} {answer : Unit} {stint : Stint}
    (step : Step before (.asked (.activity ⟨index⟩) ⟨.deliver taker ordinal message, answer⟩) after)
    (faithful : ∀ stint ∈ before.stints, stint.Faithful) (found : before.stints[index]? = some stint) :
    stint.ending = none ∧ taker = stint.subscriber := by
  cases step with
  | stintAsks due goesOn asks =>
    cases found.symm.trans due
    exact ⟨goesOn, ((faithful stint (List.mem_of_getElem? due)).next asks).1⟩

theorem succession_of_walk {version : Version} {sessions : List Session}
    {subscriber : PollerId → Subscriber} (numbered : Numbered (sessions.flatMap Session.owned))
    (walk : Walk (start version sessions subscriber) moves last) : Succession moves last := by
  have orderlyFirst := orderly_start version sessions subscriber
  have orderly := walk.orderly orderlyFirst
  have faithful := walk.faithful (faithful_start version sessions subscriber)
  constructor
  case single_iff => exact walk.single_iff (single_start numbered) orderlyFirst
  case patient => exact fun patient => (walk.undisturbed ⟨orderlyFirst, valid_start numbered⟩ patient).2
  case dismissed =>
    rintro party poller answer after last later known dismisses walk apart ⟨ensemble, move⟩ member party rfl
    obtain ⟨cell, found⟩ := Option.ne_none_iff_exists'.mp known
    have kept := walk.keeps apart (dismisses.unwanted found) fun moved apart unwanted =>
      moved.unwanted unwanted apart
    obtain ⟨unwanted, next, told⟩ := kept.1 _ member
    cases told with
    | step step => exact unwanted.untold step
  case delivered =>
    rintro party poller subscriber answer after last later silent launches walk apart ⟨ensemble, move⟩ member
      index stint taker ordinal message answer rfl found own
    obtain ⟨owner, session, errand, taken, next, cell, same, -, -, rfl⟩ := orderly.launch launches rfl
    cases same
    have subscribed : Subscribed _ poller subscriber := @subscribed_launched _ _ subscriber silent cell
    have kept := @Walk.keeps _ _ _ (fun move => ¬ move.Launches poller)
      (fun ensemble => (∀ stint ∈ ensemble.stints, stint.Faithful) ∧ ensemble.Subscribed poller subscriber)
      walk apart ⟨launches.faithful faithful, subscribed⟩ fun moved apart kept =>
        ⟨moved.faithful kept.1, moved.subscribed kept.2 apart⟩
    obtain ⟨⟨faithful, subscribed⟩, next, delivers⟩ := kept.1 _ member
    cases delivers with
    | step step =>
      obtain ⟨goesOn, rfl⟩ := step.taker faithful found
      exact subscribed stint (List.mem_of_getElem? found) own goesOn

theorem Walk.step {middle : Ensemble} (walk : Walk first moves middle) (step : Step middle deed last) :
    Walk first (moves ++ [(middle, .did deed)]) last := walk.move (.step step)

/-- The session gives up a stop while its poller polls, and sets another subscriber. When all that is over,
the activity before goes on for its own subscriber, and begins another poll. -/
theorem overlap_walk : ∃ moves ensemble after, Walk vigil moves ensemble ∧
    ensemble.owners = [.idle lookout] ∧ ensemble.Live ⟨0⟩ 0 ∧ ensemble.Live ⟨0⟩ 1 ∧
    ¬ ensemble.Subscribed ⟨0⟩ ⟨"height", none⟩ ∧
    Step ensemble (.asked (.activity ⟨0⟩) ⟨.isWanted ⟨0⟩, true⟩) after := by
  have turned : Walk vigil [(_, .did (.turned (.activity ⟨0⟩)))] _ :=
    Walk.none.step (.stintTurns rfl rfl rfl)
  have wanted : Walk vigil (_ ++ [(_, .did (.asked (.activity ⟨0⟩) ⟨.isWanted ⟨0⟩, true⟩))]) _ :=
    turned.step (.stintAsks rfl rfl rfl ⟨rfl, rfl⟩)
  have called : Walk vigil (_ ++ [(_, .did (.began 0 (.perform (.stop "altitude"))))]) _ :=
    wanted.step (.begin _ rfl)
  have dismissed : Walk vigil (_ ++ [(_, .did (.asked (.owner 0) ⟨.dismiss ⟨0⟩, ()⟩))]) _ :=
    called.step (.ownerAsks rfl rfl)
  have claimed : Walk vigil (_ ++ [(_, .did (.asked (.owner 0) ⟨.claim ⟨0⟩, some ⟨0⟩⟩))]) _ :=
    dismissed.step (.ownerAsks rfl ⟨rfl, rfl⟩)
  have gaveUp := claimed.move (@Moves.giveUp _ 0 lookout (.perform (.stop "altitude")) ⟨0⟩ _ rfl trivial)
  have calledAgain : Walk vigil
      (_ ++ [(_, .did (.began 0 (.perform (.resubscribe "altitude" ⟨"height", none⟩))))]) _ :=
    gaveUp.step (.begin _ rfl)
  have dismissedAgain : Walk vigil (_ ++ [(_, .did (.asked (.owner 0) ⟨.dismiss ⟨0⟩, ()⟩))]) _ :=
    calledAgain.step (.ownerAsks rfl rfl)
  have unclaimed : Walk vigil (_ ++ [(_, .did (.asked (.owner 0) ⟨.claim ⟨0⟩, none⟩))]) _ :=
    dismissedAgain.step (.ownerAsks rfl ⟨rfl, rfl⟩)
  have launched : Walk vigil (_ ++ [(_, .did (.asked (.owner 0) ⟨.launch ⟨0⟩ ⟨"height", none⟩, ()⟩))]) _ :=
    unclaimed.step (.ownerAsks rfl ⟨_, rfl, rfl⟩)
  have started : Walk vigil
      (_ ++ [(_, .did (.asked (.owner 0) ⟨.report (.pollerStarted .altitude 10), ()⟩))]) _ :=
    launched.step (.ownerAsks rfl ⟨trivial, rfl⟩)
  have finished : Walk vigil (_ ++ [(_, .did (.finished 0))]) _ := started.step (.finish rfl)
  have began : Walk vigil (_ ++ [(_, .did (.asked (.activity ⟨0⟩) ⟨.now, ⟨0⟩⟩))]) _ :=
    finished.step (.stintAsks rfl rfl rfl ⟨rfl, rfl⟩)
  have acquired : Walk vigil (_ ++ [(_, .did (.asked (.activity ⟨0⟩) ⟨.acquire, .new .v1⟩))]) _ :=
    began.step (.stintAsks rfl rfl rfl ⟨rfl, rfl, rfl⟩)
  have closed : Walk vigil (_ ++ [(_, .did (.asked (.activity ⟨0⟩) ⟨.isOpen, false⟩))]) _ :=
    acquired.step (.stintAsks rfl rfl rfl ⟨trivial, rfl⟩)
  have released : Walk vigil (_ ++ [(_, .did (.asked (.activity ⟨0⟩) ⟨.release (.new .v1), ()⟩))]) _ :=
    closed.step (.stintAsks rfl rfl rfl ⟨rfl, rfl⟩)
  have failed : Walk vigil (_ ++ [(_, .did (.asked (.activity ⟨0⟩) ⟨.count ⟨0⟩ .failure, ()⟩))]) _ :=
    released.step (.stintAsks rfl rfl rfl rfl)
  have reported : Walk vigil
      (_ ++ [(_, .did (.asked (.activity ⟨0⟩) ⟨.report (.pollFailed .altitude .portClosed), ()⟩))]) _ :=
    failed.step (.stintAsks rfl rfl rfl ⟨trivial, rfl⟩)
  have counted : Walk vigil (_ ++ [(_, .did (.asked (.activity ⟨0⟩) ⟨.count ⟨0⟩ .iteration, ()⟩))]) _ :=
    reported.step (.stintAsks rfl rfl rfl rfl)
  have concluded : Walk vigil (_ ++ [(_, .did (.asked (.activity ⟨0⟩) ⟨.now, ⟨0⟩⟩))]) _ :=
    counted.step (.stintAsks rfl rfl rfl ⟨rfl, rfl⟩)
  have woken : Walk vigil (_ ++ [(_, .did (.asked (.activity ⟨0⟩) ⟨.rest ⟨0⟩ ⟨100000000⟩, ()⟩))]) _ :=
    concluded.step (.stintAsks rfl rfl rfl (.inr ⟨rfl, rfl⟩))
  have turnedAgain : Walk vigil (_ ++ [(_, .did (.turned (.activity ⟨0⟩)))]) _ :=
    woken.step (.stintTurns rfl rfl rfl)
  refine ⟨_, _, _, turnedAgain, rfl, ⟨_, rfl, rfl, rfl⟩, ⟨_, rfl, rfl, rfl⟩, fun subscribed => ?_,
    .stintAsks rfl rfl rfl ⟨rfl, rfl⟩⟩
  have labels : "altitude" = "height" :=
    congrArg Subscriber.label (subscribed _ (List.mem_cons_self ..) rfl rfl)
  exact absurd labels (by decide)

theorem overlap_succession : ∃ moves ensemble, Walk vigil moves ensemble ∧ Succession moves ensemble ∧
    ¬ ensemble.Single ∧ ¬ Undisturbed moves := by
  obtain ⟨moves, ensemble, after, walk, -, old, new, -, -⟩ := overlap_walk
  have succession := succession_of_walk numbered_lookout walk
  have twice : ¬ ensemble.Single := fun single => absurd (single _ _ _ old new) Nat.zero_ne_one
  exact ⟨moves, ensemble, walk, succession, twice, fun undisturbed =>
    twice (succession.single_iff.mpr undisturbed).2⟩

end Ensemble
end FlightLink
