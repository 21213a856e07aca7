import FlightLink.Proofs.OwnershipInvariant

/-! What a dismissal comes to. Nothing is done by the activities of a stopped poller. Whoever is dismissed
resigns: it begins no further turn, even when its poller is launched again, since that is only done when
it has ended. And a poller that nobody owns any longer is never launched. -/

namespace FlightLink
namespace Ensemble

structure Sound (ensemble : Ensemble) : Prop where
  orderly : ensemble.Orderly
  valid : ∃ cares, ensemble.Valid cares

variable {ensemble before after last : Ensemble} {deed : Deed} {deeds : List Deed} {poller : PollerId}
  {index : Nat} {stint : Stint} {cares : Nat → Care}

theorem Sound.step (sound : before.Sound) (step : Step before deed after) : after.Sound := by
  obtain ⟨cares, valid⟩ := sound.valid
  obtain ⟨later, valid, -⟩ := valid.step sound.orderly step
  exact ⟨sound.orderly.step step, later, valid⟩

theorem Sound.path (sound : before.Sound) (path : Path before deeds after) : after.Sound := by
  induction path with
  | none => exact sound
  | step _ step ih => exact ih.step step

section Stopped

theorem Stopped.step (stopped : before.Stopped poller) (step : Step before deed after)
    (apart : ¬ deed.Launches poller) : after.Stopped poller := by
  obtain spares | ⟨party, ⟨request, answer⟩, middle, rfl, changes, spares⟩ := step.spares_or poller
  · exact stopped.spared spares
  · refine Stopped.spared ?_ spares
    obtain ⟨cell, found, unwanted, unclaimed⟩ := stopped.idle
    obtain spares | ⟨rfl, rfl⟩ | ⟨rfl, rfl⟩ | ⟨subscriber, cell, rfl, -⟩ := changes.spares_or poller
    · exact stopped.spared spares
    · exact ⟨⟨_, cell?_updateCell found _, rfl, unclaimed⟩, stopped.silent⟩
    · exact ⟨⟨_, cell?_updateCell found _, unwanted, rfl⟩, stopped.silent⟩
    · exact absurd rfl apart

theorem Unwanted.step (unwanted : before.Unwanted poller) (step : Step before deed after)
    (apart : ¬ deed.Launches poller) : after.Unwanted poller := by
  obtain spares | ⟨party, ⟨request, answer⟩, middle, rfl, changes, spares⟩ := step.spares_or poller
  · exact unwanted.spared spares
  · refine Unwanted.spared ?_ spares
    obtain ⟨cell, found, unwanted⟩ := id unwanted
    obtain spares | ⟨rfl, rfl⟩ | ⟨rfl, rfl⟩ | ⟨subscriber, cell, rfl, -⟩ := changes.spares_or poller
    · exact Unwanted.spared ⟨cell, found, unwanted⟩ spares
    · exact ⟨_, cell?_updateCell found _, rfl⟩
    · exact ⟨_, cell?_updateCell found _, unwanted⟩
    · exact absurd rfl apart

theorem Step.live (step : Step before deed after) (own : deed.party? = some (.activity ⟨index⟩)) :
    ∃ stint, before.stints[index]? = some stint ∧ stint.ending = none := by
  cases step with
  | pass => cases own
  | begin | finish | ownerAsks | ownerTurns => cases own
  | stintAsks due underWay | stintTurns due underWay | stintEnds due underWay
  | stintCrashes due underWay =>
    cases own
    exact ⟨_, due, underWay⟩

theorem Path.exists_stint (path : Path before deeds last) (done : deed ∈ deeds)
    (own : deed.party? = some (.activity ⟨index⟩)) : ∃ stint, last.stints[index]? = some stint := by
  induction path with
  | none => cases done
  | step _ step ih =>
    obtain earlier | same := List.mem_append.mp done
    · obtain ⟨stint, found⟩ := ih earlier
      obtain ⟨later, found, -⟩ := step.stint found
      exact ⟨later, found⟩
    · obtain rfl := List.mem_singleton.mp same
      obtain ⟨stint, found, -⟩ := step.live own
      obtain ⟨later, found, -⟩ := step.stint found
      exact ⟨later, found⟩

theorem Stopped.path (stopped : before.Stopped poller) (path : Path before deeds last)
    (apart : ∀ deed ∈ deeds, ¬ deed.Launches poller) : last.Stopped poller := by
  induction path with
  | none => exact stopped
  | step _ step ih =>
    have earlier := ih fun deed member => apart deed (List.mem_append_left _ member)
    exact earlier.step step (apart _ (List.mem_append_right _ (List.mem_singleton_self _)))

theorem Step.was_live (step : Step before deed after) (apart : ¬ deed.Launches poller)
    (live : after.Live poller index) : before.Live poller index := by
  obtain spares | ⟨party, ⟨request, answer⟩, middle, rfl, changes, spares⟩ := step.spares_or poller
  · exact spares.live index live
  · have meanwhile := spares.live index live
    obtain spares | ⟨rfl, rfl⟩ | ⟨rfl, rfl⟩ | ⟨subscriber, cell, rfl, -⟩ := changes.spares_or poller
    · exact spares.live index meanwhile
    · exact meanwhile
    · exact meanwhile
    · exact absurd rfl apart

theorem Path.silent (path : Path before deeds last) (apart : ∀ deed ∈ deeds, ¬ deed.Launches poller)
    (silent : ∀ index, ¬ before.Live poller index) : ∀ index, ¬ last.Live poller index :=
  @Path.keeps _ _ (·.Launches poller) (fun ensemble => ∀ index, ¬ ensemble.Live poller index) _ path apart
    silent fun step apart silent index live => silent index (step.was_live apart live)

theorem Path.undone (path : Path before deeds last) (apart : ∀ deed ∈ deeds, ¬ deed.Launches poller)
    (silent : ∀ index, ¬ before.Live poller index) (done : deed ∈ deeds)
    (own : deed.party? = some (.activity ⟨index⟩)) (found : last.stints[index]? = some stint) :
    stint.poller ≠ poller := by
  induction path generalizing stint with
  | none => cases done
  | @step middle after deeds latest path step ih =>
    have earlier := fun deed member => apart deed (List.mem_append_left _ member)
    obtain member | same := List.mem_append.mp done
    · obtain ⟨old, due⟩ := path.exists_stint member own
      obtain ⟨later, foundToo, precedes⟩ := step.stint due
      cases found.symm.trans foundToo
      exact precedes.same ▸ ih earlier member due
    · obtain rfl := List.mem_singleton.mp same
      obtain ⟨old, due, underWay⟩ := step.live own
      obtain ⟨later, foundToo, precedes⟩ := step.stint due
      cases found.symm.trans foundToo
      rw [precedes.same]
      exact fun same => path.silent earlier silent index ⟨old, due, same, underWay⟩

end Stopped

section Resigned

/-- The activity goes on for as long only as its poller is unwanted. -/
def Resigned (ensemble : Ensemble) (index : Nat) : Prop :=
  ∀ stint, ensemble.stints[index]? = some stint → stint.ending = none → ensemble.Unwanted stint.poller

theorem Orderly.launch (orderly : before.Orderly) (step : Step before deed after)
    (launches : deed.Launches poller) : ∃ index session errand subscriber next cell,
      deed = .asked (.owner index) ⟨.launch poller subscriber, ()⟩ ∧
      before.owners[index]? = some (.busy session errand (.ask (.launch poller subscriber) next)) ∧
      before.cell? poller = some cell ∧
      after = (before.launched poller cell subscriber).setOwner index (.busy session errand (next ())) := by
  cases step with
  | @ownerAsks index session errand request next answer _ due served =>
    cases request with
    | launch =>
      cases launches
      obtain ⟨cell, found, rfl⟩ := served
      exact ⟨index, session, errand, _, next, cell, rfl, due, found, rfl⟩
    | _ => cases launches
  | @stintAsks _ stint request next answer _ due underWay asks served =>
    have polls := (orderly _ (List.mem_of_getElem? due)).stands.polls
    rw [asks] at polls
    cases polls with
    | ask polling _ => exact absurd launches.touches (polling.spares poller)
  | _ => cases launches

/-- Only its owner launches a poller, and only when nothing runs of it. -/
theorem Valid.stopped_of_launches (valid : before.Valid cares) (orderly : before.Orderly)
    (step : Step before deed after) (launches : deed.Launches poller) : before.Stopped poller ∧
      ∃ index, deed.party? = some (.owner index) ∧ (cares index).Minds poller := by
  obtain ⟨index, session, errand, subscriber, next, cell, rfl, due, -, -⟩ := orderly.launch step launches
  have tends := valid.tended _ _ due
  cases tends with
  | launch quiet rest =>
    cases valid.holds _ _ _ quiet with
    | quiet stopped => exact ⟨stopped, index, rfl, _, quiet⟩
  | plain plain rest => cases plain

theorem Resigned.step (resigned : before.Resigned index) (valid : before.Valid cares)
    (orderly : before.Orderly) (found : before.stints[index]? = some stint)
    (step : Step before deed after) : after.Resigned index := by
  intro later foundLater goesOn
  obtain ⟨same, foundToo, precedes⟩ := step.stint found
  cases foundLater.symm.trans foundToo
  have underWay : stint.ending = none := by
    apply Classical.byContradiction
    intro past
    obtain rfl := precedes.ended past
    exact past goesOn
  rw [precedes.same]
  apply (resigned stint found underWay).step step
  intro launches
  have stopped := (valid.stopped_of_launches orderly step launches).1
  exact stopped.silent index ⟨stint, found, rfl, underWay⟩

theorem Resigned.path (resigned : before.Resigned index) (sound : before.Sound)
    (found : before.stints[index]? = some stint) (path : Path before deeds last) :
    last.Resigned index := by
  induction path with
  | none => exact resigned
  | step path step ih =>
    obtain ⟨middle, found, -⟩ := path.stint found
    have sound := sound.path path
    obtain ⟨cares, valid⟩ := sound.valid
    exact ih.step valid sound.orderly found step

theorem Resigned.untold (resigned : before.Resigned index) (orderly : before.Orderly)
    (step : Step before (.asked (.activity ⟨index⟩) ⟨.isWanted poller, true⟩) after) : False := by
  cases step with
  | stintAsks due underWay asks served =>
    have polls := (orderly _ (List.mem_of_getElem? due)).stands.polls
    rw [asks] at polls
    cases polls with
    | ask polling _ =>
      cases polling
      obtain ⟨cell, found, unwanted⟩ := resigned _ due underWay
      obtain ⟨told, -⟩ := served
      rw [found, Option.any_some, unwanted] at told
      cases told

theorem Resigned.untold_path (resigned : before.Resigned index) (sound : before.Sound)
    (found : before.stints[index]? = some stint) (path : Path before deeds last) :
    .asked (.activity ⟨index⟩) ⟨.isWanted poller, true⟩ ∉ deeds :=
  path.not_mem fun path => (resigned.path sound found path).untold (sound.path path).orderly

theorem Step.unwanted {party : Party} {answer : Unit} {cell : Cell} (found : before.cell? poller = some cell)
    (step : Step before (.asked party ⟨.dismiss poller, answer⟩) after) : after.Unwanted poller := by
  have dismissed : (before.dismissed poller).Unwanted poller := ⟨_, cell?_updateCell found _, rfl⟩
  cases step with
  | ownerAsks _ served =>
    cases served
    exact dismissed.spared (.setOwner ..)
  | stintAsks due underWay _ served =>
    cases served
    exact dismissed.spared (.setStint due rfl underWay)

/-- Whoever is dismissed resigns. -/
theorem Step.resigns {party : Party} {answer : Unit} (sound : before.Sound)
    (step : Step before (.asked party ⟨.dismiss poller, answer⟩) after)
    (found : before.stints[index]? = some stint) (own : stint.poller = poller) :
    after.Resigned index := by
  intro later foundLater _
  obtain ⟨same, foundToo, precedes⟩ := step.stint found
  cases foundLater.symm.trans foundToo
  obtain ⟨cares, valid⟩ := sound.valid
  have inside : poller.index < before.cells.length := own ▸ valid.housed stint (List.mem_of_getElem? found)
  have known : before.cell? poller = some before.cells[poller.index] := List.getElem?_eq_getElem inside
  rw [precedes.same, own]
  exact step.unwanted known

theorem Sound.untold {party : Party} {answer : Unit} (sound : before.Sound)
    (found : before.stints[index]? = some stint)
    (step : Step before (.asked party ⟨.dismiss stint.poller, answer⟩) after)
    (path : Path after deeds last) :
    .asked (.activity ⟨index⟩) ⟨.isWanted stint.poller, true⟩ ∉ deeds := by
  obtain ⟨middle, foundToo, -⟩ := step.stint found
  exact (step.resigns sound found rfl).untold_path (sound.step step) foundToo path

theorem Sound.unbegun {party : Party} {answer : Unit} (sound : before.Sound)
    (found : before.stints[index]? = some stint)
    (step : Step before (.asked party ⟨.dismiss stint.poller, answer⟩) after)
    (path : Path after deeds last) (nothing : stint.record = []) :
    ∃ later, last.stints[index]? = some later ∧
      (later.record = [] ∨ later.record = [⟨.isWanted stint.poller, false⟩]) := by
  obtain ⟨middle, foundToo, first⟩ := step.stint found
  obtain ⟨later, foundLater, second⟩ := path.stint foundToo
  have own : later.poller = stint.poller := second.same.trans first.same
  have orderly := (sound.step step).orderly.path path _ (List.mem_of_getElem? foundLater)
  refine ⟨later, foundLater, own ▸ orderly.stands.untold fun told => ?_⟩
  obtain earlier | told := second.asked _ told
  · obtain earlier | same := first.asked _ earlier
    · rw [nothing] at earlier
      cases earlier
    · cases List.mem_singleton.mp same
  · rw [own] at told
    exact sound.untold found step path told

end Resigned

section Forsaken

/-- The poller is unwanted, and nobody owns it. -/
structure Forsaken (ensemble : Ensemble) (poller : PollerId) : Prop where
  unwanted : ensemble.Unwanted poller
  unowned : ∃ cares, ensemble.Valid cares ∧ ∀ index, ¬ (cares index).Minds poller

theorem Unwanted.untold {party : Party} (unwanted : before.Unwanted poller)
    (step : Step before (.asked party ⟨.isWanted poller, true⟩) after) : False := by
  obtain ⟨cell, found, unwanted⟩ := unwanted
  cases step with
  | ownerAsks _ served | stintAsks _ _ _ served =>
    obtain ⟨told, -⟩ := served
    rw [found, Option.any_some, unwanted] at told
    cases told

theorem Forsaken.step (forsaken : before.Forsaken poller) (orderly : before.Orderly)
    (step : Step before deed after) : after.Forsaken poller := by
  obtain ⟨unwanted, cares, valid, unowned⟩ := forsaken
  have apart : ¬ deed.Launches poller := by
    intro launches
    obtain ⟨-, index, -, minds⟩ := valid.stopped_of_launches orderly step launches
    exact unowned index minds
  obtain ⟨later, validLater, inherits⟩ := valid.step orderly step
  refine ⟨unwanted.step step apart, later, validLater, fun index minds => ?_⟩
  obtain ⟨cell, found, -⟩ := unwanted
  obtain minds | fresh := inherits index poller minds
  · exact unowned index minds
  · cases found.symm.trans fresh

theorem Forsaken.path (forsaken : before.Forsaken poller) (orderly : before.Orderly)
    (path : Path before deeds last) : last.Forsaken poller := by
  induction path with
  | none => exact forsaken
  | step path step ih => exact ih.step (orderly.path path) step

theorem Forsaken.untold_path {party : Party} (forsaken : before.Forsaken poller)
    (orderly : before.Orderly) (path : Path before deeds last) :
    .asked party ⟨.isWanted poller, true⟩ ∉ deeds :=
  path.not_mem fun path => (forsaken.path orderly path).unwanted.untold

end Forsaken

end Ensemble
end FlightLink
