import FlightLink.Proofs.EnsembleActivities
import FlightLink.Proofs.SessionOwnership

/-! What owners know of their pollers stays so. Each poller has one owner, and nobody else dismisses,
claims or launches it, so whatever the others do leaves it as it is, but that its activity may end. -/

namespace FlightLink

theorem Request.Plain.spares {request : Request} (plain : request.Plain) (poller : PollerId) :
    ¬ request.Touches poller := by
  cases request <;> first | exact fun touches => touches | exact fun _ => plain

theorem Request.Polling.spares {own : PollerId} {request : Request} (polling : request.Polling own)
    (poller : PollerId) : ¬ request.Touches poller := by
  cases request <;> first | exact fun touches => touches | exact fun _ => polling

namespace Ensemble

/-- Nothing runs of the poller, and nobody wants it. -/
structure Stopped (ensemble : Ensemble) (poller : PollerId) : Prop where
  idle : ∃ cell, ensemble.cell? poller = some cell ∧ cell.wanted = false ∧ cell.activity = none
  silent : ∀ index, ¬ ensemble.Live poller index

def Unwanted (ensemble : Ensemble) (poller : PollerId) : Prop :=
  ∃ cell, ensemble.cell? poller = some cell ∧ cell.wanted = false

/-- What an owner knows of a poller in each phase. -/
inductive Holds (ensemble : Ensemble) (poller : PollerId) : Phase → Prop
  | settled {cell} (found : ensemble.cell? poller = some cell)
      (single : ∀ index, ensemble.Live poller index → cell.activity = some ⟨index⟩) :
      Holds ensemble poller .settled
  | told {cell} (found : ensemble.cell? poller = some cell) (unwanted : cell.wanted = false)
      (single : ∀ index, ensemble.Live poller index → cell.activity = some ⟨index⟩) :
      Holds ensemble poller .told
  | joining {cell activity} (found : ensemble.cell? poller = some cell) (unwanted : cell.wanted = false)
      (claimed : cell.activity = none) (last : ∀ index, ensemble.Live poller index → activity = ⟨index⟩) :
      Holds ensemble poller (.joining activity)
  | quiet (stopped : ensemble.Stopped poller) : Holds ensemble poller .quiet

variable {ensemble before after : Ensemble} {poller : PollerId} {phase : Phase}

theorem Stopped.unwanted (stopped : ensemble.Stopped poller) : ensemble.Unwanted poller := by
  obtain ⟨cell, found, unwanted, -⟩ := stopped.idle
  exact ⟨cell, found, unwanted⟩

theorem Stopped.dismissed (stopped : ensemble.Stopped poller) :
    ensemble.dismissed poller = ensemble.roused poller := by
  obtain ⟨cell, found, unwanted, -⟩ := stopped.idle
  exact updateCell_congr found (by rw [unwanted])

theorem Stopped.claimed (stopped : ensemble.Stopped poller) :
    (ensemble.cell? poller).bind (·.activity) = none ∧ ensemble.claimed poller = ensemble := by
  obtain ⟨cell, found, -, unclaimed⟩ := stopped.idle
  exact ⟨by rw [found, Option.bind_some, unclaimed], updateCell_of_eq found (by simp [← unclaimed])⟩

theorem Stopped.roused (stopped : ensemble.Stopped poller) : (ensemble.roused poller).Stopped poller := by
  obtain ⟨cell, found, unwanted, unclaimed⟩ := stopped.idle
  exact ⟨⟨_, cell?_updateCell found _, unwanted, unclaimed⟩, stopped.silent⟩

theorem Stopped.spared (stopped : before.Stopped poller) (spares : before.Spares poller after) :
    after.Stopped poller := by
  obtain ⟨cell, found, unwanted, unclaimed⟩ := stopped.idle
  obtain ⟨other, found, wanted, activity⟩ := spares.cell cell found
  exact ⟨⟨other, found, wanted.trans unwanted, activity.trans unclaimed⟩,
    fun index live => stopped.silent index (spares.live index live)⟩

theorem Unwanted.spared (unwanted : before.Unwanted poller) (spares : before.Spares poller after) :
    after.Unwanted poller := by
  obtain ⟨cell, found, unwanted⟩ := unwanted
  obtain ⟨other, found, wanted, -⟩ := spares.cell cell found
  exact ⟨other, found, wanted.trans unwanted⟩

namespace Holds

theorem spared (holds : before.Holds poller phase) (spares : before.Spares poller after) :
    after.Holds poller phase := by
  cases holds with
  | settled found single =>
    obtain ⟨other, found, -, activity⟩ := spares.cell _ found
    exact .settled found fun index live => activity.trans (single index (spares.live index live))
  | told found unwanted single =>
    obtain ⟨other, found, wanted, activity⟩ := spares.cell _ found
    exact .told found (wanted.trans unwanted) fun index live =>
      activity.trans (single index (spares.live index live))
  | joining found unwanted claimed last =>
    obtain ⟨other, found, wanted, activity⟩ := spares.cell _ found
    exact .joining found (wanted.trans unwanted) (activity.trans claimed) fun index live =>
      last index (spares.live index live)
  | quiet stopped => exact .quiet (stopped.spared spares)

theorem enlisted (holds : ensemble.Holds poller phase) : ∃ cell, ensemble.cell? poller = some cell := by
  cases holds with
  | settled found | told found | joining found => exact ⟨_, found⟩
  | quiet stopped =>
    obtain ⟨cell, found, -⟩ := stopped.idle
    exact ⟨cell, found⟩

theorem unwanted (holds : ensemble.Holds poller phase) (given : phase.Unwanted) :
    ensemble.Unwanted poller := by
  cases holds with
  | settled => cases given
  | told found unwanted | joining found unwanted => exact ⟨_, found, unwanted⟩
  | quiet stopped => exact stopped.unwanted

theorem dismissed (holds : ensemble.Holds poller phase) (atRest : phase.AtRest) :
    (ensemble.dismissed poller).Holds poller .told := by
  cases holds with
  | settled found single =>
    exact .told (cell?_updateCell found _) rfl single
  | quiet stopped =>
    obtain ⟨cell, found, -⟩ := stopped.idle
    exact .told (cell?_updateCell found _) rfl fun index live => absurd live (stopped.silent index)
  | told | joining => cases atRest

theorem claimed (holds : ensemble.Holds poller .told) :
    (ensemble.claimed poller).Holds poller (.claimed ((ensemble.cell? poller).bind (·.activity))) := by
  cases holds with
  | @told cell found unwanted single =>
    have cleared := cell?_updateCell found fun cell => { cell with activity := none }
    rw [found, Option.bind_some]
    cases own : cell.activity with
    | none =>
      refine .quiet ⟨⟨_, cleared, unwanted, rfl⟩, fun index live => ?_⟩
      cases own.symm.trans (single index live)
    | some activity =>
      refine .joining cleared unwanted rfl fun index live => ?_
      exact Option.some.inj (own.symm.trans (single index live))

theorem joined {activity : ActivityId} {stint : Stint} {ending : Ending}
    (holds : ensemble.Holds poller (.joining activity))
    (found : ensemble.stints[activity.index]? = some stint) (past : stint.ending = some ending) :
    ensemble.Holds poller .quiet := by
  cases holds with
  | joining known unwanted claimed last =>
    refine .quiet ⟨⟨_, known, unwanted, claimed⟩, fun index live => ?_⟩
    cases last index live
    obtain ⟨other, same, -, underWay⟩ := live
    cases found.symm.trans same
    cases underWay.symm.trans past

theorem launched {cell : Cell} (holds : ensemble.Holds poller .quiet)
    (found : ensemble.cell? poller = some cell) (subscriber : Subscriber) :
    (ensemble.launched poller cell subscriber).Holds poller .settled := by
  cases holds with
  | quiet stopped =>
    refine .settled (cell?_launched_self found subscriber) fun index live => ?_
    obtain live | ⟨rfl, -⟩ := live_launched live
    · exact absurd live (stopped.silent index)
    · rfl

end Holds

def Housed (ensemble : Ensemble) : Prop :=
  ∀ stint ∈ ensemble.stints, stint.poller.index < ensemble.cells.length

theorem holds_enlisted (housed : ensemble.Housed) (kind : Message.Kind) (hertz : Float32)
    (period : Duration) :
    (ensemble.enlisted ⟨kind, hertz, period, false, false, .zero, none⟩).Holds ⟨ensemble.cells.length⟩
      .quiet := by
  refine .quiet ⟨⟨_, List.getElem?_concat_length, rfl, rfl⟩, fun index live => ?_⟩
  obtain ⟨stint, found, same, -⟩ := live
  have inside := housed stint (List.mem_of_getElem? found)
  rw [same] at inside
  exact Nat.lt_irrefl _ inside

theorem Changes.housed {request : Request} (changes : Changes before request after)
    (housed : before.Housed) : after.Housed := by
  cases changes with
  | lock => exact housed
  | cell | dismissed | claimed =>
    intro stint member
    simpa [updateCell, Ensemble.dismissed, Ensemble.claimed] using housed stint member
  | enlisted cell =>
    intro stint member
    have inside := housed stint member
    simp only [Ensemble.enlisted, List.length_append]
    omega
  | launched found =>
    intro stint member
    simp only [Ensemble.launched, List.length_set]
    obtain member | last := List.mem_append.mp member
    · exact housed stint member
    · obtain rfl := List.mem_singleton.mp last
      exact (List.getElem?_eq_some_iff.mp found).1

theorem Housed.setStint (housed : ensemble.Housed) {index : Nat} {stint next : Stint}
    (found : ensemble.stints[index]? = some stint) (same : next.poller = stint.poller) :
    (ensemble.setStint index next).Housed := by
  intro other member
  obtain member | rfl := List.mem_or_eq_of_mem_set member
  · exact housed other member
  · rw [same]
    exact housed stint (List.mem_of_getElem? found)

theorem Housed.step {deed : Deed} (housed : before.Housed) (step : Step before deed after) :
    after.Housed := by
  cases step with
  | pass | begin | finish | ownerTurns => exact housed
  | ownerAsks _ served => exact (serves_changes served).housed housed
  | stintAsks due _ _ served =>
    have changes := serves_changes served
    exact (changes.housed housed).setStint (changes.stint due) rfl
  | stintTurns due | stintEnds due | stintCrashes due => exact housed.setStint due rfl

end Ensemble

def Owner.Tended (care : Care) : Owner → Prop
  | .idle session => care.Covers session.owned
  | .busy session errand program => Tends (errand.Done session) program care

namespace Ensemble

/-- What all owners know is so, and no poller has two owners. -/
structure Valid (ensemble : Ensemble) (cares : Nat → Care) : Prop where
  tended : ∀ index (owner : Owner), ensemble.owners[index]? = some owner → owner.Tended (cares index)
  holds : ∀ index poller phase, cares index poller = some phase → ensemble.Holds poller phase
  apart : ∀ first second poller, (cares first).Minds poller → (cares second).Minds poller → first = second
  housed : ensemble.Housed

/-- Nobody comes to care for a poller but its owner, or whoever has just enlisted it. -/
def Inherits (before : Ensemble) (cares later : Nat → Care) : Prop :=
  ∀ index poller, (later index).Minds poller → (cares index).Minds poller ∨ before.cell? poller = none

variable {before after : Ensemble} {cares : Nat → Care} {index : Nat}

namespace Valid

theorem enlisted (valid : before.Valid cares) {poller : PollerId} (minds : (cares index).Minds poller) :
    before.cell? poller ≠ none := by
  obtain ⟨phase, cared⟩ := minds
  obtain ⟨cell, found⟩ := (valid.holds index poller phase cared).enlisted
  rw [found]
  exact nofun

theorem update (valid : before.Valid cares) (owner : Owner) (care : Care) (tended : owner.Tended care)
    (owners : after.owners = before.owners.set index owner)
    (others : ∀ position poller, position ≠ index → (cares position).Minds poller →
      before.Spares poller after)
    (own : ∀ poller phase, care poller = some phase → after.Holds poller phase)
    (inherits : ∀ poller, care.Minds poller → (cares index).Minds poller ∨ before.cell? poller = none)
    (housed : after.Housed) : after.Valid (Function.update cares index care) ∧
      before.Inherits cares (Function.update cares index care) := by
  have inherited (position : Nat) (poller : PollerId)
      (minds : (Function.update cares index care position).Minds poller) :
      (cares position).Minds poller ∨ position = index ∧ before.cell? poller = none := by
    by_cases here : position = index
    · subst here
      rw [Function.update_self] at minds
      exact (inherits poller minds).imp_right fun fresh => ⟨rfl, fresh⟩
    · rw [Function.update_of_ne here] at minds
      exact .inl minds
  refine ⟨⟨?_, ?_, ?_, housed⟩, ?_⟩
  · intro position other found
    rw [owners] at found
    obtain ⟨rfl, rfl⟩ | ⟨elsewhere, found⟩ := found_of_set found
    · rwa [Function.update_self]
    · rw [Function.update_of_ne (Ne.symm elsewhere)]
      exact valid.tended position other found
  · intro position poller phase cared
    by_cases here : position = index
    · subst here
      rw [Function.update_self] at cared
      exact own poller phase cared
    · rw [Function.update_of_ne here] at cared
      exact (valid.holds position poller phase cared).spared (others position poller here ⟨phase, cared⟩)
  · intro first second poller one two
    obtain one | ⟨rfl, fresh⟩ := inherited first poller one
    · obtain two | ⟨-, fresh⟩ := inherited second poller two
      · exact valid.apart first second poller one two
      · exact absurd fresh (valid.enlisted one)
    · obtain two | ⟨same, -⟩ := inherited second poller two
      · exact absurd fresh (valid.enlisted two)
      · exact same.symm
  · exact fun position poller minds => (inherited position poller minds).imp_right And.right

theorem spared (valid : before.Valid cares) (spares : ∀ poller, before.Spares poller after)
    (owners : after.owners = before.owners) (housed : after.Housed) :
    ∃ later, after.Valid later ∧ before.Inherits cares later := by
  refine ⟨cares, ⟨?_, ?_, valid.apart, housed⟩, fun _ _ => .inl⟩
  · rw [owners]
    exact valid.tended
  · exact fun index poller phase cared => (valid.holds index poller phase cared).spared (spares poller)

theorem resumed (valid : before.Valid cares) (owner : Owner) (tended : owner.Tended (cares index))
    (owners : after.owners = before.owners.set index owner) (spares : ∀ poller, before.Spares poller after)
    (housed : after.Housed) : ∃ later, after.Valid later ∧ before.Inherits cares later := by
  refine ⟨_, valid.update owner _ tended owners (fun _ poller _ _ => spares poller)
    (fun poller phase cared => ?_) (fun _ => .inl) housed⟩
  exact (valid.holds index poller phase cared).spared (spares poller)

theorem put (valid : before.Valid cares) (owner : Owner) {poller : PollerId} {phase : Phase}
    (tended : owner.Tended ((cares index).put poller phase))
    (owners : after.owners = before.owners.set index owner)
    (spares : ∀ other ≠ poller, before.Spares other after)
    (owned : (cares index).Minds poller ∨ before.cell? poller = none) (holds : after.Holds poller phase)
    (housed : after.Housed) : ∃ later, after.Valid later ∧ before.Inherits cares later := by
  refine ⟨_, valid.update owner _ tended owners (fun position other elsewhere minds => ?_)
    (fun other known cared => ?_) (fun other minds => ?_) housed⟩
  · apply spares other
    rintro rfl
    obtain owned | fresh := owned
    · exact elsewhere (valid.apart position index other minds owned)
    · exact valid.enlisted minds fresh
  · by_cases here : other = poller
    · subst here
      rw [Care.put_self] at cared
      cases cared
      exact holds
    · rw [Care.put_of_ne here] at cared
      exact (valid.holds index other known cared).spared (spares other here)
  · by_cases here : other = poller
    · exact here ▸ owned
    · rw [Care.Minds, Care.put_of_ne here] at minds
      exact .inl minds

private theorem asked (valid : before.Valid cares) {session : Session} {errand : Errand}
    {request : Request} {next : request.Answer → Program Session} {answer : request.Answer}
    {middle : Ensemble} (due : before.owners[index]? = some (.busy session errand (.ask request next)))
    (served : serves (.owner index) request before answer middle) :
    ∃ later, (middle.setOwner index (.busy session errand (next answer))).Valid later ∧
      before.Inherits cares later := by
  have step := Step.ownerAsks due served
  have housed := valid.housed.step step
  have changes := serves_changes served
  have owners : (middle.setOwner index (.busy session errand (next answer))).owners =
      before.owners.set index (.busy session errand (next answer)) := by
    simp [setOwner, changes.owners]
  have tends := valid.tended index _ due
  cases tends with
  | plain plain rest =>
    exact valid.resumed (.busy session errand _) (rest answer) owners
      (fun poller => step.spares (plain.spares poller)) housed
  | enlist rest =>
    obtain ⟨rfl, rfl⟩ := served
    have absent : before.cell? ⟨before.cells.length⟩ = none := List.getElem?_eq_none (Nat.le_refl _)
    have fresh : cares index ⟨before.cells.length⟩ = none :=
      Care.eq_none_of_not_minds fun minds => valid.enlisted minds absent
    exact valid.put (.busy session errand _) (rest _ fresh) owners (fun _ _ => step.spares id)
      (.inr absent) ((holds_enlisted valid.housed ..).spared (.setOwner ..)) housed
  | launch quiet rest =>
    obtain ⟨cell, found, rfl⟩ := served
    have holds := (valid.holds _ _ _ quiet).launched found
    exact valid.put (.busy session errand _) rest owners (fun _ apart => step.spares apart.symm)
      (.inl ⟨_, quiet⟩) ((holds _).spared (.setOwner ..)) housed
  | dismiss owned atRest rest =>
    cases served
    have holds := (valid.holds _ _ _ owned).dismissed atRest
    exact valid.put (.busy session errand _) rest owners (fun _ apart => step.spares apart.symm)
      (.inl ⟨_, owned⟩) (holds.spared (.setOwner ..)) housed
  | claim told rest =>
    obtain ⟨rfl, rfl⟩ := served
    have holds := (valid.holds _ _ _ told).claimed
    exact valid.put (.busy session errand _) (rest _) owners (fun _ apart => step.spares apart.symm)
      (.inl ⟨_, told⟩) (holds.spared (.setOwner ..)) housed
  | join joining rest =>
    obtain ⟨⟨stint, found, past⟩, rfl⟩ := served
    have holds := (valid.holds _ _ _ joining).joined found past
    exact valid.put (.busy session errand _) (rest _) owners (fun _ _ => step.spares id)
      (.inl ⟨_, joining⟩) (holds.spared (.setOwner ..)) housed

theorem finished (valid : before.Valid cares) {session result : Session} {errand : Errand}
    (due : before.owners[index]? = some (.busy session errand (.pure result))) :
    ∃ later, (before.setOwner index (.idle result)).Valid later ∧ before.Inherits cares later ∧
      ∀ poller, (cares index).Minds poller → poller ∉ result.owned.map (·.id) →
        ∀ position, ¬ (later position).Minds poller := by
  have housed := valid.housed.step (.finish due)
  have tends := valid.tended _ _ due
  cases tends with
  | pure done =>
    have kept {poller : PollerId} (minds : ((cares index).restrict result.owned).Minds poller) :
        (cares index).restrict result.owned poller = cares index poller := by
      by_cases member : poller ∈ result.owned.map (·.id)
      · exact Care.restrict_of_mem member
      · obtain ⟨phase, cared⟩ := minds
        cases (Care.restrict_of_not_mem member).symm.trans cared
    have tended : (Owner.idle result).Tended ((cares index).restrict result.owned) :=
      done.covers.congr fun _ => Care.restrict_of_mem
    have holds (poller : PollerId) (phase : Phase)
        (cared : (cares index).restrict result.owned poller = some phase) :
        (before.setOwner index (.idle result)).Holds poller phase :=
      (valid.holds _ poller phase ((kept ⟨phase, cared⟩).symm.trans cared)).spared (.setOwner ..)
    obtain ⟨updated, inherits⟩ := valid.update (.idle result) _ tended rfl
      (fun _ _ _ _ => .setOwner ..) holds (fun poller ⟨phase, cared⟩ => .inl ⟨phase, (kept ⟨phase, cared⟩).symm.trans cared⟩) housed
    refine ⟨_, updated, inherits, fun poller minds gone position => ?_⟩
    by_cases here : position = index
    · rw [here, Function.update_self]
      rintro ⟨phase, cared⟩
      cases (Care.restrict_of_not_mem gone).symm.trans cared
    · rw [Function.update_of_ne here]
      exact fun mindsToo => here (valid.apart position index poller mindsToo minds)

/-- Whatever is done, the owners know what they need to know, and nobody inherits a poller. -/
theorem step (valid : before.Valid cares) {deed : Deed} (orderly : before.Orderly)
    (step : Step before deed after) : ∃ later, after.Valid later ∧ before.Inherits cares later := by
  have housed := valid.housed.step step
  cases step with
  | pass => exact valid.spared (fun _ => .of_eq rfl rfl) rfl housed
  | begin errand due =>
    have tends := Errand.tends_program (valid.tended _ _ due) errand
    exact valid.resumed (.busy _ errand _) tends rfl (fun _ => .setOwner ..) housed
  | finish due =>
    obtain ⟨later, valid, inherits, -⟩ := valid.finished due
    exact ⟨later, valid, inherits⟩
  | ownerAsks due served => exact valid.asked due served
  | ownerTurns due =>
    exact valid.resumed (.busy _ _ _) (valid.tended _ _ due).unfolded rfl (fun _ => .setOwner ..) housed
  | stintAsks due underWay asks served =>
    have polls := (orderly _ (List.mem_of_getElem? due)).stands.polls
    rw [asks] at polls
    cases polls with
    | ask polling _ =>
      have spares (poller : PollerId) := (Step.stintAsks due underWay asks served).spares
        (polling.spares poller)
      exact valid.spared spares (serves_changes served).owners housed
  | stintTurns due underWay | stintEnds due underWay | stintCrashes due underWay =>
    exact valid.spared (fun _ => .setStint due rfl underWay) rfl housed

end Valid
end Ensemble
end FlightLink
