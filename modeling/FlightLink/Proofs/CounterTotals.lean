import Mathlib.Algebra.Order.BigOperators.Group.List
import Mathlib.Algebra.Order.Ring.Nat
import FlightLink.Proofs.PollDeliveries
import FlightLink.Proofs.PollerDismissal

/-! What a poller has counted is what its activities have counted, all of them together: nobody else counts,
and no launch takes anything back. -/

namespace FlightLink

open Program (Loops)

def Counts.of (counts : Counts) : Tally → Nat
  | .iteration => counts.iterations
  | .failure => counts.failures
  | .overrun => counts.overruns

theorem Counts.of_add (counts : Counts) (tally other : Tally) :
    (counts.add tally).of other = counts.of other + (tally == other).toNat := by
  cases tally <;> cases other <;> rfl

namespace Stint

/-- An activity asks what is due. -/
structure Faithful (stint : Stint) : Prop where
  loops : Loops (Poller.round stint.poller stint.kind stint.period stint.subscriber) 0 stint.program
    stint.record
  due : ∀ before query behind, stint.record = before ++ query :: behind →
    Poller.Due stint.poller stint.kind stint.subscriber before query.request

variable {stint : Stint}

theorem faithful_initial (poller : PollerId) (kind : Message.Kind) (period : Duration)
    (subscriber : Subscriber) : (initial poller kind period subscriber).Faithful where
  loops := .entered
  due before query behind same := by
    cases before <;> cases same

theorem Faithful.next {request : Request} {next : request.Answer → Program Unit} (faithful : stint.Faithful)
    (asks : stint.program = .ask request next) :
    Poller.Due stint.poller stint.kind stint.subscriber stint.record request := by
  have loops := faithful.loops
  rw [asks] at loops
  exact Poller.due_of_loops loops

theorem Faithful.asked {request : Request} {next : request.Answer → Program Unit} {answer : request.Answer}
    (faithful : stint.Faithful) (asks : stint.program = .ask request next)
    (possible : request.Possible answer) :
    Faithful { stint with program := next answer, record := stint.record ++ [⟨request, answer⟩] } where
  loops := by
    have loops := faithful.loops
    rw [asks] at loops
    exact loops.asked possible
  due before query behind same := by
    change stint.record ++ [⟨request, answer⟩] = before ++ query :: behind at same
    obtain rfl | ⟨front, last, rfl⟩ := List.eq_nil_or_concat behind
    · obtain ⟨rfl, last⟩ := List.append_inj' same rfl
      cases last
      exact faithful.next asks
    · rw [List.concat_eq_append, ← List.cons_append, ← List.append_assoc] at same
      exact faithful.due before query front (List.append_inj' same rfl).1

theorem Faithful.turned {ρ γ : Type} {body : ρ → Program (Progress ρ γ)} {start : ρ}
    {next : γ → Program Unit} (faithful : stint.Faithful) (turns : stint.program = .iterate body start next) :
    Faithful { stint with program := Program.unfold body start next } where
  loops := by
    have loops := faithful.loops
    rw [turns] at loops
    exact loops.unfolded
  due := faithful.due

end Stint

namespace Ensemble

variable {ensemble before after last : Ensemble} {deed : Deed} {deeds past : List Deed} {index : Nat}
  {stint : Stint} {cares : Nat → Care} {poller other : PollerId} {party : Party}

section Faithful

theorem Step.faithful (step : Step before deed after) (first : ∀ stint ∈ before.stints, stint.Faithful) :
    ∀ stint ∈ after.stints, stint.Faithful := by
  apply @Step.each _ _ Stint.Faithful _ step
  case launched => exact Stint.faithful_initial
  case asked => exact fun _ asks possible faithful => faithful.asked asks possible
  case turned => exact fun _ turns faithful => faithful.turned turns
  case finished => exact fun _ faithful => ⟨faithful.loops, faithful.due⟩
  case crashed => exact fun _ faithful => ⟨faithful.loops, faithful.due⟩
  case first => exact first

theorem Path.faithful (path : Path before deeds after) (first : ∀ stint ∈ before.stints, stint.Faithful) :
    ∀ stint ∈ after.stints, stint.Faithful := by
  induction path with
  | none => exact first
  | step _ step ih => exact step.faithful ih

theorem faithful_start (version : Version) (sessions : List Session) (subscriber : PollerId → Subscriber) :
    ∀ stint ∈ (start version sessions subscriber).stints, stint.Faithful := by
  intro stint member
  obtain ⟨poller, -, rfl⟩ := List.mem_map.mp member
  exact Stint.faithful_initial ..

end Faithful

section Counts

def counts (ensemble : Ensemble) (poller : PollerId) : Counts := (ensemble.cell? poller).elim .zero (·.counts)

theorem counts_updateCell {cell : Cell} (found : ensemble.cell? poller = some cell) (tally : Tally) :
    (ensemble.updateCell poller fun cell => { cell with counts := cell.counts.add tally }).counts poller =
      (ensemble.counts poller).add tally := by
  rw [counts, counts, cell?_updateCell found, found]
  rfl

theorem counts_of_serves {request : Request} {answer : request.Answer}
    (served : serves party request before answer after) (apart : ∀ tally, request ≠ .count poller tally) :
    after.counts poller = before.counts poller := by
  cases request with
  | acquire =>
    obtain ⟨-, -, rfl⟩ := served
    rfl
  | release =>
    obtain ⟨-, rfl⟩ := served
    rfl
  | enlist =>
    obtain ⟨-, rfl⟩ := served
    exact elim_enlisted rfl
  | launch other subscriber =>
    obtain ⟨cell, found, rfl⟩ := served
    exact elim_launched found subscriber fun _ _ => rfl
  | dismiss other =>
    cases served
    exact elim_updateCell fun _ => rfl
  | claim =>
    obtain ⟨-, rfl⟩ := served
    exact elim_updateCell fun _ => rfl
  | count other tally =>
    cases served
    have elsewhere : other ≠ poller := fun same => apart tally (congrArg (Request.count · tally) same)
    rw [counts, counts, cell?_updateCell_of_ne elsewhere]
  | rest other deadline =>
    obtain ⟨-, rfl⟩ | ⟨-, rfl⟩ := served
    · rfl
    · exact elim_updateCell fun _ => rfl
  | _ =>
    obtain ⟨-, rfl⟩ := served
    rfl

theorem counts_le_of_serves {request : Request} {answer : request.Answer}
    (served : serves party request before answer after) (poller : PollerId) (tally : Tally) :
    (before.counts poller).of tally ≤ (after.counts poller).of tally := by
  by_cases counts : ∃ counted, request = .count poller counted
  · obtain ⟨counted, rfl⟩ := counts
    cases served
    cases found : before.cell? poller with
    | none =>
      have nothing : (before.counts poller).of tally = 0 := by
        rw [Ensemble.counts, found]
        cases tally <;> rfl
      rw [nothing]
      exact Nat.zero_le _
    | some cell =>
      rw [counts_updateCell found, Counts.of_add]
      exact Nat.le_add_right ..
  · exact Nat.le_of_eq (congrArg (·.of tally) (counts_of_serves served (not_exists.mp counts)).symm)

theorem Step.counts_le (step : Step before deed after) (poller : PollerId) (tally : Tally) :
    (before.counts poller).of tally ≤ (after.counts poller).of tally := by
  cases step with
  | ownerAsks _ served | stintAsks _ _ _ served =>
    have grown := counts_le_of_serves served poller tally
    exact grown
  | _ => exact Nat.le_refl _

theorem Path.counts_le (path : Path before deeds after) (poller : PollerId) (tally : Tally) :
    (before.counts poller).of tally ≤ (after.counts poller).of tally := by
  induction path with
  | none => exact Nat.le_refl _
  | step _ step ih => exact Nat.le_trans ih (step.counts_le poller tally)

end Counts

section Totals

/-- A measure of all activities that a poller has had. -/
def total (ensemble : Ensemble) (poller : PollerId) (measure : Stint → Nat) : Nat :=
  (ensemble.stints.map fun stint => if stint.poller = poller then measure stint else 0).sum

private theorem sum_map_set {α : Type*} {list : List α} {old : α} (found : list[index]? = some old)
    (measure : α → Nat) (new : α) :
    ((list.set index new).map measure).sum + measure old = (list.map measure).sum + measure new := by
  induction list generalizing index with
  | nil => cases found
  | cons head list ih =>
    cases index with
    | zero =>
      cases found
      simp only [List.set_cons_zero, List.map_cons, List.sum_cons]
      omega
    | succ index =>
      have rest := ih found
      simp only [List.set_cons_succ, List.map_cons, List.sum_cons]
      omega

theorem total_setStint {measure : Stint → Nat} {next : Stint} (found : ensemble.stints[index]? = some stint)
    (same : next.poller = stint.poller) (more : Nat) (grows : measure next = measure stint + more) :
    (ensemble.setStint index next).total poller measure =
      ensemble.total poller measure + if stint.poller = poller then more else 0 := by
  have sums := sum_map_set found (fun stint => if stint.poller = poller then measure stint else 0) next
  change (ensemble.setStint index next).total poller measure + _ = ensemble.total poller measure + _ at sums
  simp only [same, grows] at sums
  split at sums <;> split <;> first | omega | contradiction

theorem Changes.total {request : Request} {measure : Stint → Nat} (changes : Changes before request after)
    (nothing : ∀ poller kind period subscriber, measure (.initial poller kind period subscriber) = 0) :
    after.total poller measure = before.total poller measure := by
  cases changes with
  | launched => simp [Ensemble.total, Ensemble.launched, nothing]
  | _ => rfl

theorem total_congr {measure other : Stint → Nat}
    (same : ∀ stint ∈ ensemble.stints, stint.poller = poller → measure stint = other stint) :
    ensemble.total poller measure = ensemble.total poller other := by
  refine congrArg List.sum (List.map_congr_left fun stint member => ?_)
  split
  next own => exact same stint member own
  next => rfl

theorem total_eq_zero {measure : Stint → Nat}
    (nothing : ∀ stint ∈ ensemble.stints, stint.poller = poller → measure stint = 0) :
    ensemble.total poller measure = 0 := by
  rw [total, List.sum_eq_zero]
  intro share member
  obtain ⟨stint, inside, rfl⟩ := List.mem_map.mp member
  split
  next own => exact nothing stint inside own
  next => rfl

theorem total_le_total {measure other : Stint → Nat}
    (le : ∀ stint ∈ ensemble.stints, stint.poller = poller → measure stint ≤ other stint) :
    ensemble.total poller measure ≤ ensemble.total poller other := by
  refine List.sum_le_sum fun stint member => ?_
  split
  next own => exact le stint member own
  next => exact Nat.le_refl _

theorem total_add (measure other : Stint → Nat) :
    ensemble.total poller (fun stint => measure stint + other stint) =
      ensemble.total poller measure + ensemble.total poller other := by
  rw [total, total, total, ← List.sum_map_add]
  refine congrArg List.sum (List.map_congr_left fun stint _ => ?_)
  split <;> rfl

end Totals

section Booked

/-- What pollers have counted is what their activities have counted. -/
def Booked (ensemble : Ensemble) : Prop := ∀ poller tally,
  (ensemble.counts poller).of tally = ensemble.total poller (·.record.tallied tally)

theorem Valid.uncounted {session : Session} {errand : Errand} {tally : Tally} {next : Unit → Program Session}
    (valid : ensemble.Valid cares)
    (due : ensemble.owners[index]? = some (.busy session errand (.ask (.count poller tally) next))) :
    False := by
  have tends := valid.tended _ _ due
  cases tends with
  | plain plain => exact plain

theorem Booked.asked {request : Request} {next : request.Answer → Program Unit} {answer : request.Answer}
    (booked : before.Booked) (housed : before.Housed) (due : before.stints[index]? = some stint)
    (faithful : stint.Faithful) (asks : stint.program = .ask request next)
    (served : serves party request before answer after) : (after.setStint index
      { stint with program := next answer, record := stint.record ++ [⟨request, answer⟩] }).Booked := by
  intro poller tally
  have changes := serves_changes served
  have totals : (after.setStint index
      { stint with program := next answer, record := stint.record ++ [⟨request, answer⟩] }).total poller
        (·.record.tallied tally) = before.total poller (·.record.tallied tally) +
      if stint.poller = poller then Record.tallied [⟨request, answer⟩] tally else 0 := by
    rw [← changes.total fun _ _ _ _ => rfl]
    apply total_setStint (changes.stint due)
    · rfl
    · exact Record.tallied_append ..
  rw [totals, ← booked poller tally]
  change (after.counts poller).of tally = _
  have own {counted : PollerId} {tally : Tally} (counts : request = .count counted tally) :
      counted = stint.poller := by
    have next := faithful.next asks
    rw [counts] at next
    exact next.1
  by_cases counts : ∃ counted, request = .count poller counted
  · obtain ⟨counted, rfl⟩ := counts
    obtain rfl := own rfl
    have known := List.getElem?_eq_getElem (housed stint (List.mem_of_getElem? due))
    cases served
    rw [counts_updateCell known, Counts.of_add, if_pos rfl]
    cases counted <;> cases tally <;> rfl
  · have nothing (mine : stint.poller = poller) : Record.tallied [⟨request, answer⟩] tally = 0 := by
      cases request with
      | count other counted =>
        obtain rfl := own rfl
        exact absurd ⟨counted, congrArg (Request.count · counted) mine⟩ counts
      | _ => rfl
    rw [counts_of_serves served (not_exists.mp counts)]
    split
    next mine => rw [nothing mine, Nat.add_zero]
    next => rfl

theorem Booked.step (booked : before.Booked) (valid : before.Valid cares)
    (faithful : ∀ stint ∈ before.stints, stint.Faithful) (step : Step before deed after) : after.Booked := by
  have kept {position : Nat} {old next : Stint} (due : before.stints[position]? = some old)
      (same : next.poller = old.poller) (record : next.record = old.record) :
      (before.setStint position next).Booked := by
    intro poller tally
    have total := @total_setStint before position old poller (·.record.tallied tally) next due same 0
      (congrArg (·.tallied tally) record)
    rw [total, ite_self, Nat.add_zero]
    exact booked poller tally
  cases step with
  | pass | begin | finish | ownerTurns => exact booked
  | @ownerAsks index session errand request next answer middle due served =>
    intro poller tally
    change (middle.counts poller).of tally = middle.total poller _
    rw [(serves_changes served).total fun _ _ _ _ => rfl]
    rw [counts_of_serves served fun counted same => by
      subst same
      exact valid.uncounted due]
    exact booked poller tally
  | stintAsks due _ asks served =>
    exact booked.asked valid.housed due (faithful _ (List.mem_of_getElem? due)) asks served
  | stintTurns due | stintEnds due | stintCrashes due => exact kept due rfl rfl

theorem booked_start (version : Version) (sessions : List Session) (subscriber : PollerId → Subscriber) :
    (start version sessions subscriber).Booked := by
  intro poller tally
  have nothing : (start version sessions subscriber).counts poller = .zero := by
    simp only [counts, cell?, start, List.getElem?_map]
    cases (sessions.flatMap Session.owned)[poller.index]? <;> rfl
  have silent : (start version sessions subscriber).total poller (·.record.tallied tally) = 0 := by
    apply total_eq_zero
    intro stint member _
    obtain ⟨launched, -, rfl⟩ := List.mem_map.mp member
    rfl
  rw [nothing, silent]
  cases tally <;> rfl

theorem Booked.path (booked : before.Booked) (sound : before.Sound)
    (faithful : ∀ stint ∈ before.stints, stint.Faithful) (path : Path before deeds after) :
    after.Booked := by
  induction path with
  | none => exact booked
  | step path step ih =>
    obtain ⟨cares, valid⟩ := (sound.path path).valid
    exact ih.step valid (path.faithful faithful) step

end Booked
end Ensemble
end FlightLink
