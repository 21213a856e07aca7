import Mathlib.Data.Bool.Basic
import FlightLink.Proofs.Ensemble

/-! Wake-ups that wait for a poller. A dismissal leaves one behind, a rest that is cut short takes
it, and nothing else has to do with it: neither the end of an activity nor the launch of another. -/

namespace FlightLink

def Deed.Dismisses (poller : PollerId) : Deed → Prop
  | .asked _ query => query.request = .dismiss poller
  | _ => False

def Deed.Rests (poller : PollerId) : Deed → Prop
  | .asked _ query => ∃ deadline, query.request = .rest poller deadline
  | _ => False

/-- How many wake-ups wait for a poller: one, or none. -/
def Ensemble.wakeUps (ensemble : Ensemble) (poller : PollerId) : Nat :=
  ((ensemble.cell? poller).any (·.wakeUp)).toNat

namespace Ensemble

variable {ensemble before after : Ensemble} {poller other : PollerId} {party : Party} {deed : Deed}
  {deeds : List Deed}

private theorem wakeUps_eq_elim :
    ensemble.wakeUps poller = (ensemble.cell? poller).elim 0 (·.wakeUp.toNat) := by
  rw [wakeUps]
  cases ensemble.cell? poller <;> rfl

private theorem wakeUps_congr (same : after.cell? poller = before.cell? poller) :
    after.wakeUps poller = before.wakeUps poller := by
  simp only [wakeUps, same]

private theorem wakeUps_updateCell {change : Cell → Cell}
    (keeps : ∀ cell, (change cell).wakeUp = cell.wakeUp) :
    (ensemble.updateCell other change).wakeUps poller = ensemble.wakeUps poller := by
  rw [wakeUps_eq_elim, wakeUps_eq_elim]
  exact elim_updateCell fun cell => congrArg Bool.toNat (keeps cell)

private theorem wakeUps_enlisted {cell : Cell} (fresh : cell.wakeUp = false) :
    (ensemble.enlisted cell).wakeUps poller = ensemble.wakeUps poller := by
  rw [wakeUps_eq_elim, wakeUps_eq_elim]
  exact elim_enlisted (congrArg Bool.toNat fresh)

private theorem wakeUps_launched {cell : Cell} (found : ensemble.cell? other = some cell)
    (subscriber : Subscriber) :
    (ensemble.launched other cell subscriber).wakeUps poller = ensemble.wakeUps poller := by
  rw [wakeUps_eq_elim, wakeUps_eq_elim]
  exact elim_launched found subscriber fun _ _ => rfl

theorem wakeUps_used (woken : (ensemble.cell? poller).any (·.wakeUp) = true) :
    (ensemble.updateCell poller fun cell => { cell with wakeUp := false }).wakeUps poller + 1 =
      ensemble.wakeUps poller := by
  cases found : ensemble.cell? poller with
  | none => simp [found] at woken
  | some cell =>
    rw [found] at woken
    have waits : cell.wakeUp = true := woken
    simp only [wakeUps, cell?_updateCell found, found, Option.any_some, waits]
    rfl

theorem Changes.clock {request : Request} (changes : Changes before request after) :
    after.clock = before.clock := by
  cases changes <;> rfl

/-- A dismissal leaves a wake-up, and a rest that is cut short takes it. -/
theorem wakeUps_of_serves {request : Request} {answer : request.Answer}
    (served : serves party request before answer after) (poller : PollerId) :
    after.wakeUps poller = before.wakeUps poller ∨
      request = .dismiss poller ∧ after = before.dismissed poller ∨
      ∃ deadline, request = .rest poller deadline ∧ after.wakeUps poller + 1 = before.wakeUps poller := by
  cases request with
  | acquire =>
    obtain ⟨-, -, rfl⟩ := served
    exact .inl rfl
  | release =>
    obtain ⟨-, rfl⟩ := served
    exact .inl rfl
  | enlist =>
    obtain ⟨-, rfl⟩ := served
    exact .inl (wakeUps_enlisted rfl)
  | launch other subscriber =>
    obtain ⟨cell, found, rfl⟩ := served
    exact .inl (wakeUps_launched found subscriber)
  | dismiss other =>
    cases served
    by_cases same : other = poller
    · exact .inr (.inl ⟨same ▸ rfl, same ▸ rfl⟩)
    · exact .inl (wakeUps_congr (cell?_updateCell_of_ne same _))
  | claim =>
    obtain ⟨-, rfl⟩ := served
    exact .inl (wakeUps_updateCell fun _ => rfl)
  | count =>
    cases served
    exact .inl (wakeUps_updateCell fun _ => rfl)
  | rest other deadline =>
    obtain ⟨-, rfl⟩ | ⟨woken, rfl⟩ := served
    · exact .inl rfl
    · by_cases same : other = poller
      · subst same
        exact .inr (.inr ⟨deadline, rfl, wakeUps_used woken⟩)
      · exact .inl (wakeUps_congr (cell?_updateCell_of_ne same _))
  | _ =>
    obtain ⟨-, rfl⟩ := served
    exact .inl rfl

theorem wakeUps_le_one (ensemble : Ensemble) (poller : PollerId) : ensemble.wakeUps poller ≤ 1 :=
  Bool.toNat_le _

theorem wakeUps_dismissed {cell : Cell} (found : ensemble.cell? poller = some cell) :
    (ensemble.dismissed poller).wakeUps poller = 1 := by
  simp only [wakeUps, dismissed, cell?_updateCell found, Option.any_some]
  rfl

theorem wakeUps_le_of_serves {request : Request} {answer : request.Answer}
    (served : serves party request before answer after) (apart : request ≠ .dismiss poller) :
    after.wakeUps poller ≤ before.wakeUps poller := by
  obtain same | ⟨rfl, -⟩ | ⟨_, -, used⟩ := wakeUps_of_serves served poller
  · exact Nat.le_of_eq same
  · exact absurd rfl apart
  · exact used ▸ Nat.le_succ _

theorem le_wakeUps_of_serves {request : Request} {answer : request.Answer}
    (served : serves party request before answer after)
    (apart : ∀ deadline, request ≠ .rest poller deadline) :
    before.wakeUps poller ≤ after.wakeUps poller := by
  obtain same | ⟨-, rfl⟩ | ⟨deadline, rfl, -⟩ := wakeUps_of_serves served poller
  · exact Nat.le_of_eq same.symm
  · cases found : before.cell? poller with
    | none => simp [wakeUps, found]
    | some cell => exact wakeUps_dismissed found ▸ wakeUps_le_one ..
  · exact absurd rfl (apart deadline)

theorem Step.wakeUps_le (step : Step before deed after) (apart : ¬ deed.Dismisses poller) :
    after.wakeUps poller ≤ before.wakeUps poller := by
  cases step with
  | ownerAsks _ served | stintAsks _ _ _ served =>
    have lower : _ ≤ before.wakeUps poller := wakeUps_le_of_serves served apart
    exact lower
  | _ => exact Nat.le_refl _

theorem Step.le_wakeUps (step : Step before deed after) (apart : ¬ deed.Rests poller) :
    before.wakeUps poller ≤ after.wakeUps poller := by
  cases step with
  | ownerAsks _ served | stintAsks _ _ _ served =>
    have lower : before.wakeUps poller ≤ _ :=
      le_wakeUps_of_serves served fun deadline rests => apart ⟨deadline, rests⟩
    exact lower
  | _ => exact Nat.le_refl _

theorem Path.wakeUps_le (path : Path before deeds after) (apart : ∀ deed ∈ deeds, ¬ deed.Dismisses poller) :
    after.wakeUps poller ≤ before.wakeUps poller := by
  apply path.keeps apart (Nat.le_refl _)
  exact fun step apart earlier => Nat.le_trans (step.wakeUps_le apart) earlier

theorem Path.le_wakeUps (path : Path before deeds after) (apart : ∀ deed ∈ deeds, ¬ deed.Rests poller) :
    before.wakeUps poller ≤ after.wakeUps poller := by
  apply path.keeps apart (Nat.le_refl _)
  exact fun step apart earlier => Nat.le_trans earlier (step.le_wakeUps apart)

theorem wakeUps_start (version : Version) (sessions : List Session) (subscriber : PollerId → Subscriber)
    (poller : PollerId) : (start version sessions subscriber).wakeUps poller = 0 := by
  simp only [wakeUps, cell?, start, List.getElem?_map]
  cases (sessions.flatMap Session.owned)[poller.index]? <;> rfl

theorem Step.wakeUps_of_dismisses (step : Step before deed after) (dismisses : deed.Dismisses poller)
    (known : before.cell? poller ≠ none) : after.wakeUps poller = 1 := by
  obtain ⟨cell, found⟩ := Option.ne_none_iff_exists'.mp known
  have woken {party : Party} {request : Request} {answer : request.Answer} {middle : Ensemble}
      (served : serves party request before answer middle) (dismissal : request = .dismiss poller) :
      middle.wakeUps poller = 1 := by
    subst dismissal
    cases served
    exact wakeUps_dismissed found
  cases step with
  | ownerAsks _ served | stintAsks _ _ _ served =>
    have left := woken served dismisses
    exact left
  | _ => cases dismisses

end Ensemble
end FlightLink
