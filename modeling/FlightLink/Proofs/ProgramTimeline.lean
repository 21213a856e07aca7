import FlightLink.Duration
import FlightLink.Proofs.ProgramRecord

/-! Surroundings with a clock, of which nothing else is known. A request is asked at some time and
answered at some later time, and a sleep is as long as a runtime lets it be. -/

namespace FlightLink

namespace Duration

/-- How many nanoseconds a sleep lasts at least. -/
def slept (span : Duration) : Nat := min span.nanoseconds (30 * 365 * 86400000 * 1000000)

/-- Timers that tick in whole milliseconds end no sleep too early. -/
theorem slept_le_sleepMillis (span : Duration) :
    span.slept ≤ (ofMillis (sleepMillis span.ceilMillis)).nanoseconds := by
  have rounded : span.nanoseconds ≤ span.ceilMillis * 1000000 := by
    simp only [ceilMillis]
    omega
  simp only [slept, ofMillis, sleepMillis]
  omega

end Duration

structure Moment where
  query : Query
  asked : Nat
  answered : Nat

abbrev Timeline := List Moment

namespace Timeline

variable {α : Type} {program : Program α} {before after : Timeline} {result : α}

def record (timeline : Timeline) : Record := timeline.map (·.query)

@[simp] theorem record_append {timeline more : Timeline} :
    record (timeline ++ more) = timeline.record ++ more.record := List.map_append

/-- Whatever a request is answered, and whenever. -/
def passes : Surroundings Timeline := fun request before answer after =>
  request.Possible answer ∧ ∃ asked answered, (∀ earlier ∈ before, earlier.answered ≤ asked) ∧
    asked ≤ answered ∧ (∀ span, request = .sleep span → asked + span.slept ≤ answered) ∧
    after = before ++ [⟨⟨request, answer⟩, asked, answered⟩]

/-- One request after the other, and every sleep lasts. -/
structure Orderly (timeline : Timeline) : Prop where
  ordered : timeline.Pairwise fun earlier later => earlier.answered ≤ later.asked
  slept : ∀ moment ∈ timeline, ∀ span, moment.query.request = .sleep span →
    moment.asked + span.slept ≤ moment.answered

theorem orderly_nil : Orderly [] := ⟨.nil, fun _ member => nomatch member⟩

private theorem Orderly.passes {request : Request} {answer : request.Answer} (orderly : before.Orderly)
    (given : passes request before answer after) : after.Orderly := by
  obtain ⟨-, asked, answered, behind, -, lasts, rfl⟩ := given
  constructor
  · apply List.pairwise_append.mpr
    refine ⟨orderly.ordered, List.pairwise_singleton .., fun earlier member later last => ?_⟩
    rw [List.mem_singleton.mp last]
    exact behind earlier member
  · intro moment member
    obtain earlier | last := List.mem_append.mp member
    · exact orderly.slept moment earlier
    · rw [List.mem_singleton.mp last]
      exact lasts

theorem orderly_of_runs (runs : program.Runs passes before result after) (orderly : before.Orderly) :
    after.Orderly := by
  induction runs with
  | pure => exact orderly
  | ask answered _ ih => exact ih (orderly.passes answered)
  | iterate _ ih => exact ih orderly

theorem runs_record (runs : program.Runs passes before result after) :
    program.Runs Record.anything before.record result after.record := by
  induction runs with
  | pure => exact .pure
  | ask answered _ ih =>
    obtain ⟨possible, asked, _, -, -, -, rfl⟩ := answered
    rw [record_append] at ih
    exact .ask ⟨possible, rfl⟩ ih
  | iterate _ ih => exact .iterate ih

private theorem exists_latest (timeline : Timeline) :
    ∃ latest, ∀ earlier ∈ timeline, earlier.answered ≤ latest := by
  induction timeline with
  | nil => exact ⟨0, fun _ member => nomatch member⟩
  | cons moment timeline ih =>
    obtain ⟨latest, behind⟩ := ih
    refine ⟨max moment.answered latest, fun earlier member => ?_⟩
    obtain rfl | member := List.mem_cons.mp member
    · exact Nat.le_max_left ..
    · exact Nat.le_trans (behind earlier member) (Nat.le_max_right ..)

theorem exists_runs {record later : Record} (runs : program.Runs Record.anything record result later)
    (same : before.record = record) :
    ∃ after, program.Runs passes before result after ∧ after.record = later := by
  induction runs generalizing before with
  | pure => exact ⟨before, .pure, same⟩
  | @ask request _ _ _ _ answer _ answered _ ih =>
    obtain ⟨possible, rfl⟩ := answered
    obtain ⟨latest, behind⟩ := before.exists_latest
    have lasts : ∃ answered, latest ≤ answered ∧
        ∀ span, request = .sleep span → latest + span.slept ≤ answered := by
      cases request with
      | sleep span =>
        refine ⟨latest + span.slept, Nat.le_add_right .., fun other same => ?_⟩
        cases same
        exact Nat.le_refl _
      | _ => exact ⟨latest, Nat.le_refl _, fun _ same => nomatch same⟩
    obtain ⟨answered, later, lasts⟩ := lasts
    obtain ⟨after, rest, recorded⟩ :=
      @ih (before ++ [⟨⟨request, answer⟩, latest, answered⟩]) (by rw [record_append, same]; rfl)
    exact ⟨after, .ask ⟨possible, latest, answered, behind, later, lasts, rfl⟩ rest, recorded⟩
  | iterate _ ih =>
    obtain ⟨after, round, recorded⟩ := ih same
    exact ⟨after, .iterate round, recorded⟩

namespace Orderly

variable {timeline more : Timeline}

theorem left (orderly : (timeline ++ more).Orderly) : timeline.Orderly where
  ordered := (List.pairwise_append.mp orderly.ordered).1
  slept moment member := orderly.slept moment (List.mem_append_left _ member)

theorem right (orderly : (timeline ++ more).Orderly) : more.Orderly where
  ordered := (List.pairwise_append.mp orderly.ordered).2.1
  slept moment member := orderly.slept moment (List.mem_append_right _ member)

/-- What comes before a sleep and what comes after it are as far apart as the sleep is long. -/
theorem apart {pause : Moment} {span : Duration} (orderly : (timeline ++ pause :: more).Orderly)
    (sleeps : pause.query.request = .sleep span) {earlier later : Moment} (first : earlier ∈ timeline)
    (last : later ∈ more) : earlier.answered + span.slept ≤ later.asked := by
  obtain ⟨-, behind, before⟩ := List.pairwise_append.mp orderly.ordered
  have lasts := orderly.slept pause (by simp) span sleeps
  have asleep := before earlier first pause (List.mem_cons_self ..)
  have awake := (List.pairwise_cons.mp behind).1 later last
  omega

end Orderly
end Timeline
end FlightLink
