import FlightLink.Proofs.ActivityProgress
import FlightLink.Proofs.Ensemble

/-! The activities of an ensemble. Whatever the others do, what an activity has asked is whole turns and
the beginning of one more. Nobody but the activity itself ends a turn: one that is over has been told that
its poller is unwanted, or its subscriber broke down over the message of a whole poll. -/

namespace FlightLink

open Program (Ends)

namespace Stint

structure Orderly (stint : Stint) : Prop where
  stands : Poller.Stands stint.poller stint.kind stint.period stint.subscriber stint.program stint.record
  ended : stint.ending = some .finished → stint.program = .pure ()
  broken : stint.ending = some .crashed → ∃ subscriber ordinal message next,
    stint.program = .ask (.deliver subscriber ordinal message) next

variable {stint : Stint}

theorem orderly_initial (poller : PollerId) (kind : Message.Kind) (period : Duration)
    (subscriber : Subscriber) : (initial poller kind period subscriber).Orderly :=
  ⟨.start, nofun, nofun⟩

/-- What an activity has asked. -/
inductive Whole (stint : Stint) : Prop
  | between {delivered} (underWay : stint.ending = none)
      (turns : Poller.Turns stint.poller stint.kind stint.period stint.subscriber stint.record delivered)
      (goesOn : stint.program =
        Poller.behind stint.poller stint.kind stint.period stint.subscriber (.more delivered))
  /-- It stands in a turn, which comes to its end as a whole. -/
  | within {whole said delivered} {rest : Program (Progress Nat Unit)} (underWay : stint.ending = none)
      (turns : Poller.Turns stint.poller stint.kind stint.period stint.subscriber whole delivered)
      (same : stint.record = whole ++ said)
      (goesOn : stint.program =
        rest.bind (Poller.behind stint.poller stint.kind stint.period stint.subscriber))
      (ends : ∀ most, said.delivered.length ≤ most → rest.Ends (Record.scarce most)
        (fun progress after => Poller.Rounded stint.poller stint.kind stint.period stint.subscriber
          delivered after progress) said)
  /-- It was told that its poller is unwanted. -/
  | finished {whole delivered} (past : stint.ending = some .finished)
      (turns : Poller.Turns stint.poller stint.kind stint.period stint.subscriber whole delivered)
      (same : stint.record = whole ++ [⟨.isWanted stint.poller, false⟩])
  /-- Its subscriber broke down over the message of a poll. -/
  | crashed {whole delivered began polled message} (past : stint.ending = some .crashed)
      (turns : Poller.Turns stint.poller stint.kind stint.period stint.subscriber whole delivered)
      (polls : Poller.Polls stint.kind polled (.ok message))
      (same : stint.record = whole ++ ⟨.isWanted stint.poller, true⟩ :: ⟨.now, began⟩ :: polled)

theorem Orderly.whole (orderly : stint.Orderly) : stint.Whole := by
  have stands := orderly.stands
  cases past : stint.ending with
  | none =>
    generalize here : stint.program = program, said : stint.record = record at stands
    cases stands with
    | between turns => exact .between past (said ▸ turns) here
    | within turns reaches =>
      exact .within past turns said here fun most room => Poller.ends_round reaches room
  | some ending =>
    cases ending with
    | finished =>
      rw [orderly.ended past] at stands
      obtain ⟨whole, delivered, turns, same⟩ := stands.ended
      exact .finished past turns same
    | crashed =>
      obtain ⟨subscriber, ordinal, message, next, delivers⟩ := orderly.broken past
      rw [delivers] at stands
      obtain ⟨whole, delivered, began, polled, turns, polls, same⟩ := stands.delivers
      exact .crashed past turns polls same

end Stint

namespace Ensemble

variable {before after : Ensemble}

theorem Changes.mem_stints {request : Request} (changes : Changes before request after) {stint : Stint}
    (member : stint ∈ after.stints) : stint ∈ before.stints ∨
      ∃ poller kind period subscriber, stint = .initial poller kind period subscriber := by
  cases changes with
  | launched =>
    obtain member | last := List.mem_append.mp member
    · exact .inl member
    · exact .inr ⟨_, _, _, _, List.mem_singleton.mp last⟩
  | _ => exact .inl member

/-- What holds of an activity at its launch, and whatever it does, holds of all activities. -/
theorem Step.each {kept : Stint → Prop} {deed : Deed} (step : Step before deed after)
    (launched : ∀ poller kind period subscriber, kept (.initial poller kind period subscriber))
    (asked : ∀ {stint : Stint} {request : Request} {next : request.Answer → Program Unit} {answer},
      stint.ending = none → stint.program = .ask request next → request.Possible answer → kept stint →
      kept { stint with program := next answer, record := stint.record ++ [⟨request, answer⟩] })
    (turned : ∀ {stint : Stint} {ρ γ : Type} {body : ρ → Program (Progress ρ γ)} {start : ρ}
      {next : γ → Program Unit}, stint.ending = none → stint.program = .iterate body start next →
      kept stint → kept { stint with program := Program.unfold body start next })
    (finished : ∀ {stint : Stint}, stint.program = .pure () → kept stint →
      kept { stint with ending := some .finished })
    (crashed : ∀ {stint : Stint} {subscriber ordinal message} {next : Unit → Program Unit},
      stint.program = .ask (.deliver subscriber ordinal message) next → kept stint →
      kept { stint with ending := some .crashed })
    (first : ∀ stint ∈ before.stints, kept stint) : ∀ stint ∈ after.stints, kept stint := by
  have found {index : Nat} {stint : Stint} (due : before.stints[index]? = some stint) : kept stint :=
    first stint (List.mem_of_getElem? due)
  have served {request : Request} {middle : Ensemble} (changes : Changes before request middle) :
      ∀ stint ∈ middle.stints, kept stint := by
    intro stint member
    obtain member | ⟨poller, kind, period, subscriber, rfl⟩ := changes.mem_stints member
    · exact first stint member
    · exact launched ..
  have replaced {middle : Ensemble} (all : ∀ stint ∈ middle.stints, kept stint) (index : Nat) {next : Stint}
      (own : kept next) : ∀ stint ∈ (middle.setStint index next).stints, kept stint := by
    intro stint member
    obtain member | rfl := List.mem_or_eq_of_mem_set member
    · exact all stint member
    · exact own
  cases step with
  | pass | begin | finish | ownerTurns => exact first
  | ownerAsks _ serves =>
    have all := served (serves_changes serves)
    exact all
  | stintAsks due underWay asks serves =>
    have own := asked underWay asks (serves_possible serves) (found due)
    exact replaced (served (serves_changes serves)) _ own
  | stintTurns due underWay turns => exact replaced first _ (turned underWay turns (found due))
  | stintEnds due _ past => exact replaced first _ (finished past (found due))
  | stintCrashes due _ delivers => exact replaced first _ (crashed delivers (found due))

def Orderly (ensemble : Ensemble) : Prop := ∀ stint ∈ ensemble.stints, stint.Orderly

theorem Orderly.step {deed : Deed} (orderly : before.Orderly) (step : Step before deed after) :
    after.Orderly := by
  apply @Step.each _ _ Stint.Orderly _ step
  case launched => exact Stint.orderly_initial
  case asked =>
    intro stint request next answer underWay asks possible orderly
    have stands := orderly.stands
    rw [asks] at stands
    refine ⟨stands.asked possible, fun past => ?_, fun past => ?_⟩
    · cases underWay.symm.trans past
    · cases underWay.symm.trans past
  case turned =>
    intro stint ρ γ body start next underWay turns orderly
    have stands := orderly.stands
    rw [turns] at stands
    refine ⟨stands.unfolded, fun past => ?_, fun past => ?_⟩
    · cases underWay.symm.trans past
    · cases underWay.symm.trans past
  case finished => exact fun past orderly => ⟨orderly.stands, fun _ => past, nofun⟩
  case crashed => exact fun delivers orderly => ⟨orderly.stands, nofun, fun _ => ⟨_, _, _, _, delivers⟩⟩
  case first => exact orderly

theorem Orderly.path {deeds : List Deed} (orderly : before.Orderly) (path : Path before deeds after) :
    after.Orderly := by
  induction path with
  | none => exact orderly
  | step _ step ih => exact ih.step step

theorem orderly_start (version : Version) (sessions : List Session) (subscriber : PollerId → Subscriber) :
    (start version sessions subscriber).Orderly := by
  intro stint member
  obtain ⟨poller, -, rfl⟩ := List.mem_map.mp member
  exact Stint.orderly_initial ..

end Ensemble
end FlightLink
