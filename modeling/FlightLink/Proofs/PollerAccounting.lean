import FlightLink.Proofs.ActivityMemory
import FlightLink.Proofs.CounterTotals
import FlightLink.Proofs.SubscriberFailure

/-! The counters of pollers, through any polls, stops and launches. Whenever a poller's activity may have to
wait, its counters tell how often its subscriber was called, how many polls failed, and how many took longer
than the period. What is delivered is what the poll directly before got, also when one message and one buffer
are used again and again. A subscriber that breaks down leaves the link to others, and nothing of its
poller. -/

namespace FlightLink

open Program (Reaches)

namespace Poller

/-- The last thing that was done is a poll, the message is what the payload of its transaction carries, and it
did not fail. -/
structure Fetched (id : PollerId) (kind : Message.Kind) (before : Record) (message : Message) : Prop where
  carried : ∃ payload, Polled id kind before (.ok (), payload) ∧ kind.decode payload = .ok message
  only : ∀ outcome, Polled id kind before outcome → result kind outcome = .ok message

theorem Due.fetched {id : PollerId} {kind : Message.Kind} {subscriber taker : Subscriber} {before : Record}
    {ordinal : Nat} {message : Message}
    (due : Due id kind subscriber before (.deliver taker ordinal message)) :
    taker = subscriber ∧ Fetched id kind before message := by
  obtain ⟨rfl, outcome, polled, got⟩ := due
  obtain ⟨payload, rfl, decoded⟩ := result_eq_ok_iff.mp got
  refine ⟨rfl, ⟨payload, polled, decoded⟩, fun other polledToo => ?_⟩
  rw [← polled.unique polledToo]
  exact got

end Poller

namespace Stint

def breakdowns (stint : Stint) : Nat := if stint.ending = some .crashed then 1 else 0

/-- How often the subscriber was called. It came back from each call but one over which it broke down. -/
def calls (stint : Stint) : Nat := stint.record.deliveries + stint.breakdowns

def overlong (stint : Stint) : Nat := stint.record.overlong stint.period

theorem balanced {stint : Stint} (faithful : stint.Faithful) (orderly : stint.Orderly)
    (paused : stint.ending = none → stint.program.Paused) : stint.record.Balanced stint.period := by
  refine Poller.balanced_of_loops faithful.loops ?_
  cases past : stint.ending with
  | none => exact (paused past).even
  | some ending =>
    cases ending with
    | finished =>
      rw [orderly.ended past]
      exact Program.even_pure ()
    | crashed =>
      obtain ⟨subscriber, ordinal, message, next, delivers⟩ := orderly.broken past
      rw [delivers]
      rintro request rest same
      cases same
      exact trivial

end Stint

namespace Ensemble

variable {ensemble after last : Ensemble} {deeds past : List Deed} {index : Nat} {stint : Stint}
  {poller : PollerId}

/-- If an activity of the poller goes on, it may have to wait. -/
def Paused (ensemble : Ensemble) (poller : PollerId) : Prop :=
  ∀ stint ∈ ensemble.stints, stint.poller = poller → stint.ending = none → stint.program.Paused

section Balance

variable (booked : ensemble.Booked) (faithful : ∀ stint ∈ ensemble.stints, stint.Faithful)
  (orderly : ensemble.Orderly)
include booked faithful orderly

theorem calls_counted (paused : ensemble.Paused poller) :
    (ensemble.counts poller).iterations + ensemble.total poller Stint.breakdowns =
      ensemble.total poller Stint.calls + (ensemble.counts poller).failures := by
  have iterations := booked poller .iteration
  have failures := booked poller .failure
  have balanced : ensemble.total poller (·.record.tallied .iteration) =
      ensemble.total poller fun stint => stint.record.deliveries + stint.record.tallied .failure :=
    total_congr fun stint member own =>
      (Stint.balanced (faithful stint member) (orderly stint member) (paused stint member own)).iterations
  have calls : ensemble.total poller Stint.calls =
      ensemble.total poller (·.record.deliveries) + ensemble.total poller Stint.breakdowns := total_add ..
  rw [total_add] at balanced
  change (ensemble.counts poller).iterations = _ at iterations
  change (ensemble.counts poller).failures = _ at failures
  omega

theorem overruns_counted (paused : ensemble.Paused poller) :
    (ensemble.counts poller).overruns = ensemble.total poller Stint.overlong ∧
      (ensemble.counts poller).overruns ≤ (ensemble.counts poller).iterations := by
  have balanced (stint : Stint) (member : stint ∈ ensemble.stints) (own : stint.poller = poller) :
      stint.record.Balanced stint.period :=
    Stint.balanced (faithful stint member) (orderly stint member) (paused stint member own)
  have overruns := booked poller .overrun
  have iterations := booked poller .iteration
  change (ensemble.counts poller).overruns = _ at overruns
  change (ensemble.counts poller).iterations = _ at iterations
  rw [overruns, iterations]
  refine ⟨total_congr fun stint member own => (balanced stint member own).overruns, ?_⟩
  exact total_le_total fun stint member own => (balanced stint member own).overruns_le

end Balance

/-- What the accounts of pollers come to, and what may follow. -/
structure Accounting (past : List Deed) (ensemble : Ensemble) : Prop where
  single : ensemble.Single
  /-- Whenever it may have to wait, and when none goes on, the iterations are the calls of subscribers, but
  for those over which they broke down, and the failures. -/
  balanced {poller : PollerId} : ensemble.Paused poller →
    (ensemble.counts poller).iterations + ensemble.total poller Stint.breakdowns =
      ensemble.total poller Stint.calls + (ensemble.counts poller).failures
  unbroken {poller : PollerId} : ensemble.Paused poller →
    (∀ stint ∈ ensemble.stints, stint.poller = poller → stint.ending ≠ some .crashed) →
    (ensemble.counts poller).iterations =
      ensemble.total poller Stint.calls + (ensemble.counts poller).failures
  /-- The overruns are the polls that took longer than the period. -/
  overran {poller : PollerId} : ensemble.Paused poller →
    (ensemble.counts poller).overruns = ensemble.total poller Stint.overlong ∧
      (ensemble.counts poller).overruns ≤ (ensemble.counts poller).iterations
  grows {deeds : List Deed} {after : Ensemble} : Path ensemble deeds after → ∀ poller tally,
    (ensemble.counts poller).of tally ≤ (after.counts poller).of tally
  /-- What is delivered is what the poll directly before got. -/
  delivered {stint : Stint} {before behind : Record} {taker : Subscriber} {ordinal : Nat}
    {message : Message} :
    stint ∈ ensemble.stints → stint.record = before ++ ⟨.deliver taker ordinal message, ()⟩ :: behind →
    taker = stint.subscriber ∧ Poller.Fetched stint.poller stint.kind before message
  /-- What is counted as a failure is that the poll directly before failed. -/
  failed {stint : Stint} {before behind : Record} {poller : PollerId} :
    stint ∈ ensemble.stints → stint.record = before ++ ⟨.count poller .failure, ()⟩ :: behind →
    ∃ outcome fault, Poller.Polled stint.poller stint.kind before outcome ∧
      Poller.result stint.kind outcome = .error fault
  /-- An activity may reuse one message and one buffer for all its polls, and begin with the message of an
  activity before it: what it does is the same. -/
  reused {stint : Stint} {message : Message} {record : Record} : stint ∈ ensemble.stints →
    message.kind = stint.kind →
    ((∃ final, Reaches Record.anything
      (Poller.reusing stint.poller stint.period stint.subscriber message) [] final record) ↔
      ∃ final, Reaches Record.anything
        (Poller.activity stint.poller stint.kind stint.period stint.subscriber) [] final record)
  /-- A subscriber breaks down over what the last poll got. The activity has given the link back, and its
  poller counts nothing for it. -/
  broken {index : Nat} {after : Ensemble} : Step ensemble (.ended ⟨index⟩ .crashed) after →
    ∃ stint taker ordinal message next, ensemble.stints[index]? = some stint ∧
      stint.program = .ask (.deliver taker ordinal message) next ∧ taker = stint.subscriber ∧
      Poller.Fetched stint.poller stint.kind stint.record message ∧ GaveBack past ensemble index ∧
      ∀ poller, after.counts poller = ensemble.counts poller
  /-- After that no activity of the poller does anything, until one is launched. -/
  silenced {index : Nat} {stint : Stint} {deeds : List Deed} {after last : Ensemble} :
    ensemble.stints[index]? = some stint → Step ensemble (.ended ⟨index⟩ .crashed) after →
    Path after deeds last → (∀ deed ∈ deeds, ¬ deed.Launches stint.poller) →
    (∀ position, ¬ last.Live stint.poller position) ∧
      ∀ deed ∈ deeds, ∀ position later, deed.party? = some (.activity ⟨position⟩) →
        last.stints[position]? = some later → later.poller ≠ stint.poller

theorem Single.silent_of_crashed (single : ensemble.Single) (found : ensemble.stints[index]? = some stint)
    (step : Step ensemble (.ended ⟨index⟩ .crashed) after) (position : Nat) :
    ¬ after.Live stint.poller position := by
  intro live
  have lived := step.was_live nofun live
  cases step with
  | stintCrashes due underWay =>
    cases found.symm.trans due
    obtain rfl := single _ _ _ lived ⟨_, due, rfl, underWay⟩
    obtain ⟨crashed, found, -, goesOn⟩ := live
    obtain ⟨-, rfl⟩ | ⟨apart, -⟩ := found_of_set found
    · cases goesOn
    · exact apart rfl

theorem accounting_of_path {version : Version} {sessions : List Session}
    {subscriber : PollerId → Subscriber} (numbered : Numbered (sessions.flatMap Session.owned))
    (path : Path (start version sessions subscriber) past ensemble) : ensemble.Accounting past := by
  have fresh : ∀ stint ∈ (start version sessions subscriber).stints, stint.record = [] := by
    intro stint member
    obtain ⟨poller, -, rfl⟩ := List.mem_map.mp member
    rfl
  have sound : (start version sessions subscriber).Sound :=
    ⟨orderly_start version sessions subscriber, valid_start numbered⟩
  have faithfulFirst := faithful_start version sessions subscriber
  have booked := (booked_start version sessions subscriber).path sound faithfulFirst path
  have single := (single_start numbered).path sound path
  have faithful := path.faithful faithfulFirst
  have orderly := (sound.path path).orderly
  constructor
  case single => exact single
  case balanced => exact calls_counted booked faithful orderly
  case unbroken =>
    intro poller paused whole
    have none : ensemble.total poller Stint.breakdowns = 0 :=
      total_eq_zero fun stint member own => if_neg (whole stint member own)
    have counted := calls_counted booked faithful orderly paused
    rwa [none, Nat.add_zero] at counted
  case overran => exact overruns_counted booked faithful orderly
  case grows => exact fun later => later.counts_le
  case delivered =>
    intro stint before behind taker ordinal message member same
    exact Poller.Due.fetched ((faithful stint member).due before _ behind same)
  case failed =>
    intro stint before behind poller member same
    exact ((faithful stint member).due before _ behind same).2 rfl
  case reused => exact fun _ same => Poller.reaches_reusing_iff same
  case broken =>
    intro index after step
    cases step with
    | @stintCrashes _ stint taker ordinal message next due underWay delivers =>
      have called := (faithful stint (List.mem_of_getElem? due)).next delivers
      obtain ⟨outcome, polled, -⟩ := called.2
      obtain ⟨own, fetched⟩ := called.fetched
      obtain ⟨link, last⟩ := polled.released
      exact ⟨stint, taker, ordinal, message, next, due, delivers, own, fetched,
        path.gaveBack fresh due last, fun _ => rfl⟩
  case silenced =>
    intro index stint deeds after last found step later apart
    have silent := single.silent_of_crashed found step
    exact ⟨later.silent apart silent, fun deed done position other own there =>
      later.undone apart silent done own there⟩

theorem collapse_path : ∃ past ensemble, Path vigil past ensemble ∧ ensemble.holder = none ∧
    ensemble.counts ⟨0⟩ = .zero ∧ ensemble.total ⟨0⟩ Stint.breakdowns = 1 ∧
    ∀ stint ∈ ensemble.stints, stint.ending = some .crashed := by
  have turned : Path vigil [.turned (.activity ⟨0⟩)] _ := Path.none.step (.stintTurns rfl rfl rfl)
  have wanted : Path vigil (_ ++ [.asked (.activity ⟨0⟩) ⟨.isWanted ⟨0⟩, true⟩]) _ :=
    turned.step (.stintAsks rfl rfl rfl ⟨rfl, rfl⟩)
  have began : Path vigil (_ ++ [.asked (.activity ⟨0⟩) ⟨.now, ⟨0⟩⟩]) _ :=
    wanted.step (.stintAsks rfl rfl rfl ⟨rfl, rfl⟩)
  have acquired : Path vigil (_ ++ [.asked (.activity ⟨0⟩) ⟨.acquire, .new .v1⟩]) _ :=
    began.step (.stintAsks rfl rfl rfl ⟨rfl, rfl, rfl⟩)
  have opened : Path vigil (_ ++ [.asked (.activity ⟨0⟩) ⟨.isOpen, true⟩]) _ :=
    acquired.step (.stintAsks rfl rfl rfl ⟨trivial, rfl⟩)
  have wrote : Path vigil (_ ++ [.asked (.activity ⟨0⟩) ⟨.write [36, 77, 60, 0, 109, 109], .ok 6⟩]) _ :=
    opened.step (.stintAsks rfl rfl rfl ⟨trivial, rfl⟩)
  have flushed : Path vigil (_ ++ [.asked (.activity ⟨0⟩) ⟨.flush, .ok ()⟩]) _ :=
    wrote.step (.stintAsks rfl rfl rfl ⟨trivial, rfl⟩)
  have sent : Path vigil (_ ++ [.asked (.activity ⟨0⟩) ⟨.report (.sent 109 0), ()⟩]) _ :=
    flushed.step (.stintAsks rfl rfl rfl ⟨trivial, rfl⟩)
  have listening : Path vigil (_ ++ [.asked (.activity ⟨0⟩) ⟨.isOpen, true⟩]) _ :=
    sent.step (.stintAsks rfl rfl rfl ⟨trivial, rfl⟩)
  have waits : Path vigil (_ ++ [.turned (.activity ⟨0⟩)]) _ := listening.step (.stintTurns rfl rfl rfl)
  have preamble : Path vigil (_ ++ [.asked (.activity ⟨0⟩) ⟨.read 1, .ok [36]⟩]) _ :=
    waits.step (.stintAsks rfl rfl rfl ⟨Nat.le_refl _, rfl⟩)
  have skipped : Path vigil (_ ++ [.turned (.activity ⟨0⟩)]) _ := preamble.step (.stintTurns rfl rfl rfl)
  have marker : Path vigil (_ ++ [.asked (.activity ⟨0⟩) ⟨.read 1, .ok [77]⟩]) _ :=
    skipped.step (.stintAsks rfl rfl rfl ⟨Nat.le_refl _, rfl⟩)
  have framed : Path vigil (_ ++ [.turned (.activity ⟨0⟩)]) _ := marker.step (.stintTurns rfl rfl rfl)
  have header : Path vigil (_ ++ [.asked (.activity ⟨0⟩) ⟨.read 3, .ok [62, 6, 109]⟩]) _ :=
    framed.step (.stintAsks rfl rfl rfl ⟨Nat.le_refl _, rfl⟩)
  have sized : Path vigil (_ ++ [.turned (.activity ⟨0⟩)]) _ := header.step (.stintTurns rfl rfl rfl)
  have payload : Path vigil (_ ++ [.asked (.activity ⟨0⟩) ⟨.read 6, .ok [0, 0, 0, 0, 0, 0]⟩]) _ :=
    sized.step (.stintAsks rfl rfl rfl ⟨Nat.le_refl _, rfl⟩)
  have filled : Path vigil (_ ++ [.turned (.activity ⟨0⟩)]) _ := payload.step (.stintTurns rfl rfl rfl)
  have checksum : Path vigil (_ ++ [.asked (.activity ⟨0⟩) ⟨.read 1, .ok [107]⟩]) _ :=
    filled.step (.stintAsks rfl rfl rfl ⟨Nat.le_refl _, rfl⟩)
  have released : Path vigil (_ ++ [.asked (.activity ⟨0⟩) ⟨.release (.new .v1), ()⟩]) _ :=
    checksum.step (.stintAsks rfl rfl rfl ⟨rfl, rfl⟩)
  have crashed : Path vigil (_ ++ [.ended ⟨0⟩ .crashed]) _ := released.step (.stintCrashes rfl rfl rfl)
  exact ⟨_, _, crashed, rfl, rfl, rfl, List.forall_mem_singleton.mpr rfl⟩

/-- Nothing was counted, although the subscriber was called once. -/
theorem collapse_accounting : ∃ past ensemble, Path vigil past ensemble ∧ ensemble.Accounting past ∧
    ensemble.holder = none ∧ ensemble.counts ⟨0⟩ = .zero ∧ ensemble.total ⟨0⟩ Stint.calls = 1 := by
  obtain ⟨past, ensemble, path, free, nothing, once, ended⟩ := collapse_path
  have accounting := accounting_of_path numbered_lookout path
  have counted := @accounting.balanced ⟨0⟩ fun stint member _ underWay =>
    nomatch underWay.symm.trans (ended stint member)
  rw [nothing, once] at counted
  exact ⟨past, ensemble, path, accounting, free, nothing, counted.symm⟩

end Ensemble
end FlightLink
