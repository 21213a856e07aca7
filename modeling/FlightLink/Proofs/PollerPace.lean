import FlightLink.Proofs.ActivityTiming
import FlightLink.Proofs.PollerStopping
import FlightLink.Proofs.PollerWakeUps

/-! The pace of a poller. Between two polls an activity rests until a period has passed since
the first of them began, unless a wake-up ends the rest. A wake-up that a dismissal left behind
does that to an activity that is launched later: it has one poll too early, and no more. -/

namespace FlightLink

/-- What the timing of an activity says about its last poll: the next one is due, or a rest that
was cut short is owed. -/
def Record.Keeps (record : Record) (period clock : Duration) (owed : Nat) : Beat → Prop
  | .free => ∀ last ∈ record.begins.getLast?, last + period ≤ clock ∨ 0 < owed
  | .called => record.Called ∧ ∀ last ∈ record.begins.getLast?, last + period ≤ clock ∨ 0 < owed
  | .since began => ¬ record.Called ∧ record.begins.getLast? = some began

/-- The early polls of an activity, what it is owed, and the wake-ups that are left make up no
more than so many. -/
inductive Stint.Paced (stint : Stint) (clock : Duration) (left most : Nat) : Prop
  | beat {beat : Beat} {owed : Nat}
      (paces : Poller.Paces stint.poller stint.kind stint.period stint.subscriber beat stint.program)
      (keeps : stint.record.Keeps stint.period clock owed beat)
      (few : early stint.period stint.record.begins + owed + left ≤ most)

namespace Stint

open Ensemble

variable {stint : Stint} {clock later : Duration} {left fewer most : Nat} {party : Party}
  {before after : Ensemble}

theorem paced_of_fresh (orderly : stint.Orderly) (fresh : stint.record = []) (clock : Duration)
    (left : Nat) : stint.Paced clock left left := by
  have stands := orderly.stands
  rw [fresh] at stands
  have keeps : stint.record.Keeps stint.period clock 0 .free := by
    rw [fresh]
    exact nofun
  refine .beat stands.paces keeps ?_
  rw [fresh]
  exact Nat.le_of_eq (Nat.zero_add _)

theorem Paced.weaken (paced : stint.Paced clock left most) (passes : clock ≤ later)
    (lower : fewer ≤ left) : stint.Paced later fewer most := by
  obtain @⟨beat, owed, paces, keeps, few⟩ := paced
  have due {last : Duration} (due : last + stint.period ≤ clock ∨ 0 < owed) :
      last + stint.period ≤ later ∨ 0 < owed := due.imp_left fun due => Nat.le_trans due passes
  refine .beat paces ?_ (Nat.le_trans (Nat.add_le_add_left lower _) few)
  cases beat with
  | free => exact fun last member => due (keeps last member)
  | called => exact ⟨keeps.1, fun last member => due (keeps.2 last member)⟩
  | since => exact keeps

theorem Paced.turned {ρ γ : Type} {body : ρ → Program (Progress ρ γ)} {start : ρ}
    {next : γ → Program Unit} (paced : stint.Paced clock left most)
    (turns : stint.program = .iterate body start next) :
    ({ stint with program := Program.unfold body start next } : Stint).Paced clock left most := by
  obtain ⟨paces, keeps, few⟩ := paced
  rw [turns] at paces
  exact .beat paces.unfolded keeps few

private theorem paced_on {program : Program Unit} {record : Record} {beat : Beat} (owed : Nat)
    (paces : Poller.Paces stint.poller stint.kind stint.period stint.subscriber beat program)
    (keeps : record.Keeps stint.period clock owed beat)
    (few : early stint.period record.begins + owed + left ≤ most) :
    ({ stint with program, record } : Stint).Paced clock left most := .beat paces keeps few

/-- A rest that is cut short takes a wake-up and is owed; the poll behind it is early and
takes what is owed. -/
theorem Paced.asked {request : Request} {next : request.Answer → Program Unit} {answer : request.Answer}
    (paced : stint.Paced before.clock (before.wakeUps stint.poller) most)
    (asks : stint.program = .ask request next) (served : serves party request before answer after)
    (apart : request ≠ .dismiss stint.poller) :
    ({ stint with program := next answer, record := stint.record ++ [⟨request, answer⟩] } : Stint).Paced
      after.clock (after.wakeUps stint.poller) most := by
  obtain @⟨beat, owed, paces, keeps, few⟩ := paced
  have still := (serves_changes served).clock
  have fewer := Nat.le_trans (Nat.add_le_add_left (wakeUps_le_of_serves served apart) _) few
  have ended : (stint.record ++ [(⟨request, answer⟩ : Query)]).getLast? = some ⟨request, answer⟩ :=
    List.getLast?_concat
  have begins (other : stint.record.Called → request ≠ .now) :
      (stint.record ++ [(⟨request, answer⟩ : Query)]).begins = stint.record.begins :=
    Record.begins_snoc other
  have uncalled (other : ∀ poller, request ≠ .isWanted poller) :
      ¬ (stint.record ++ [(⟨request, answer⟩ : Query)]).Called := by
    rintro ⟨poller, called⟩
    exact other poller (congrArg Query.request (Option.some.inj (ended.symm.trans called)))
  rw [asks] at paces
  rw [still]
  cases paces with
  | asks yes no =>
    have same := begins fun _ => nofun
    cases answer with
    | true =>
      refine paced_on owed yes ⟨⟨_, ended⟩, ?_⟩ (same ▸ fewer)
      rw [same]
      exact keeps
    | false =>
      refine paced_on owed no ?_ (same ▸ fewer)
      rw [Record.Keeps, same]
      exact keeps
  | begins rest =>
    obtain ⟨called, due⟩ := keeps
    obtain ⟨rfl, rfl⟩ := served
    have longer := Record.begins_called called after.clock
    have latest : (stint.record ++ [(⟨.now, after.clock⟩ : Query)]).begins.getLast? = some after.clock :=
      longer ▸ List.getLast?_concat
    obtain ⟨oneMore, noMore⟩ := @early_snoc stint.period stint.record.begins after.clock
    by_cases inTime : ∀ last ∈ stint.record.begins.getLast?, last + stint.period ≤ after.clock
    · refine paced_on owed (rest _) ⟨uncalled nofun, latest⟩ ?_
      rw [longer, noMore inTime]
      exact few
    · have owes : 0 < owed := by
        simp only [not_forall] at inTime
        obtain ⟨last, member, soon⟩ := inTime
        exact (due last member).resolve_left soon
      refine paced_on (owed - 1) (rest _) ⟨uncalled nofun, latest⟩ ?_
      rw [longer]
      omega
  | plain begun steady rest =>
    have notWanted : ∀ poller, request ≠ .isWanted poller := by
      rintro poller rfl
      exact steady
    have notNow : request ≠ .now := by
      rintro rfl
      exact steady
    have same := begins fun _ => notNow
    refine paced_on owed (rest answer) ?_ (same ▸ fewer)
    cases beat with
    | free =>
      rw [Record.Keeps, same]
      exact keeps
    | called => exact absurd rfl begun
    | since => exact ⟨uncalled notWanted, same ▸ keeps.2⟩
  | @checks began _ late inTime =>
    obtain ⟨silent, latest⟩ := keeps
    have same := begins fun called => absurd called silent
    obtain ⟨rfl, rfl⟩ := served
    by_cases isLate : stint.period < after.clock.since began
    · refine paced_on owed (late _ isLate) ?_ (same ▸ fewer)
      rw [Record.Keeps, same, latest]
      rintro last ⟨⟩
      have past : stint.period.nanoseconds < after.clock.nanoseconds - began.nanoseconds := isLate
      have due : began.nanoseconds + stint.period.nanoseconds ≤ after.clock.nanoseconds := by omega
      exact .inl due
    · exact paced_on owed (inTime _ isLate) ⟨uncalled nofun, same ▸ latest⟩ (same ▸ fewer)
  | @rests began _ rest =>
    have same := begins fun _ => nofun
    obtain ⟨due, rfl⟩ | ⟨woken, rfl⟩ := served
    · refine paced_on owed rest ?_ (same ▸ fewer)
      rw [Record.Keeps, same, keeps.2]
      rintro last ⟨⟩
      exact .inl due
    · have used := wakeUps_used woken
      refine paced_on (owed + 1) rest (fun _ _ => .inr (Nat.succ_pos _)) ?_
      rw [same]
      omega

end Stint

namespace Ensemble

variable {before after : Ensemble} {deed : Deed} {deeds past : List Deed} {index most : Nat}
  {stint : Stint}

theorem Step.paced (step : Step before deed after) (found : before.stints[index]? = some stint)
    (apart : ¬ deed.Dismisses stint.poller)
    (paced : stint.Paced before.clock (before.wakeUps stint.poller) most) :
    ∃ later, after.stints[index]? = some later ∧ later.poller = stint.poller ∧
      later.period = stint.period ∧ later.Paced after.clock (after.wakeUps stint.poller) most := by
  have fewer := step.wakeUps_le apart
  have replaced {ensemble : Ensemble} {position : Nat} {old new : Stint}
      (due : ensemble.stints[position]? = some old) (found : ensemble.stints[index]? = some stint)
      (elsewhere : stint.Paced ensemble.clock (ensemble.wakeUps stint.poller) most)
      (here : old = stint → new.poller = stint.poller ∧ new.period = stint.period ∧
        new.Paced ensemble.clock (ensemble.wakeUps stint.poller) most) :
      ∃ later, (ensemble.setStint position new).stints[index]? = some later ∧
        later.poller = stint.poller ∧ later.period = stint.period ∧
        later.Paced ensemble.clock (ensemble.wakeUps stint.poller) most := by
    by_cases same : position = index
    · subst same
      exact ⟨new, List.getElem?_set_self (List.getElem?_eq_some_iff.mp due).1,
        here (Option.some.inj (due.symm.trans found))⟩
    · exact ⟨stint, (List.getElem?_set_ne same).trans found, rfl, rfl, elsewhere⟩
  cases step with
  | pass span =>
    have passes : before.clock ≤ before.clock + span := Nat.le_add_right _ _
    exact ⟨stint, found, rfl, rfl, paced.weaken passes fewer⟩
  | begin | finish | ownerTurns => exact ⟨stint, found, rfl, rfl, paced⟩
  | ownerAsks _ served =>
    have changes := serves_changes served
    have passes := Nat.le_of_eq (congrArg Duration.nanoseconds changes.clock.symm)
    exact ⟨stint, changes.stint found, rfl, rfl, paced.weaken passes fewer⟩
  | stintAsks due _ asks served =>
    have changes := serves_changes served
    have passes := Nat.le_of_eq (congrArg Duration.nanoseconds changes.clock.symm)
    refine replaced (changes.stint due) (changes.stint found) (paced.weaken passes fewer) ?_
    rintro rfl
    exact ⟨rfl, rfl, paced.asked asks served apart⟩
  | stintTurns due _ turns =>
    refine replaced due found paced ?_
    rintro rfl
    exact ⟨rfl, rfl, paced.turned turns⟩
  | stintEnds due | stintCrashes due =>
    refine replaced due found paced ?_
    rintro rfl
    obtain ⟨paces, keeps, few⟩ := paced
    exact ⟨rfl, rfl, paces, keeps, few⟩

theorem Path.paced (path : Path before deeds after) (found : before.stints[index]? = some stint)
    (apart : ∀ deed ∈ deeds, ¬ deed.Dismisses stint.poller)
    (paced : stint.Paced before.clock (before.wakeUps stint.poller) most) :
    ∃ later, after.stints[index]? = some later ∧ later.poller = stint.poller ∧
      later.period = stint.period ∧ later.Paced after.clock (after.wakeUps stint.poller) most := by
  apply path.keeps apart ⟨stint, found, rfl, rfl, paced⟩
  rintro middle deed last step apart ⟨earlier, found, own, same, paced⟩
  rw [← own] at apart paced ⊢
  obtain ⟨later, found, sameOwn, sameToo, paced⟩ := step.paced found apart paced
  exact ⟨later, found, sameOwn, sameToo.trans same, paced⟩

theorem Path.early_le (run : Path before deeds after) (found : before.stints[index]? = some stint)
    (orderly : stint.Orderly) (fresh : stint.record = [])
    (apart : ∀ deed ∈ deeds, ¬ deed.Dismisses stint.poller) :
    ∃ later, after.stints[index]? = some later ∧
      early stint.period later.record.begins + after.wakeUps stint.poller ≤
        before.wakeUps stint.poller := by
  have paced := Stint.paced_of_fresh orderly fresh before.clock (before.wakeUps stint.poller)
  obtain ⟨later, found, -, same, -, -, few⟩ := run.paced found apart paced
  rw [same] at few
  exact ⟨later, found, by omega⟩

/-- What the pace of pollers comes to, in everything that may follow what has happened. -/
structure Pacing (past : List Deed) (ensemble : Ensemble) : Prop where
  /-- In a run of an activity, up to its dismissal, a poll that begins too early has taken a wake-up
  that was there when the run began. -/
  early {deeds : List Deed} {after : Ensemble} {index : Nat} {stint : Stint} :
    ensemble.stints[index]? = some stint → stint.record = [] →
    Path ensemble deeds after → (∀ deed ∈ deeds, ¬ deed.Dismisses stint.poller) →
    ∃ later, after.stints[index]? = some later ∧
      early stint.period later.record.begins + after.wakeUps stint.poller ≤
        ensemble.wakeUps stint.poller
  /-- Without a wake-up, no poll begins before a period has passed since the one before it began. -/
  kept {deeds : List Deed} {after : Ensemble} {index : Nat} {stint : Stint} :
    ensemble.stints[index]? = some stint → stint.record = [] →
    Path ensemble deeds after → (∀ deed ∈ deeds, ¬ deed.Dismisses stint.poller) →
    ensemble.wakeUps stint.poller = 0 → ∃ later, after.stints[index]? = some later ∧
      ∀ pair ∈ adjacent later.record.begins, pair.1 + stint.period ≤ pair.2
  /-- There is one wake-up at most, and none as long as the poller was not dismissed. -/
  single (poller : PollerId) : ensemble.wakeUps poller ≤ 1 ∧
    ((∀ deed ∈ past, ¬ deed.Dismisses poller) → ensemble.wakeUps poller = 0)
  /-- A dismissal leaves a wake-up, which stays there until the poller rests. -/
  left {deed : Deed} {deeds : List Deed} {after last : Ensemble} {poller : PollerId} :
    Step ensemble deed after → deed.Dismisses poller → ensemble.cell? poller ≠ none →
    Path after deeds last → (∀ deed ∈ deeds, ¬ deed.Rests poller) → last.wakeUps poller = 1

section Start

variable {version : Version} {sessions : List Session} {subscriber : PollerId → Subscriber}
  {ensemble : Ensemble}

private theorem orderly_of_path (path : Path (start version sessions subscriber) past ensemble)
    (found : ensemble.stints[index]? = some stint) : stint.Orderly :=
  (orderly_start version sessions subscriber).path path stint (List.mem_of_getElem? found)

theorem pacing_of_path
    (path : Path (start version sessions subscriber) past ensemble) : ensemble.Pacing past where
  early found fresh run apart := run.early_le found (orderly_of_path path found) fresh apart
  kept found fresh run apart quiet := by
    obtain ⟨later, found, few⟩ := run.early_le found (orderly_of_path path found) fresh apart
    exact ⟨later, found, early_eq_zero_iff.mp (by omega)⟩
  single poller := by
    refine ⟨wakeUps_le_one .., fun apart => ?_⟩
    have fewer := path.wakeUps_le apart
    rw [wakeUps_start] at fewer
    exact Nat.le_zero.mp fewer
  left step dismisses known run apart := by
    have left := run.le_wakeUps apart
    rw [step.wakeUps_of_dismisses dismisses known] at left
    exact Nat.le_antisymm (wakeUps_le_one ..) left

end Start

/-- The session once its poller was launched again, right after its first launch. The first activity
never rested, so the wake-up that was to end its rest is still there. -/
def relaunched : Ensemble where
  clock := ⟨0⟩
  link := .new .v1
  holder := none
  cells := [⟨.altitude, 10, ⟨100000000⟩, true, true, .zero, some ⟨1⟩⟩]
  stints := [
    ⟨⟨0⟩, .altitude, ⟨100000000⟩, ⟨"altitude", none⟩, .pure (), [⟨.isWanted ⟨0⟩, false⟩], some .finished⟩,
    .initial ⟨0⟩ .altitude ⟨100000000⟩ ⟨"altitude", none⟩]
  owners := [.busy lookout (.perform (.resubscribe "altitude" ⟨"altitude", none⟩)) (.pure lookout)]

theorem relaunched_path : ∃ past, Path vigil past relaunched := by
  have called : Path vigil
      [.began 0 (.perform (.resubscribe "altitude" ⟨"altitude", none⟩))] _ := Path.none.step (.begin _ rfl)
  have dismissed : Path vigil (_ ++ [.asked (.owner 0) ⟨.dismiss ⟨0⟩, ()⟩]) _ :=
    called.step (.ownerAsks rfl rfl)
  have claimed : Path vigil (_ ++ [.asked (.owner 0) ⟨.claim ⟨0⟩, some ⟨0⟩⟩]) _ :=
    dismissed.step (.ownerAsks rfl ⟨rfl, rfl⟩)
  have turned : Path vigil (_ ++ [.turned (.activity ⟨0⟩)]) _ := claimed.step (.stintTurns rfl rfl rfl)
  have told : Path vigil (_ ++ [.asked (.activity ⟨0⟩) ⟨.isWanted ⟨0⟩, false⟩]) _ :=
    turned.step (.stintAsks rfl rfl rfl ⟨rfl, rfl⟩)
  have ended : Path vigil (_ ++ [.ended ⟨0⟩ .finished]) _ := told.step (.stintEnds rfl rfl rfl)
  have joined : Path vigil (_ ++ [.asked (.owner 0) ⟨.join ⟨0⟩, .finished⟩]) _ :=
    ended.step (.ownerAsks rfl ⟨⟨_, rfl, rfl⟩, rfl⟩)
  have stopped : Path vigil (_ ++ [.asked (.owner 0) ⟨.report (.pollerStopped .altitude), ()⟩]) _ :=
    joined.step (.ownerAsks rfl ⟨trivial, rfl⟩)
  have launched : Path vigil (_ ++ [.asked (.owner 0) ⟨.launch ⟨0⟩ ⟨"altitude", none⟩, ()⟩]) _ :=
    stopped.step (.ownerAsks rfl ⟨_, rfl, rfl⟩)
  have started : Path vigil (_ ++ [.asked (.owner 0) ⟨.report (.pollerStarted .altitude 10), ()⟩]) _ :=
    launched.step (.ownerAsks rfl ⟨trivial, rfl⟩)
  exact ⟨_, started⟩

def hasty : List Deed :=
  .turned (.activity ⟨1⟩) :: [⟨.isWanted ⟨0⟩, true⟩, ⟨.now, ⟨0⟩⟩, ⟨.acquire, .new .v1⟩, ⟨.isOpen, false⟩,
    ⟨.release (.new .v1), ()⟩, ⟨.count ⟨0⟩ .failure, ()⟩, ⟨.report (.pollFailed .altitude .portClosed), ()⟩,
    ⟨.count ⟨0⟩ .iteration, ()⟩, ⟨.now, ⟨0⟩⟩, ⟨.rest ⟨0⟩ ⟨100000000⟩, ()⟩].map (.asked (.activity ⟨1⟩)) ++
  .turned (.activity ⟨1⟩) :: [⟨.isWanted ⟨0⟩, true⟩, ⟨.now, ⟨0⟩⟩].map (.asked (.activity ⟨1⟩))

theorem hasty_path : ∃ after stint, Path relaunched hasty after ∧ after.stints[1]? = some stint ∧
    stint.record.begins = [⟨0⟩, ⟨0⟩] := by
  have turned : Path relaunched [.turned (.activity ⟨1⟩)] _ := Path.none.step (.stintTurns rfl rfl rfl)
  have wanted : Path relaunched (_ ++ [.asked (.activity ⟨1⟩) ⟨.isWanted ⟨0⟩, true⟩]) _ :=
    turned.step (.stintAsks rfl rfl rfl ⟨rfl, rfl⟩)
  have began : Path relaunched (_ ++ [.asked (.activity ⟨1⟩) ⟨.now, ⟨0⟩⟩]) _ :=
    wanted.step (.stintAsks rfl rfl rfl ⟨rfl, rfl⟩)
  have acquired : Path relaunched (_ ++ [.asked (.activity ⟨1⟩) ⟨.acquire, .new .v1⟩]) _ :=
    began.step (.stintAsks rfl rfl rfl ⟨rfl, rfl, rfl⟩)
  have closed : Path relaunched (_ ++ [.asked (.activity ⟨1⟩) ⟨.isOpen, false⟩]) _ :=
    acquired.step (.stintAsks rfl rfl rfl ⟨trivial, rfl⟩)
  have released : Path relaunched (_ ++ [.asked (.activity ⟨1⟩) ⟨.release (.new .v1), ()⟩]) _ :=
    closed.step (.stintAsks rfl rfl rfl ⟨rfl, rfl⟩)
  have failed : Path relaunched (_ ++ [.asked (.activity ⟨1⟩) ⟨.count ⟨0⟩ .failure, ()⟩]) _ :=
    released.step (.stintAsks rfl rfl rfl rfl)
  have reported : Path relaunched
      (_ ++ [.asked (.activity ⟨1⟩) ⟨.report (.pollFailed .altitude .portClosed), ()⟩]) _ :=
    failed.step (.stintAsks rfl rfl rfl ⟨trivial, rfl⟩)
  have counted : Path relaunched (_ ++ [.asked (.activity ⟨1⟩) ⟨.count ⟨0⟩ .iteration, ()⟩]) _ :=
    reported.step (.stintAsks rfl rfl rfl rfl)
  have concluded : Path relaunched (_ ++ [.asked (.activity ⟨1⟩) ⟨.now, ⟨0⟩⟩]) _ :=
    counted.step (.stintAsks rfl rfl rfl ⟨rfl, rfl⟩)
  have woken : Path relaunched (_ ++ [.asked (.activity ⟨1⟩) ⟨.rest ⟨0⟩ ⟨100000000⟩, ()⟩]) _ :=
    concluded.step (.stintAsks rfl rfl rfl (.inr ⟨rfl, rfl⟩))
  have again : Path relaunched (_ ++ [.turned (.activity ⟨1⟩)]) _ := woken.step (.stintTurns rfl rfl rfl)
  have wantedAgain : Path relaunched (_ ++ [.asked (.activity ⟨1⟩) ⟨.isWanted ⟨0⟩, true⟩]) _ :=
    again.step (.stintAsks rfl rfl rfl ⟨rfl, rfl⟩)
  have beganAgain : Path relaunched (_ ++ [.asked (.activity ⟨1⟩) ⟨.now, ⟨0⟩⟩]) _ :=
    wantedAgain.step (.stintAsks rfl rfl rfl ⟨rfl, rfl⟩)
  exact ⟨_, _, beganAgain, rfl, rfl⟩

/-- The second activity had one poll too early, and took the wake-up for it. -/
theorem hasty_pacing : ∃ past after later, Path vigil past relaunched ∧ relaunched.Pacing past ∧
    Path relaunched hasty after ∧ after.stints[1]? = some later ∧
    early ⟨100000000⟩ later.record.begins = 1 ∧ after.wakeUps ⟨0⟩ = 0 := by
  obtain ⟨past, path⟩ := relaunched_path
  obtain ⟨after, stint, run, reached, begins⟩ := hasty_path
  have pacing := pacing_of_path path
  have one : early ⟨100000000⟩ stint.record.begins = 1 := by
    rw [begins]
    rfl
  obtain ⟨later, found, few⟩ := @Pacing.early past relaunched pacing hasty after 1 _ rfl rfl run
    (by simp [hasty, Deed.Dismisses])
  cases reached.symm.trans found
  have room : early ⟨100000000⟩ stint.record.begins + after.wakeUps ⟨0⟩ ≤ 1 := few
  exact ⟨past, after, stint, path, pacing, run, reached, one, by omega⟩

/-- Two polls of a poller with a period of 100 ms begin at the same time, and it was not dismissed since
its activity was launched. -/
theorem polls_at_once : ∃ past after stint later, Path vigil past relaunched ∧
    relaunched.stints[1]? = some stint ∧ stint.period = ⟨100000000⟩ ∧ stint.record = [] ∧
    Path relaunched hasty after ∧ (∀ deed ∈ hasty, ¬ deed.Dismisses stint.poller) ∧
    after.stints[1]? = some later ∧ later.record.begins = [⟨0⟩, ⟨0⟩] ∧
    ¬ ∀ pair ∈ adjacent later.record.begins, pair.1 + stint.period ≤ pair.2 := by
  obtain ⟨past, path⟩ := relaunched_path
  obtain ⟨after, later, run, reached, begins⟩ := hasty_path
  refine ⟨past, after, _, later, path, rfl, rfl, rfl, run, by simp [hasty, Deed.Dismisses], reached,
    begins, fun kept => ?_⟩
  rw [begins] at kept
  have inTime : (100000000 : Nat) ≤ 0 := kept (⟨0⟩, ⟨0⟩) (List.mem_singleton_self _)
  cases inTime

end Ensemble
end FlightLink
