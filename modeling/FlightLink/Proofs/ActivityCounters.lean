import FlightLink.Proofs.ActivityTiming
import FlightLink.Proofs.LoopRounds

/-! What an activity counts. Whenever it may have to wait, each poll that it has counted was delivered or
counted as a failure, and it has counted an overrun for each poll that took longer than the period. What it
delivers is what the poll directly before got. -/

namespace FlightLink

open Program (Loops Reaches Rounds Runs Uses)

/-- Requests at which an activity may have to wait. -/
def Request.Waits : Request → Prop
  | .acquire | .write _ | .flush | .read _ | .rest .. => True
  | _ => False

/-- Requests before which the counters are balanced. -/
def Request.Even : Request → Prop
  | .deliver .. => True
  | request => request.Waits

theorem Request.Waits.even {request : Request} (waits : request.Waits) : request.Even := by
  cases request <;> first | exact trivial | exact waits

namespace Program

variable {α β : Type}

def Paused (program : Program α) : Prop := ∀ request next, program = .ask request next → request.Waits

def Even (program : Program α) : Prop := ∀ request next, program = .ask request next → request.Even

theorem even_pure (result : α) : (Program.pure result).Even := by
  intro request next asks
  cases asks

theorem Paused.even {program : Program α} (paused : program.Paused) : program.Even :=
  fun request next asks => (paused request next asks).even

theorem Even.of_bind {program : Program α} {next : α → Program β} (even : (program.bind next).Even) :
    program.Even := by
  rintro request rest rfl
  exact even request _ rfl

end Program

namespace Query

def tallies (tally : Tally) : Query → Bool
  | ⟨.count _ other, _⟩ => other == tally
  | _ => false

def delivers : Query → Bool
  | ⟨.deliver .., _⟩ => true
  | _ => false

/-- When a poll is over: the clock is looked at, directly after the poll was counted. -/
def ends? : Query × Query → Option Duration
  | (⟨.count _ .iteration, _⟩, ⟨.now, ended⟩) => some ended
  | _ => none

end Query

namespace Record

def tallied (record : Record) (tally : Tally) : Nat := record.countP (Query.tallies tally)

def deliveries (record : Record) : Nat := record.countP Query.delivers

def ends (record : Record) : List Duration := (adjacent record).filterMap Query.ends?

def overlong (record : Record) (period : Duration) : Nat :=
  (record.begins.zip record.ends).countP fun poll => period < poll.2.since poll.1

end Record

section Marks

variable {mark? : Query × Query → Option Duration} {first second : Record} {query : Query}

theorem adjacent_append (first second : Record) (query : Query) :
    adjacent (first ++ query :: second) =
      adjacent first ++ ((first.getLast?.map (·, query)).toList ++ adjacent (query :: second)) := by
  induction first with
  | nil => rfl
  | cons head first ih =>
    cases first with
    | nil => rfl
    | cons next first =>
      rw [List.getLast?_cons_cons]
      exact congrArg ((head, next) :: ·) ih

theorem marks_append (looks : ∀ pair time, mark? pair = some time → pair.2.request = .now)
    (other : query.request ≠ .now) :
    (adjacent (first ++ query :: second)).filterMap mark? =
      (adjacent first).filterMap mark? ++ (adjacent (query :: second)).filterMap mark? := by
  have between : ((first.getLast?.map (·, query)).toList).filterMap mark? = [] := by
    cases first.getLast? with
    | none => rfl
    | some last =>
      cases marked : mark? (last, query) with
      | none => simp [marked]
      | some time => exact absurd (looks _ _ marked) other
  rw [adjacent_append, List.filterMap_append, List.filterMap_append, between, List.nil_append]

theorem marks_unlooked (looks : ∀ pair time, mark? pair = some time → pair.2.request = .now)
    (unlooked : ∀ query ∈ second, query.request ≠ .now) (query : Query) :
    (adjacent (query :: second)).filterMap mark? = [] := by
  induction second generalizing query with
  | nil => rfl
  | cons head second ih =>
    obtain ⟨other, unlooked⟩ := List.forall_mem_cons.mp unlooked
    have rest := @marks_append _ [query] second head looks other
    rw [List.singleton_append] at rest
    rw [rest, ih unlooked head]
    rfl

theorem begins_looks (pair : Query × Query) (time : Duration) (marked : Query.begins? pair = some time) :
    pair.2.request = .now := by
  unfold Query.begins? at marked
  split at marked
  · rfl
  · cases marked

theorem ends_looks (pair : Query × Query) (time : Duration) (marked : Query.ends? pair = some time) :
    pair.2.request = .now := by
  unfold Query.ends? at marked
  split at marked
  · rfl
  · cases marked

end Marks

structure Record.Balanced (record : Record) (period : Duration) : Prop where
  iterations : record.tallied .iteration = record.deliveries + record.tallied .failure
  overruns : record.tallied .overrun = record.overlong period
  few : record.ends.length ≤ record.tallied .iteration

namespace Record

variable {record more : Record} {period : Duration}

@[simp] theorem tallied_append (record more : Record) (tally : Tally) :
    (record ++ more).tallied tally = record.tallied tally + more.tallied tally := List.countP_append

@[simp] theorem deliveries_append (record more : Record) :
    (record ++ more).deliveries = record.deliveries + more.deliveries := List.countP_append

theorem Balanced.overruns_le (balanced : record.Balanced period) :
    record.tallied .overrun ≤ record.tallied .iteration := by
  rw [balanced.overruns]
  apply Nat.le_trans List.countP_le_length (Nat.le_trans _ balanced.few)
  rw [List.length_zip]
  exact Nat.min_le_right ..

theorem Balanced.append (first : record.Balanced period) (paired : record.begins.length = record.ends.length)
    (second : more.Balanced period) (apart : ∀ query ∈ more.head?, query.request ≠ .now) :
    (record ++ more).Balanced period ∧ (record ++ more).begins = record.begins ++ more.begins ∧
      (record ++ more).ends = record.ends ++ more.ends := by
  cases more with
  | nil => simpa [begins, ends, adjacent] using first
  | cons query rest =>
    have other := apart query rfl
    have begins : (record ++ query :: rest).begins = record.begins ++ begins (query :: rest) :=
      marks_append begins_looks other
    have ends : (record ++ query :: rest).ends = record.ends ++ ends (query :: rest) :=
      marks_append ends_looks other
    refine ⟨⟨?_, ?_, ?_⟩, begins, ends⟩
    · rw [tallied_append, tallied_append, deliveries_append, first.iterations, second.iterations]
      omega
    · rw [tallied_append, first.overruns, second.overruns, overlong, overlong, overlong, begins, ends,
        List.zip_append paired, List.countP_append]
    · rw [tallied_append, ends, List.length_append]
      exact Nat.add_le_add first.few second.few

end Record

theorem Request.Conversing.unlooked : ∀ {request : Request}, request.Conversing → request ≠ .now
  | .acquire, _ | .isOpen, _ | .write _, _ | .flush, _ | .read _, _ | .release _, _ | .report _, _ =>
    nofun

def Request.Unbooked : Request → Prop
  | .count .. | .deliver .. => False
  | _ => True

theorem Request.Conversing.unbooked : ∀ {request : Request}, request.Conversing → request.Unbooked
  | .acquire, _ | .isOpen, _ | .write _, _ | .flush, _ | .read _, _ | .release _, _ | .report _, _ =>
    trivial

namespace Record

variable {said : Record} (unbooked : ∀ query ∈ said, query.request.Unbooked)
include unbooked

theorem tallied_unbooked (tally : Tally) : said.tallied tally = 0 := by
  apply List.countP_eq_zero.mpr
  rintro ⟨request, answer⟩ member
  cases request <;> first | exact (unbooked _ member).elim | exact Bool.false_ne_true

theorem deliveries_unbooked : said.deliveries = 0 := by
  apply List.countP_eq_zero.mpr
  rintro ⟨request, answer⟩ member
  cases request <;> first | exact (unbooked _ member).elim | exact Bool.false_ne_true

end Record

namespace Poller

section

variable {id : PollerId} {kind : Message.Kind} {period began ended : Duration} {subscriber : Subscriber}
  {delivered : Nat} {said tail : Record} {polled : Except Fault Message}

def outcome (id : PollerId) (kind : Message.Kind) (subscriber : Subscriber) (delivered : Nat) :
    Except Fault Message → Record
  | .ok message => [⟨.deliver subscriber (delivered + 1) message, ()⟩]
  | .error fault => [⟨.count id .failure, ()⟩, ⟨.report (.pollFailed kind.code fault), ()⟩]

/-- How a turn closes, from where it may wait once more. -/
inductive Closing (id : PollerId) (kind : Message.Kind) (period began ended : Duration) : Record → Prop
  | waits (inTime : ¬ period < ended.since began) : Closing id kind period began ended []
  | rested (inTime : ¬ period < ended.since began) :
      Closing id kind period began ended [⟨.rest id (began + period), ()⟩]
  | overran (late : period < ended.since began) :
      Closing id kind period began ended [⟨.count id .overrun, ()⟩,
        ⟨.report (.overrun kind.code (ended.since began) period), ()⟩]

def sequel (id : PollerId) (kind : Message.Kind) (subscriber : Subscriber) (delivered : Nat)
    (ended : Duration) (polled : Except Fault Message) (tail : Record) : Record :=
  outcome id kind subscriber delivered polled ++ ⟨.count id .iteration, ()⟩ :: ⟨.now, ended⟩ :: tail

/-- What was asked in a turn when it may have to wait. -/
inductive Settled (id : PollerId) (kind : Message.Kind) (period : Duration) (subscriber : Subscriber)
    (delivered : Nat) : Record → Prop
  | unasked : Settled id kind period subscriber delivered []
  | unwanted : Settled id kind period subscriber delivered [⟨.isWanted id, false⟩]
  | polling {began : Duration} {said : Record} (conversing : ∀ query ∈ said, query.request.Conversing) :
      Settled id kind period subscriber delivered (⟨.isWanted id, true⟩ :: ⟨.now, began⟩ :: said)
  | closed {began ended : Duration} {polled : Except Fault Message} {said tail : Record}
      (conversing : ∀ query ∈ said, query.request.Conversing)
      (closing : Closing id kind period began ended tail) :
      Settled id kind period subscriber delivered (⟨.isWanted id, true⟩ :: ⟨.now, began⟩ ::
        (said ++ sequel id kind subscriber delivered ended polled tail))

theorem marks_polling (unlooked : ∀ query ∈ said, query.request ≠ .now) :
    Record.begins (⟨.isWanted id, true⟩ :: ⟨.now, began⟩ :: said) = [began] ∧
      Record.ends (⟨.isWanted id, true⟩ :: ⟨.now, began⟩ :: said) = [] :=
  ⟨congrArg (began :: ·) (marks_unlooked begins_looks unlooked _), marks_unlooked ends_looks unlooked _⟩

theorem unlooked_outcome : ∀ query ∈ outcome id kind subscriber delivered polled, query.request ≠ .now := by
  cases polled <;> simp [outcome]

theorem Closing.unlooked (closing : Closing id kind period began ended tail) :
    ∀ query ∈ tail, query.request ≠ .now := by
  cases closing <;> simp

theorem marks_over (conversing : ∀ query ∈ said, query.request.Conversing)
    (closing : Closing id kind period began ended tail) :
    Record.begins (⟨.isWanted id, true⟩ :: ⟨.now, began⟩ ::
        (said ++ sequel id kind subscriber delivered ended polled tail)) = [began] ∧
      Record.ends (⟨.isWanted id, true⟩ :: ⟨.now, began⟩ ::
        (said ++ sequel id kind subscriber delivered ended polled tail)) = [ended] := by
  have unlooked : ∀ query ∈ said ++ outcome id kind subscriber delivered polled, query.request ≠ .now := by
    intro query member
    obtain member | member := List.mem_append.mp member
    · exact (conversing query member).unlooked
    · exact unlooked_outcome query member
  obtain ⟨begins, ends⟩ := @marks_polling id began _ unlooked
  have split : (⟨.isWanted id, true⟩ :: ⟨.now, began⟩ ::
        (said ++ sequel id kind subscriber delivered ended polled tail) : Record) =
      (⟨.isWanted id, true⟩ :: ⟨.now, began⟩ ::
        (said ++ outcome id kind subscriber delivered polled)) ++
        ⟨.count id .iteration, ()⟩ :: ⟨.now, ended⟩ :: tail := by
    simp [sequel]
  rw [split]
  constructor
  · rw [Record.begins, marks_append begins_looks (by simp)]
    exact congrArg₂ (· ++ ·) begins (marks_unlooked begins_looks closing.unlooked _)
  · rw [Record.ends, marks_append ends_looks (by simp)]
    exact congrArg₂ (· ++ ·) ends (congrArg (ended :: ·) (marks_unlooked ends_looks closing.unlooked _))

theorem unbooked_polling (conversing : ∀ query ∈ said, query.request.Conversing) :
    ∀ query ∈ (⟨.isWanted id, true⟩ :: ⟨.now, began⟩ :: said : Record), query.request.Unbooked :=
  List.forall_mem_cons.mpr ⟨trivial, List.forall_mem_cons.mpr
    ⟨trivial, fun query member => (conversing query member).unbooked⟩⟩

/-- The counters of a turn are balanced whenever it may have to wait. -/
theorem Settled.balanced (settled : Settled id kind period subscriber delivered said) :
    said.Balanced period := by
  cases settled with
  | unasked => exact ⟨rfl, rfl, Nat.le_refl _⟩
  | unwanted => exact ⟨rfl, rfl, Nat.le_refl _⟩
  | @polling began said conversing =>
    obtain ⟨begins, ends⟩ := @marks_polling id began said fun query member =>
      (conversing query member).unlooked
    have unbooked := @unbooked_polling id began said conversing
    refine ⟨?_, ?_, ?_⟩
    · rw [Record.tallied_unbooked unbooked, Record.tallied_unbooked unbooked,
        Record.deliveries_unbooked unbooked]
    · rw [Record.tallied_unbooked unbooked, Record.overlong, ends, List.zip_nil_right, List.countP_nil]
    · rw [ends]
      exact Nat.zero_le _
  | @closed began ended polled said tail conversing closing =>
    obtain ⟨begins, ends⟩ :=
      @marks_over id kind period began ended subscriber delivered said tail polled conversing closing
    have unbooked := @unbooked_polling id began said conversing
    have tallies (tally : Tally) : Record.tallied (⟨.isWanted id, true⟩ :: ⟨.now, began⟩ ::
          (said ++ sequel id kind subscriber delivered ended polled tail)) tally =
        (sequel id kind subscriber delivered ended polled tail).tallied tally := by
      rw [← List.cons_append, ← List.cons_append, Record.tallied_append,
        Record.tallied_unbooked unbooked, Nat.zero_add]
    have hands : Record.deliveries (⟨.isWanted id, true⟩ :: ⟨.now, began⟩ ::
          (said ++ sequel id kind subscriber delivered ended polled tail)) =
        (sequel id kind subscriber delivered ended polled tail).deliveries := by
      rw [← List.cons_append, ← List.cons_append, Record.deliveries_append,
        Record.deliveries_unbooked unbooked, Nat.zero_add]
    refine ⟨?_, ?_, ?_⟩
    · rw [tallies, tallies, hands]
      cases polled <;> cases closing <;> rfl
    · rw [tallies, Record.overlong, begins, ends]
      cases closing with
      | waits inTime | rested inTime =>
        cases polled <;> simp [sequel, outcome, Record.tallied, Query.tallies, inTime]
      | overran late => cases polled <;> simp [sequel, outcome, Record.tallied, Query.tallies, late]
    · rw [tallies, ends]
      cases polled <;> cases closing <;> exact Nat.le_refl _

theorem Settled.head (settled : Settled id kind period subscriber delivered said) :
    ∀ query ∈ said.head?, query.request ≠ .now := by
  cases settled <;> simp

section Turning

variable {next : Nat} {request : Request}

theorem closing_of_reaches {rest : Program (Progress Nat Unit)}
    (reaches : Reaches Record.anything (conclude id kind period began next) [] rest said)
    (even : rest.Even) : ∃ ended tail, said = ⟨.count id .iteration, ()⟩ :: ⟨.now, ended⟩ :: tail ∧
      Closing id kind period began ended tail := by
  obtain ⟨rfl, -⟩ | ⟨_, looked, rfl, looks⟩ := reaches.of_ask
  · exact (even _ _ rfl).elim
  obtain ⟨rfl, -⟩ | ⟨ended, tail, rfl, closes⟩ := looks.of_ask
  · exact (even _ _ rfl).elim
  refine ⟨ended, tail, rfl, ?_⟩
  change Reaches _ (if period < ended.since began then _ else _) _ _ _ at closes
  split at closes
  next late =>
    obtain ⟨rfl, -⟩ | ⟨_, told, rfl, reports⟩ := closes.of_ask
    · exact (even _ _ rfl).elim
    obtain ⟨rfl, -⟩ | ⟨_, last, rfl, ends⟩ := reports.of_ask
    · exact (even _ _ rfl).elim
    obtain ⟨-, rfl⟩ := ends.of_pure
    exact .overran late
  next inTime =>
    obtain ⟨-, rfl⟩ | ⟨_, last, rfl, ends⟩ := closes.of_ask
    · exact .waits inTime
    obtain ⟨-, rfl⟩ := ends.of_pure
    exact .rested inTime

theorem sequel_of_reaches {rest : Program (Progress Nat Unit)}
    (reaches : Reaches Record.anything (settle id kind period subscriber delivered began polled) [] rest said)
    (even : rest.Even) : said = [] ∧ (∀ progress, rest ≠ .pure progress) ∨
      ∃ ended tail, said = sequel id kind subscriber delivered ended polled tail ∧
        Closing id kind period began ended tail := by
  cases polled with
  | ok message =>
    obtain ⟨rfl, rfl⟩ | ⟨_, later, rfl, concludes⟩ := reaches.of_ask
    · exact .inl ⟨rfl, nofun⟩
    obtain ⟨ended, tail, rfl, closing⟩ := closing_of_reaches concludes even
    exact .inr ⟨ended, tail, rfl, closing⟩
  | error fault =>
    obtain ⟨rfl, -⟩ | ⟨_, told, rfl, reports⟩ := reaches.of_ask
    · exact (even _ _ rfl).elim
    obtain ⟨rfl, -⟩ | ⟨_, later, rfl, concludes⟩ := reports.of_ask
    · exact (even _ _ rfl).elim
    obtain ⟨ended, tail, rfl, closing⟩ := closing_of_reaches concludes even
    exact .inr ⟨ended, tail, rfl, closing⟩

inductive Reached (id : PollerId) (kind : Message.Kind) (period : Duration) (subscriber : Subscriber)
    (delivered : Nat) : Program (Progress Nat Unit) → Record → Prop
  | unasked : Reached id kind period subscriber delivered (round id kind period subscriber delivered) []
  | unwanted : Reached id kind period subscriber delivered (.pure (.done ())) [⟨.isWanted id, false⟩]
  | called {next : Duration → Program (Progress Nat Unit)} :
      Reached id kind period subscriber delivered (.ask .now next) [⟨.isWanted id, true⟩]
  | polling {began : Duration} {part : Program (Except Fault Message)} {said : Record}
      (busy : ∀ polled, part ≠ .pure polled)
      (reaches : Reaches Record.anything (poll kind) [] part said) :
      Reached id kind period subscriber delivered
        (part.bind (settle id kind period subscriber delivered began))
        (⟨.isWanted id, true⟩ :: ⟨.now, began⟩ :: said)
  | settling {began : Duration} {polled : Except Fault Message} {rest : Program (Progress Nat Unit)}
      {said later : Record} (runs : Runs Record.anything (poll kind) [] polled said)
      (reaches : Reaches Record.anything (settle id kind period subscriber delivered began polled) []
        rest later) :
      Reached id kind period subscriber delivered rest
        (⟨.isWanted id, true⟩ :: ⟨.now, began⟩ :: (said ++ later))

theorem reached_of_reaches {rest : Program (Progress Nat Unit)}
    (reaches : Reaches Record.anything (round id kind period subscriber delivered) [] rest said) :
    Reached id kind period subscriber delivered rest said := by
  rw [round_eq] at reaches
  obtain ⟨rfl, rfl⟩ | ⟨wanted, told, rfl, goesOn⟩ := reaches.of_ask
  · exact round_eq ▸ .unasked
  cases wanted with
  | false =>
    obtain ⟨rfl, rfl⟩ := goesOn.of_pure
    exact .unwanted
  | true =>
    obtain ⟨rfl, rfl⟩ | ⟨began, talk, rfl, polls⟩ := goesOn.of_ask
    · exact .called
    obtain ⟨part, inside, rfl⟩ | ⟨polled, middle, runs, settles⟩ := polls.of_bind
    · cases part with
      | pure polled =>
        have settling := @Reached.settling id kind period subscriber delivered began polled _ _ _
          inside.runs .here
        rwa [List.append_nil] at settling
      | ask | iterate => exact .polling nofun inside
    · obtain ⟨later, rfl, sequel⟩ := settles.fresh
      exact .settling runs sequel

theorem Reached.settled {rest : Program (Progress Nat Unit)}
    (reached : Reached id kind period subscriber delivered rest said) (even : rest.Even) :
    Settled id kind period subscriber delivered said ∧
      ∀ next, rest = .pure (.more next) → said.begins.length = said.ends.length := by
  have conversing {part : Program (Except Fault Message)} {said : Record}
      (reaches : Reaches Record.anything (poll kind) [] part said) :
      ∀ query ∈ said, query.request.Conversing := (converses_poll kind).asked reaches
  cases reached with
  | unasked => exact ⟨.unasked, nofun⟩
  | unwanted => exact ⟨.unwanted, nofun⟩
  | called => exact (even _ _ rfl).elim
  | @polling _ part _ busy reaches =>
    refine ⟨.polling (conversing reaches), fun next done => ?_⟩
    cases part with
    | pure polled => exact absurd rfl (busy polled)
    | ask | iterate => cases done
  | settling runs reaches =>
    obtain ⟨rfl, asks⟩ | ⟨ended, tail, rfl, closing⟩ := sequel_of_reaches reaches even
    · rw [List.append_nil]
      exact ⟨.polling (conversing runs.reaches), fun next done => absurd done (asks _)⟩
    refine ⟨.closed (conversing runs.reaches) closing, fun next _ => ?_⟩
    obtain ⟨begins, ends⟩ := marks_over (conversing runs.reaches) closing
    rw [begins, ends]
    rfl

theorem balanced_of_rounds {whole : Record} {state : Nat}
    (rounds : Rounds (round id kind period subscriber) 0 whole state) :
    whole.Balanced period ∧ whole.begins.length = whole.ends.length := by
  induction rounds with
  | none => exact ⟨⟨rfl, rfl, Nat.le_refl _⟩, rfl⟩
  | after _ turn ih =>
    obtain ⟨balanced, paired⟩ := ih
    obtain ⟨settled, pairs⟩ := (reached_of_reaches turn.reaches).settled (Program.even_pure _)
    obtain ⟨balanced, begins, ends⟩ := balanced.append paired settled.balanced settled.head
    refine ⟨balanced, ?_⟩
    rw [begins, ends, List.length_append, List.length_append, paired, pairs _ rfl]

/-- The counters of an activity are balanced whenever it may have to wait, and when it delivers. -/
theorem balanced_of_loops {program : Program Unit} {record : Record}
    (loops : Loops (round id kind period subscriber) 0 program record) (even : program.Even) :
    record.Balanced period := by
  cases loops with
  | between rounds => exact (balanced_of_rounds rounds).1
  | within rounds reaches =>
    obtain ⟨balanced, paired⟩ := balanced_of_rounds rounds
    obtain ⟨settled, -⟩ := (reached_of_reaches reaches).settled even.of_bind
    exact (balanced.append paired settled.balanced settled.head).1

end Turning

end
end Poller
end FlightLink
