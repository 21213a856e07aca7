import Mathlib.Algebra.Ring.Nat
import Mathlib.Data.List.ReduceOption
import FlightLink.Proofs.BufferFilling

/-! A call that runs out of time keeps what it has read, and the next one goes on behind it. As long as a
stream fails only by timeouts, calls in a row lose no byte, double none and change no order. -/

namespace FlightLink

def Filled.bytes (call : Filled) : Bytes :=
  match call.outcome with
  | .ok count => call.buffer.take count
  | .error _ => []

def Series.calls (series : Series) : List Filled := series.results.reduceOption

theorem Series.calls_cons {results : List (Option Filled)} {clock : Clock} {stream : Stream} {call : Filled} :
    Series.calls ⟨some call :: results, clock, stream⟩ = call :: Series.calls ⟨results, clock, stream⟩ :=
  List.reduceOption_cons_of_some ..

theorem Duration.ofMillis_add (first second : Nat) :
    ofMillis (first + second) = ofMillis first + ofMillis second :=
  congrArg Duration.mk (Nat.add_mul ..)

theorem Duration.add_assoc (first second third : Duration) :
    first + second + third = first + (second + third) :=
  congrArg Duration.mk (Nat.add_assoc ..)

namespace Clock

variable {clock : Clock} {millis more : Nat}

theorem lasts_after : (clock.after millis).Lasts more ↔ clock.Lasts (millis + more) := by
  rw [Lasts, Lasts, after, Duration.ofMillis_add, ← Duration.add_assoc]

theorem Lasts.mono (lasts : clock.Lasts more) (less : millis ≤ more) : clock.Lasts millis := by
  have longer : Duration.ofMillis millis ≤ .ofMillis more := Nat.mul_le_mul_right _ less
  exact Nat.le_trans (Nat.add_le_add_left longer _) lasts

end Clock

namespace Stream

variable {clock : Clock}

def data : Stream → Bytes
  | [] => []
  | .data bytes :: rest => bytes ++ data rest
  | .wait _ :: rest | .failure _ :: rest | .ending :: rest => data rest

/-- The stream fails by timeouts only. -/
def Patient (stream : Stream) : Prop := ∀ fault, .failure fault ∈ stream → fault.kind = .timedOut

/-- No more calls than this can get something done, be it that they take a byte or wait a while. -/
def effort : Stream → Nat
  | [] => 0
  | .data bytes :: rest => bytes.length + effort rest + 1
  | .wait millis :: rest => millis + effort rest + 1
  | .failure _ :: rest | .ending :: rest => effort rest + 1

/-- What filling takes from a stream, it takes from the front of its data. -/
theorem fill_data (stream : Stream) (wanted remaining : Nat) :
    (stream.fill wanted remaining).filled ++ data (stream.fill wanted remaining).stream = stream.data := by
  fun_induction fill stream wanted remaining with
  | case1 | case2 | case3 | case4 | case6 => rfl
  | case5 wanted remaining some millis rest early later ih => exact ih
  | case7 wanted remaining some bytes rest more => simp [data, ← List.append_assoc]
  | case8 wanted remaining some bytes rest all later ih =>
    rw [List.append_assoc]
    exact congrArg (bytes ++ ·) ih

theorem fill_effort_le (stream : Stream) (wanted remaining : Nat) :
    effort (stream.fill wanted remaining).stream ≤ stream.effort := by
  fun_induction fill stream wanted remaining with
  | case1 | case2 => exact Nat.le_refl _
  | case3 | case4 => exact Nat.le_succ _
  | case5 wanted remaining some millis rest early later ih =>
    exact Nat.le_trans ih (by simp only [effort]; omega)
  | case6 wanted remaining some millis rest longer =>
    simp only [effort]
    omega
  | case7 wanted remaining some bytes rest more =>
    simp only [effort, List.length_drop]
    omega
  | case8 wanted remaining some bytes rest all later ih =>
    exact Nat.le_trans ih (by simp only [effort]; omega)

theorem fill_effort_lt {stream : Stream} {wanted remaining : Nat} (some : wanted ≠ 0) (time : remaining ≠ 0)
    (more : stream ≠ []) : effort (stream.fill wanted remaining).stream < stream.effort := by
  fun_cases fill stream wanted remaining with
  | case1 => contradiction
  | case2 => exact absurd rfl more
  | case3 | case4 => exact Nat.lt_succ_self _
  | case5 _ millis rest early =>
    exact Nat.lt_of_le_of_lt (fill_effort_le rest wanted (remaining - millis)) (by simp only [effort]; omega)
  | case6 _ millis rest longer =>
    simp only [effort]
    omega
  | case7 _ bytes rest more =>
    simp only [effort, List.length_drop]
    omega
  | case8 _ bytes rest all =>
    have fewer := fill_effort_le rest (wanted - bytes.length) remaining
    exact Nat.lt_of_le_of_lt fewer (by simp only [effort]; omega)

theorem Patient.tail {event : StreamEvent} {rest : Stream} (patient : Patient (event :: rest)) : rest.Patient :=
  fun fault member => patient fault (List.mem_cons_of_mem _ member)

theorem Patient.cons {event : StreamEvent} {rest : Stream} (patient : rest.Patient)
    (harmless : ∀ fault, event ≠ .failure fault) : Patient (event :: rest) := fun fault member =>
  (List.mem_cons.mp member).elim (fun same => absurd same.symm (harmless fault)) (patient fault)

theorem Patient.fill {stream : Stream} (patient : stream.Patient) (wanted remaining : Nat) :
    (stream.fill wanted remaining).outcome = .ok () ∧ Patient (stream.fill wanted remaining).stream := by
  fun_induction Stream.fill stream wanted remaining with
  | case1 | case2 => exact ⟨rfl, patient⟩
  | case3 => exact ⟨rfl, patient.tail⟩
  | case4 wanted remaining some fault rest =>
    exact ⟨if_pos (patient fault (List.mem_cons_self ..)), patient.tail⟩
  | case5 wanted remaining some millis rest early later ih => exact ih patient.tail
  | case6 => exact ⟨rfl, patient.tail.cons nofun⟩
  | case7 => exact ⟨rfl, patient.tail.cons nofun⟩
  | case8 wanted remaining some bytes rest all later ih => exact ih patient.tail

structure Serves (stream : Stream) (buffer : Bytes) (timeout : Duration) (call : Filled) : Prop where
  counts : call.outcome = .ok call.bytes.length
  data : call.bytes ++ call.stream.data = stream.data
  patient : call.stream.Patient
  effort : buffer ≠ [] → 0 < timeout.nanoseconds → call.stream.effort ≤ stream.effort - 1

theorem Patient.serves {stream : Stream} (patient : stream.Patient) {buffer : Bytes} {timeout : Duration}
    {call : Filled} (called : stream.readFull clock buffer timeout = some call) :
    stream.Serves buffer timeout call := by
  have lasts : clock.Lasts timeout.ceilMillis := by
    apply Decidable.byContradiction
    intro crashes
    exact nomatch called.symm.trans (readFull_eq_none_iff.mpr crashes)
  obtain ⟨ok, left⟩ := patient.fill buffer.length timeout.ceilMillis
  have same : call = ⟨overwrite buffer 0 (stream.fill buffer.length timeout.ceilMillis).filled,
      .ok (stream.fill buffer.length timeout.ceilMillis).filled.length,
      (stream.fill buffer.length timeout.ceilMillis).elapsed,
      (stream.fill buffer.length timeout.ceilMillis).stream⟩ := by
    rw [readFull_eq_fill lasts] at called
    rw [← Option.some.inj called, onto, ok, Nat.zero_add, Nat.zero_add]
    rfl
  have taken : call.bytes = (stream.fill buffer.length timeout.ceilMillis).filled := by
    simp [same, Filled.bytes, overwrite]
  constructor
  · rw [taken, same]
  · rw [taken, same]
    exact stream.fill_data _ _
  · rwa [same]
  · intro some time
    rw [same]
    by_cases more : stream = []
    · subst more
      exact fill_effort_le ..
    · have wanted : buffer.length ≠ 0 := by simpa using some
      have remaining : timeout.ceilMillis ≠ 0 := by
        simp only [Duration.ceilMillis]
        omega
      exact Nat.le_sub_one_of_lt (fill_effort_lt wanted remaining more)

theorem readEach_of_none {stream : Stream} {buffer : Bytes} {timeout : Duration}
    (crashed : stream.readFull clock buffer timeout = none) (rest : List (Bytes × Duration)) :
    stream.readEach clock ((buffer, timeout) :: rest) =
      { stream.readEach clock rest with results := none :: (stream.readEach clock rest).results } := by
  rw [readEach, crashed]
  rfl

theorem readEach_of_some {stream : Stream} {buffer : Bytes} {timeout : Duration} {call : Filled}
    (called : stream.readFull clock buffer timeout = some call) (rest : List (Bytes × Duration)) :
    stream.readEach clock ((buffer, timeout) :: rest) =
      { call.stream.readEach (clock.after call.elapsed) rest with
        results := some call :: (call.stream.readEach (clock.after call.elapsed) rest).results } := by
  rw [readEach, called]
  rfl

/-- What calls in a row on a patient stream leave. -/
structure Supplies (stream : Stream) (requests : List (Bytes × Duration)) (series : Series) : Prop where
  counts : ∃ counts : List Nat, series.calls.map Filled.outcome = counts.map .ok ∧
    (series.calls.flatMap Filled.bytes).length = counts.sum
  data : series.calls.flatMap Filled.bytes ++ series.stream.data = stream.data
  patient : series.stream.Patient
  effort : (∀ request ∈ requests, request.1 ≠ [] ∧ 0 < request.2.nanoseconds) →
    series.stream.effort ≤ stream.effort - series.calls.length

theorem Patient.supplies {stream : Stream} (patient : stream.Patient) (clock : Clock)
    (requests : List (Bytes × Duration)) :
    stream.Supplies requests (stream.readEach clock requests) := by
  induction requests generalizing clock stream with
  | nil => exact ⟨⟨[], rfl, rfl⟩, rfl, patient, fun _ => Nat.le_refl _⟩
  | cons request rest ih =>
    obtain ⟨buffer, timeout⟩ := request
    cases called : stream.readFull clock buffer timeout with
    | none =>
      obtain ⟨counts, data, left, less⟩ := ih patient clock
      rw [readEach_of_none called]
      exact ⟨counts, data, left, fun able => less (List.forall_mem_cons.mp able).2⟩
    | some call =>
      obtain ⟨outcome, data, patient, effort⟩ := patient.serves called
      obtain ⟨⟨counts, outcomes, length⟩, behind, left, less⟩ := ih patient (clock.after call.elapsed)
      rw [readEach_of_some called]
      refine ⟨⟨_ :: counts, List.cons_eq_cons.mpr ⟨outcome, outcomes⟩, ?_⟩, ?_, left, fun able => ?_⟩
      · rw [Series.calls_cons, List.flatMap_cons, List.length_append, List.sum_cons]
        exact congrArg _ length
      · rw [Series.calls_cons, List.flatMap_cons, List.append_assoc, ← data]
        exact congrArg _ behind
      · obtain ⟨⟨some, time⟩, able⟩ := List.forall_mem_cons.mp able
        have first := effort some time
        have others := less able
        rw [Series.calls_cons, List.length_cons]
        simp only [Series.calls] at others ⊢
        omega

theorem readEach_returns {requests : List (Bytes × Duration)} (stream : Stream)
    (lasts : clock.Lasts (requests.map (·.2.ceilMillis)).sum) :
    (stream.readEach clock requests).calls.length = requests.length := by
  induction requests generalizing clock stream with
  | nil => rfl
  | cons request rest ih =>
    obtain ⟨buffer, timeout⟩ := request
    rw [List.map_cons, List.sum_cons] at lasts
    obtain ⟨call, called, -, within, -⟩ :=
      readFull_takes_what_comes_in_time (lasts.mono (Nat.le_add_right ..)) stream buffer
    rw [readEach_of_some called, Series.calls_cons]
    exact congrArg _ (ih call.stream (Clock.lasts_after.mpr (lasts.mono (Nat.add_le_add_right within _))))

theorem data_of_effort {stream : Stream} (idle : stream.effort = 0) : stream.data = [] := by
  cases stream with
  | nil => rfl
  | cons event => cases event <;> cases idle

end Stream

/-- As long as a stream fails by timeouts only: whatever the buffers and the timeouts, calls in a row return
the front of the data, as many bytes of it as they say, and leave the rest for later calls. So many calls that
ask for something, have time and return get all of it. A call crashes only where the clock comes to its end. -/
theorem reads_lose_nothing (clock : Clock) (stream : Stream) (patient : stream.Patient)
    (requests : List (Bytes × Duration)) :
    (∃ counts : List Nat, (stream.readEach clock requests).calls.map Filled.outcome = counts.map .ok ∧
      counts.sum ≤ stream.data.length ∧
      (stream.readEach clock requests).calls.flatMap Filled.bytes = stream.data.take counts.sum ∧
      (stream.readEach clock requests).stream.data = stream.data.drop counts.sum) ∧
    (stream.readEach clock requests).stream.Patient ∧
    (clock.Lasts (requests.map (·.2.ceilMillis)).sum →
      (stream.readEach clock requests).calls.length = requests.length) ∧
    ∀ (last : Clock) (later : List (Bytes × Duration)),
      (∀ request ∈ later, request.1 ≠ [] ∧ 0 < request.2.nanoseconds) →
      (stream.readEach clock requests).stream.effort ≤
        ((stream.readEach clock requests).stream.readEach last later).calls.length →
      ((stream.readEach clock requests).stream.readEach last later).calls.flatMap Filled.bytes =
        (stream.readEach clock requests).stream.data := by
  obtain ⟨⟨counts, outcomes, length⟩, data, left, -⟩ := patient.supplies clock requests
  refine ⟨⟨counts, outcomes, ?_, ?_, ?_⟩, left, stream.readEach_returns, fun last later able enough => ?_⟩
  · rw [← data, ← length, List.length_append]
    exact Nat.le_add_right ..
  · rw [← data, ← length, List.take_left]
  · rw [← data, ← length, List.drop_left]
  · obtain ⟨-, behind, -, less⟩ := left.supplies last later
    have idle := Nat.eq_zero_of_le_zero (Nat.sub_eq_zero_of_le enough ▸ less able)
    rwa [Stream.data_of_effort idle, List.append_nil] at behind

def interrupted : Stream := [.data [1, 2], .wait 150, .failure ⟨.timedOut, ""⟩, .data [3]]

def hasty : List (Bytes × Duration) :=
  [([0, 0, 0, 0], .ofMillis 100), ([0], ⟨18446744073709551615999999999⟩)]

/-- The first call returns two bytes and the second none; those behind them meet the port's own timeout, and get
what is left. -/
theorem interrupted_loses_nothing : interrupted.Patient ∧
    (interrupted.readEach .start hasty).calls.flatMap Filled.bytes = [1, 2] ∧
    (interrupted.readEach .start hasty).stream = [.wait 50, .failure ⟨.timedOut, ""⟩, .data [3]] ∧
    ((interrupted.readEach .start hasty).stream.readEach .start
      (List.replicate 54 ([0, 0], .ofMillis 1))).calls.flatMap Filled.bytes = [3] := by
  have patient : interrupted.Patient := by
    intro fault member
    simp only [interrupted, List.mem_cons, List.not_mem_nil, StreamEvent.failure.injEq, reduceCtorEq, false_or,
      or_false] at member
    rw [member]
  have first : (interrupted.readFull .start [0, 0, 0, 0] (.ofMillis 100)) =
      some ⟨[1, 2, 0, 0], .ok 2, 100, [.wait 50, .failure ⟨.timedOut, ""⟩, .data [3]]⟩ := by
    rw [Stream.readFull_eq_fill (by decide)]
    rfl
  have second (stream : Stream) :
      stream.readFull (Clock.start.after 100) [0] ⟨18446744073709551615999999999⟩ = none :=
    Stream.readFull_eq_none_iff.mpr (by decide)
  have series : interrupted.readEach .start hasty =
      ⟨[some ⟨[1, 2, 0, 0], .ok 2, 100, [.wait 50, .failure ⟨.timedOut, ""⟩, .data [3]]⟩, none],
        Clock.start.after 100, [.wait 50, .failure ⟨.timedOut, ""⟩, .data [3]]⟩ := by
    rw [hasty, Stream.readEach_of_some first, Stream.readEach_of_none (second _)]
    rfl
  obtain ⟨-, -, -, later⟩ := reads_lose_nothing .start interrupted patient hasty
  refine ⟨patient, by rw [series]; rfl, by rw [series], ?_⟩
  rw [later _ _ (by simp [Duration.ofMillis]) ?_, series]
  · rfl
  · rw [Stream.readEach_returns _ (by decide), series]
    decide

end FlightLink
