import FlightLink.Stream

/-! Filling a buffer takes what comes in time. A script of a stream tells what occurs on it and when; a
buffer takes the bytes up to the first of four things: that it is full, that the stream ends, that it
fails, that the time is up. -/

namespace FlightLink

inductive Occurrence
  | byte (value : UInt8)
  | ending
  | failure (fault : PortFault)
  deriving DecidableEq, Repr

/-- What a call that meets it comes to. A byte does not stop it. -/
def Occurrence.verdict : Occurrence → Option (Except PortFault Unit)
  | byte _ => none
  | ending => some (.ok ())
  | failure fault => some (if fault.kind = .timedOut then .ok () else .error fault)

abbrev Arrival := Nat × UInt8

def Arrival.occurrence (arrival : Arrival) : Nat × Occurrence := (arrival.1, .byte arrival.2)

namespace Stream

/-- What occurs on a stream from now on, and when. -/
def timeline (now : Nat) : Stream → List (Nat × Occurrence)
  | [] => [(now, .ending)]
  | .ending :: rest => (now, .ending) :: timeline now rest
  | .failure fault :: rest => (now, .failure fault) :: timeline now rest
  | .wait millis :: rest => timeline (now + millis) rest
  | .data bytes :: rest => bytes.map (fun byte => (now, .byte byte)) ++ timeline now rest

def resume (attempt : Attempt) (wanted remaining : Nat) : Filling :=
  match attempt.reading with
  | .brought (byte :: bytes) =>
    let later := attempt.stream.fill (wanted - (byte :: bytes).length) (remaining - attempt.elapsed)
    ⟨byte :: bytes ++ later.filled, later.outcome, later.elapsed + attempt.elapsed, later.stream⟩
  | .brought [] | .late => ⟨[], .ok (), attempt.elapsed, attempt.stream⟩
  | .failed fault =>
    ⟨[], if fault.kind = .timedOut then .ok () else .error fault, attempt.elapsed, attempt.stream⟩

theorem resume_wait (attempt : Attempt) (wanted remaining millis : Nat) :
    resume { attempt with elapsed := attempt.elapsed + millis } wanted remaining =
      let later := resume attempt wanted (remaining - millis)
      { later with elapsed := later.elapsed + millis } := by
  obtain ⟨reading, elapsed, left⟩ := attempt
  rcases reading with (_ | ⟨byte, bytes⟩) | fault | _
  · rfl
  · simp [resume, Nat.sub_sub, Nat.add_comm millis, Nat.add_assoc]
  · rfl
  · rfl

@[simp] theorem fill_zero (stream : Stream) (remaining : Nat) :
    stream.fill 0 remaining = ⟨[], .ok (), 0, stream⟩ := by
  rw [fill.eq_def, if_pos rfl]

theorem fill_eq_resume (stream : Stream) {wanted : Nat} (some : wanted ≠ 0) (remaining : Nat) :
    stream.fill wanted remaining = resume (stream.read wanted remaining) wanted remaining := by
  induction stream generalizing remaining with
  | nil => simp [fill, read, resume, some]
  | cons event rest ih =>
    cases event with
    | ending | failure => simp [fill, read, resume, some]
    | wait millis =>
      simp only [fill, read, some, if_false]
      split
      · rw [ih, resume_wait]
      · rfl
    | data bytes =>
      simp only [fill, read, some, if_false]
      cases bytes with
      | nil => simp [ih]
      | cons byte bytes =>
        obtain ⟨wanted, rfl⟩ := Nat.exists_eq_succ_of_ne_zero some
        split
        next more =>
          have fits : wanted ≤ bytes.length := Nat.le_of_lt (Nat.lt_of_succ_lt_succ more)
          simp [resume, fits]
        next all => simp [resume]

theorem length_overwrite (buffer : Bytes) {start : Nat} {bytes : Bytes}
    (inside : start + bytes.length ≤ buffer.length) :
    (overwrite buffer start bytes).length = buffer.length := by
  simp only [overwrite, List.length_append, List.length_take, List.length_drop]
  omega

theorem overwrite_overwrite (buffer : Bytes) {start : Nat} {first second : Bytes}
    (inside : start + first.length ≤ buffer.length) :
    overwrite (overwrite buffer start first) (start + first.length) second =
      overwrite buffer start (first ++ second) := by
  have front : (buffer.take start ++ first).length = start + first.length := by
    simp only [List.length_append, List.length_take]
    omega
  simp only [overwrite, List.take_append_of_le_length (Nat.le_of_eq front.symm),
    List.take_of_length_le (Nat.le_of_eq front)]
  rw [← front, List.drop_append, front]
  simp only [List.drop_drop, List.length_append, List.append_assoc]
  rw [List.drop_of_length_le (by simp; omega)]
  simp [Nat.add_assoc]

theorem read_within (stream : Stream) (wanted remaining : Nat) :
    (stream.read wanted remaining).elapsed ≤ remaining ∧
      ∀ bytes, (stream.read wanted remaining).reading = .brought bytes → bytes.length ≤ wanted := by
  induction stream generalizing remaining with
  | nil => simp [read]
  | cons event rest ih =>
    cases event with
    | ending | failure => simp [read]
    | wait millis =>
      simp only [read]
      split
      next early =>
        obtain ⟨within, fits⟩ := ih (remaining - millis)
        refine ⟨?_, fits⟩
        dsimp only
        omega
      next => exact ⟨Nat.le_refl _, nofun⟩
    | data bytes =>
      simp only [read]
      split
      · exact ih remaining
      · split
        next =>
          refine ⟨Nat.zero_le _, fun taken brought => ?_⟩
          cases brought
          exact List.length_take_le ..
        next all => exact ⟨Nat.zero_le _, by simpa using Nat.le_of_not_lt all⟩

def onto (all : Filling) (buffer : Bytes) (filled now : Nat) : Filled :=
  ⟨overwrite buffer filled all.filled, (fun _ => filled + all.filled.length) <$> all.outcome,
    now + all.elapsed, all.stream⟩

theorem onto_nil (outcome : Except PortFault Unit) (elapsed : Nat) (left : Stream) (buffer : Bytes)
    (filled now : Nat) : onto ⟨[], outcome, elapsed, left⟩ buffer filled now =
      ⟨buffer, (fun _ => filled) <$> outcome, now + elapsed, left⟩ := by
  simp [onto, overwrite]

theorem onto_overwrite (later : Filling) (buffer : Bytes) {filled : Nat} {bytes : Bytes}
    (inside : filled + bytes.length ≤ buffer.length) (now elapsed : Nat) :
    onto later (overwrite buffer filled bytes) (filled + bytes.length) (now + elapsed) =
      onto ⟨bytes ++ later.filled, later.outcome, later.elapsed + elapsed, later.stream⟩
        buffer filled now := by
  simp only [onto]
  rw [overwrite_overwrite buffer inside, List.length_append, Nat.add_assoc, Nat.add_assoc,
    Nat.add_comm later.elapsed]

/-- The loop over the reads is the one pass over the script. -/
theorem fillFrom_eq_fill {deadline : Nat} (stream : Stream) {buffer : Bytes} {filled now : Nat}
    (inside : filled ≤ buffer.length) (early : now ≤ deadline) :
    fillFrom deadline stream buffer filled now =
      onto (stream.fill (buffer.length - filled) (deadline - now)) buffer filled now := by
  fun_induction fillFrom deadline stream buffer filled now with
  | case1 stream buffer filled now more attempt later byte bytes brought ih =>
    obtain ⟨within, fits⟩ := stream.read_within (buffer.length - filled) (deadline - now)
    have within : attempt.elapsed ≤ deadline - now := within
    have room : filled + (byte :: bytes).length ≤ buffer.length :=
      Nat.add_le_of_le_sub' inside (fits _ brought)
    rw [fill_eq_resume stream (Nat.sub_ne_zero_of_lt more),
      ih (by rwa [length_overwrite buffer room]) (by omega), onto_overwrite _ buffer room,
      length_overwrite buffer room]
    change _ = onto (resume attempt _ _) _ _ _
    rw [resume, brought]
    simp only [later, Nat.sub_sub]
  | case2 stream buffer filled now more attempt later ended =>
    rw [fill_eq_resume stream (Nat.sub_ne_zero_of_lt more)]
    change _ = onto (resume attempt _ _) _ _ _
    rw [resume, ended, onto_nil]
    rfl
  | case3 stream buffer filled now more attempt later late =>
    rw [fill_eq_resume stream (Nat.sub_ne_zero_of_lt more)]
    change _ = onto (resume attempt _ _) _ _ _
    rw [resume, late, onto_nil]
    rfl
  | case4 stream buffer filled now more attempt later fault failed =>
    rw [fill_eq_resume stream (Nat.sub_ne_zero_of_lt more)]
    change _ = onto (resume attempt _ _) _ _ _
    rw [resume, failed, onto_nil]
    split <;> rfl
  | case5 stream buffer filled now full =>
    rw [Nat.sub_eq_zero_of_le (Nat.le_of_not_lt full), fill_zero, onto_nil]
    rfl

/-- What a call makes of what occurs, one thing after another, until so many bytes have come. It has
heard something last at the given time. -/
inductive Heeds (deadline : Nat) :
    Nat → Nat → List (Nat × Occurrence) → List Arrival → Except PortFault Unit → Nat → Prop
  | full {last : Nat} {events : List (Nat × Occurrence)} : Heeds deadline 0 last events [] (.ok ()) last
  | late {wanted last time : Nat} {what : Occurrence} {events : List (Nat × Occurrence)}
      (late : deadline < time) : Heeds deadline (wanted + 1) last ((time, what) :: events) [] (.ok ()) deadline
  | stopped {wanted last time : Nat} {what : Occurrence} {events : List (Nat × Occurrence)}
      {outcome : Except PortFault Unit} (early : time ≤ deadline) (stops : what.verdict = some outcome) :
      Heeds deadline (wanted + 1) last ((time, what) :: events) [] outcome time
  | byte {wanted last time finish : Nat} {value : UInt8} {events : List (Nat × Occurrence)}
      {came : List Arrival} {outcome : Except PortFault Unit} (early : time ≤ deadline)
      (rest : Heeds deadline wanted time events came outcome finish) :
      Heeds deadline (wanted + 1) last ((time, .byte value) :: events) ((time, value) :: came) outcome finish

section

variable {deadline wanted last finish : Nat} {events : List (Nat × Occurrence)} {came : List Arrival}
  {outcome : Except PortFault Unit}

theorem Heeds.unique {others : List Arrival} {otherOutcome : Except PortFault Unit} {otherFinish : Nat}
    (heeds : Heeds deadline wanted last events came outcome finish)
    (again : Heeds deadline wanted last events others otherOutcome otherFinish) :
    came = others ∧ outcome = otherOutcome ∧ finish = otherFinish := by
  induction heeds generalizing others with
  | full =>
    cases again
    exact ⟨rfl, rfl, rfl⟩
  | late late =>
    cases again with
    | late => exact ⟨rfl, rfl, rfl⟩
    | stopped early | byte early => exact absurd late (Nat.not_lt.mpr early)
  | stopped early stops =>
    cases again with
    | late late => exact absurd late (Nat.not_lt.mpr early)
    | stopped _ others =>
      rw [stops] at others
      cases others
      exact ⟨rfl, rfl, rfl⟩
    | byte => cases stops
  | byte early _ ih =>
    cases again with
    | late late => exact absurd late (Nat.not_lt.mpr early)
    | stopped _ stops => cases stops
    | byte _ rest =>
      obtain ⟨rfl, rfl, rfl⟩ := ih rest
      exact ⟨rfl, rfl, rfl⟩

def lastTime (last : Nat) (came : List Arrival) : Nat := (came.getLast?.map Prod.fst).getD last

theorem lastTime_cons (last : Nat) (arrival : Arrival) (came : List Arrival) :
    lastTime last (arrival :: came) = lastTime arrival.1 came := by
  cases came with
  | nil => rfl
  | cons => simp [lastTime, List.getLast?_cons]

theorem Heeds.behind {taken : List Arrival} (early : ∀ arrival ∈ taken, arrival.1 ≤ deadline)
    (heeds : Heeds deadline wanted (lastTime last taken) events came outcome finish) :
    Heeds deadline (wanted + taken.length) last (taken.map Arrival.occurrence ++ events) (taken ++ came)
      outcome finish := by
  induction taken generalizing last with
  | nil => exact heeds
  | cons arrival taken ih =>
    obtain ⟨first, early⟩ := List.forall_mem_cons.mp early
    exact .byte first (ih early (lastTime_cons last arrival taken ▸ heeds))

theorem Heeds.anyLast (heeds : Heeds deadline wanted last events came outcome finish) (some : wanted ≠ 0)
    (other : Nat) : Heeds deadline wanted other events came outcome finish := by
  cases heeds with
  | full => exact absurd rfl some
  | late late => exact .late late
  | stopped early stops => exact .stopped early stops
  | byte early rest => exact .byte early rest

theorem Heeds.within (heeds : Heeds deadline wanted last events came outcome finish)
    (before : last ≤ deadline) : finish ≤ deadline := by
  induction heeds with
  | full => exact before
  | late => exact Nat.le_refl _
  | stopped early => exact early
  | byte early _ ih => exact ih early

theorem timeline_eq_cons (now : Nat) (stream : Stream) :
    ∃ time what events, stream.timeline now = (time, what) :: events ∧ now ≤ time := by
  induction stream generalizing now with
  | nil => exact ⟨_, _, _, rfl, Nat.le_refl _⟩
  | cons event rest ih =>
    cases event with
    | ending | failure => exact ⟨_, _, _, rfl, Nat.le_refl _⟩
    | wait millis =>
      obtain ⟨time, what, events, same, later⟩ := ih (now + millis)
      exact ⟨time, what, events, same, by omega⟩
    | data bytes =>
      cases bytes with
      | nil => exact ih now
      | cons => exact ⟨_, _, _, rfl, Nat.le_refl _⟩

def chunk (now : Nat) (bytes : Bytes) : List Arrival := bytes.map fun byte => (now, byte)

@[simp] theorem chunk_bytes (now : Nat) (bytes : Bytes) : (chunk now bytes).map Prod.snd = bytes := by
  simp [chunk, Function.comp_def]

theorem Heeds.chunk {bytes : Bytes} {now : Nat} (early : now ≤ deadline)
    (heeds : Heeds deadline wanted now events came outcome finish) :
    Heeds deadline (wanted + bytes.length) now (bytes.map (fun byte => (now, .byte byte)) ++ events)
      (chunk now bytes ++ came) outcome finish := by
  induction bytes with
  | nil => exact heeds
  | cons byte bytes ih => exact .byte early ih

theorem heeds_fill (stream : Stream) (wanted now remaining : Nat) :
    ∃ came, (stream.fill wanted remaining).filled = came.map Prod.snd ∧
      Heeds (now + remaining) wanted now (stream.timeline now) came (stream.fill wanted remaining).outcome
        (now + (stream.fill wanted remaining).elapsed) := by
  induction stream generalizing wanted now remaining with
  | nil =>
    cases wanted with
    | zero => exact ⟨[], by simp, by simpa using Heeds.full⟩
    | succ => exact ⟨[], by simp [fill], by simpa [fill] using .stopped (by omega) rfl⟩
  | cons event rest ih =>
    cases wanted with
    | zero => exact ⟨[], by simp, by simpa using Heeds.full⟩
    | succ wanted =>
      cases event with
      | ending | failure =>
        exact ⟨[], by simp [fill], by simpa [fill] using .stopped (by omega) rfl⟩
      | wait millis =>
        simp only [fill, timeline, Nat.succ_ne_zero, if_false]
        split
        next early =>
          obtain ⟨came, filled, heeds⟩ := ih (wanted + 1) (now + millis) (remaining - millis)
          refine ⟨came, filled, ?_⟩
          have heeds := heeds.anyLast nofun now
          rwa [Nat.add_assoc, Nat.add_sub_cancel' early, Nat.add_assoc, Nat.add_comm millis] at heeds
        next longer =>
          refine ⟨[], rfl, ?_⟩
          obtain ⟨time, what, events, same, later⟩ := timeline_eq_cons (now + millis) rest
          rw [same]
          exact .late (by omega)
      | data bytes =>
        simp only [fill, timeline, Nat.succ_ne_zero, if_false]
        split
        next more =>
          refine ⟨chunk now (bytes.take (wanted + 1)), by simp, ?_⟩
          have taken : Heeds (now + remaining) (0 + (bytes.take (wanted + 1)).length) now
              ((bytes.take (wanted + 1)).map (fun byte => (now, .byte byte)) ++
                ((bytes.drop (wanted + 1)).map (fun byte => (now, .byte byte)) ++ timeline now rest))
              (chunk now (bytes.take (wanted + 1)) ++ []) (.ok ()) now :=
            .chunk (Nat.le_add_right ..) .full
          rwa [List.length_take_of_le (Nat.le_of_lt more), Nat.zero_add, ← List.append_assoc,
            ← List.map_append, List.take_append_drop, List.append_nil] at taken
        next all =>
          obtain ⟨came, filled, heeds⟩ := ih (wanted + 1 - bytes.length) now remaining
          refine ⟨chunk now bytes ++ came, by simp [filled], ?_⟩
          have taken := @Heeds.chunk _ _ _ _ _ _ bytes _ (Nat.le_add_right ..) heeds
          rwa [Nat.sub_add_cancel (Nat.le_of_not_lt all)] at taken

/-- Bytes that come in time, and what occurs behind them. -/
structure Comes (deadline : Nat) (events : List (Nat × Occurrence)) (came : List Arrival)
    (rest : List (Nat × Occurrence)) : Prop where
  split : events = came.map Arrival.occurrence ++ rest
  early : ∀ arrival ∈ came, arrival.1 ≤ deadline

theorem Comes.cons {time : Nat} {value : UInt8} {rest : List (Nat × Occurrence)} (early : time ≤ deadline)
    (comes : Comes deadline events came rest) :
    Comes deadline ((time, .byte value) :: events) ((time, value) :: came) rest :=
  ⟨congrArg _ comes.split, List.forall_mem_cons.mpr ⟨early, comes.early⟩⟩

theorem Heeds.comes (heeds : Heeds deadline wanted last events came outcome finish) :
    (∃ rest, Comes deadline events came rest ∧
      came.length = wanted ∧ outcome = .ok () ∧ finish = lastTime last came) ∨
    ∃ time what rest, Comes deadline events came ((time, what) :: rest) ∧ came.length < wanted ∧
      (deadline < time ∧ outcome = .ok () ∧ finish = deadline ∨
        time ≤ deadline ∧ what.verdict = some outcome ∧ finish = time) := by
  induction heeds with
  | full => exact .inl ⟨_, ⟨rfl, nofun⟩, rfl, rfl, rfl⟩
  | late late => exact .inr ⟨_, _, _, ⟨rfl, nofun⟩, Nat.succ_pos _, .inl ⟨late, rfl, rfl⟩⟩
  | stopped early stops => exact .inr ⟨_, _, _, ⟨rfl, nofun⟩, Nat.succ_pos _, .inr ⟨early, stops, rfl⟩⟩
  | byte early _ ih =>
    obtain ⟨rest, comes, length, done, time⟩ | ⟨time, what, rest, comes, fewer, course⟩ := ih
    · exact .inl ⟨rest, comes.cons early, congrArg Nat.succ length, done, by rw [time, lastTime_cons]⟩
    · exact .inr ⟨time, what, rest, comes.cons early, Nat.succ_lt_succ fewer, course⟩

/-- How a call to fill a buffer may end, by what occurs and when: with the buffer that it leaves, its
result and the time that it takes. Behind the bytes that came the buffer is as it was. -/
inductive Fills (events : List (Nat × Occurrence)) (deadline : Nat) (buffer : Bytes) :
    Bytes → Except PortFault Nat → Nat → Prop
  | full {came rest} (comes : Comes deadline events came rest) (all : came.length = buffer.length) :
      Fills events deadline buffer (came.map Prod.snd) (.ok buffer.length) (lastTime 0 came)
  | late {came time what rest} (comes : Comes deadline events came ((time, what) :: rest))
      (fewer : came.length < buffer.length) (late : deadline < time) :
      Fills events deadline buffer (came.map Prod.snd ++ buffer.drop came.length) (.ok came.length) deadline
  | ended {came time rest} (comes : Comes deadline events came ((time, .ending) :: rest))
      (fewer : came.length < buffer.length) (early : time ≤ deadline) :
      Fills events deadline buffer (came.map Prod.snd ++ buffer.drop came.length) (.ok came.length) time
  | timedOut {came time fault rest} (comes : Comes deadline events came ((time, .failure fault) :: rest))
      (fewer : came.length < buffer.length) (early : time ≤ deadline) (kind : fault.kind = .timedOut) :
      Fills events deadline buffer (came.map Prod.snd ++ buffer.drop came.length) (.ok came.length) time
  | failed {came time fault rest} (comes : Comes deadline events came ((time, .failure fault) :: rest))
      (fewer : came.length < buffer.length) (early : time ≤ deadline) (kind : fault.kind ≠ .timedOut) :
      Fills events deadline buffer (came.map Prod.snd ++ buffer.drop came.length) (.error fault) time

variable {buffer after : Bytes} {result : Except PortFault Nat}

theorem Heeds.fills (heeds : Heeds deadline buffer.length 0 events came outcome finish) :
    Fills events deadline buffer (came.map Prod.snd ++ buffer.drop came.length)
      ((fun _ => came.length) <$> outcome) finish := by
  obtain ⟨rest, comes, all, rfl, rfl⟩ |
    ⟨time, what, rest, comes, fewer, ⟨late, rfl, rfl⟩ | ⟨early, stops, rfl⟩⟩ := heeds.comes
  · rw [all, List.drop_length, List.append_nil]
    exact .full comes all
  · exact .late comes fewer late
  · cases what with
    | byte => cases stops
    | ending =>
      cases stops
      exact .ended comes fewer early
    | failure fault =>
      cases stops
      split
      next kind => exact .timedOut comes fewer early kind
      next kind => exact .failed comes fewer early kind

theorem Heeds.of_comes {rest : List (Nat × Occurrence)} (comes : Comes deadline events came rest)
    (heeds : Heeds deadline wanted (lastTime last came) rest [] outcome finish) :
    Heeds deadline (wanted + came.length) last events came outcome finish := by
  obtain ⟨rfl, early⟩ := comes
  simpa using heeds.behind early

theorem Heeds.of_stop {time : Nat} {what : Occurrence} {rest : List (Nat × Occurrence)}
    (comes : Comes deadline events came ((time, what) :: rest)) (fewer : came.length < wanted)
    (stop : ∀ wanted last, Heeds deadline (wanted + 1) last ((time, what) :: rest) [] outcome finish) :
    Heeds deadline wanted last events came outcome finish := by
  obtain ⟨more, rfl⟩ := Nat.exists_eq_add_of_lt fewer
  have heeds := Heeds.of_comes comes (stop more (lastTime last came))
  rwa [show more + 1 + came.length = came.length + more + 1 by omega] at heeds

theorem Fills.heeds (fills : Fills events deadline buffer after result finish) :
    ∃ came outcome, Heeds deadline buffer.length 0 events came outcome finish ∧
      after = came.map Prod.snd ++ buffer.drop came.length ∧ result = (fun _ => came.length) <$> outcome := by
  cases fills with
  | @full came rest comes all =>
    refine ⟨came, .ok (), ?_, by simp [all], congrArg Except.ok all.symm⟩
    have heeds := Heeds.of_comes comes (@Heeds.full deadline (lastTime 0 came) rest)
    rwa [Nat.zero_add, all] at heeds
  | late comes fewer late => exact ⟨_, .ok (), .of_stop comes fewer fun _ _ => .late late, rfl, rfl⟩
  | ended comes fewer early => exact ⟨_, .ok (), .of_stop comes fewer fun _ _ => .stopped early rfl, rfl, rfl⟩
  | timedOut comes fewer early kind =>
    exact ⟨_, .ok (), .of_stop comes fewer fun _ _ => .stopped early (by simp [Occurrence.verdict, kind]),
      rfl, rfl⟩
  | @failed _ _ fault _ comes fewer early kind =>
    exact ⟨_, .error fault, .of_stop comes fewer fun _ _ =>
      .stopped early (by simp [Occurrence.verdict, kind]), rfl, rfl⟩

end

variable {clock : Clock} {timeout : Duration}

theorem readFull_eq_none_iff {stream : Stream} {buffer : Bytes} :
    stream.readFull clock buffer timeout = none ↔ ¬ clock.Lasts timeout.ceilMillis := by
  simp [readFull]

theorem readFull_eq_fill (lasts : clock.Lasts timeout.ceilMillis) (stream : Stream) (buffer : Bytes) :
    stream.readFull clock buffer timeout =
      some (onto (stream.fill buffer.length timeout.ceilMillis) buffer 0 0) := by
  rw [readFull, if_pos lasts, fillFrom_eq_fill stream (Nat.zero_le _) (Nat.zero_le _)]
  rfl

theorem heeds_readFull (lasts : clock.Lasts timeout.ceilMillis) (stream : Stream) (buffer : Bytes) :
    ∃ call came outcome, stream.readFull clock buffer timeout = some call ∧
      Heeds timeout.ceilMillis buffer.length 0 (stream.timeline 0) came outcome call.elapsed ∧
      call.buffer = came.map Prod.snd ++ buffer.drop came.length ∧
      call.outcome = (fun _ => came.length) <$> outcome := by
  obtain ⟨came, filled, heeds⟩ := heeds_fill stream buffer.length 0 timeout.ceilMillis
  rw [Nat.zero_add] at heeds
  exact ⟨_, came, _, readFull_eq_fill lasts stream buffer, heeds, by simp [onto, overwrite, filled],
    by simp [onto, filled]⟩

end Stream

/-- Whatever a stream does, whatever the buffer, and whatever the timeout, if the clock goes on to its end: a
call returns, at the deadline at the latest, which is on a whole millisecond. It comes to what the bytes and
the stops on the stream make of it up to then, and to nothing else. So it fails if and only if another failure
than a timeout stops it. An empty buffer leaves the stream alone. -/
theorem readFull_takes_what_comes_in_time {clock : Clock} {timeout : Duration}
    (lasts : clock.Lasts timeout.ceilMillis) (stream : Stream) (buffer : Bytes) :
    ∃ call, stream.readFull clock buffer timeout = some call ∧
      (∀ after outcome elapsed,
        Stream.Fills (stream.timeline 0) timeout.ceilMillis buffer after outcome elapsed ↔
          ∃ left, call = ⟨after, outcome, elapsed, left⟩) ∧
      call.elapsed ≤ timeout.ceilMillis ∧
      (∀ fault, call.outcome = .error fault ↔ fault.kind ≠ .timedOut ∧ ∃ came time rest,
        Stream.Comes timeout.ceilMillis (stream.timeline 0) came ((time, .failure fault) :: rest) ∧
        came.length < buffer.length ∧ time ≤ timeout.ceilMillis) ∧
      (buffer = [] → call = ⟨[], .ok 0, 0, stream⟩) := by
  obtain ⟨call, came, outcome, called, heeds, filled, result⟩ := Stream.heeds_readFull lasts stream buffer
  have course : ∀ after outcome elapsed,
      Stream.Fills (stream.timeline 0) timeout.ceilMillis buffer after outcome elapsed ↔
        ∃ left, call = ⟨after, outcome, elapsed, left⟩ := by
    refine fun after other elapsed => ⟨fun fills => ?_, ?_⟩
    · obtain ⟨others, verdict, again, rfl, rfl⟩ := fills.heeds
      obtain ⟨rfl, rfl, rfl⟩ := heeds.unique again
      exact ⟨_, by rw [← filled, ← result]⟩
    · rintro ⟨left, rfl⟩
      dsimp only at heeds filled result
      rw [filled, result]
      exact heeds.fills
  refine ⟨call, called, course, heeds.within (Nat.zero_le _), fun fault => ⟨fun failed => ?_, ?_⟩, ?_⟩
  · obtain ⟨after, _, elapsed, left⟩ := call
    obtain rfl := failed
    cases (course after (.error fault) elapsed).mpr ⟨left, rfl⟩ with
    | failed comes fewer early kind => exact ⟨kind, _, _, _, comes, fewer, early⟩
  · rintro ⟨kind, came, time, rest, comes, fewer, early⟩
    obtain ⟨left, rfl⟩ := (course _ _ _).mp (.failed comes fewer early kind)
    rfl
  · rintro rfl
    rw [Stream.readFull_eq_fill lasts, List.length_nil, Stream.fill_zero, Stream.onto_nil] at called
    exact (Option.some.inj called).symm

/-- Data that falls together with the deadline is taken, and what is behind it stays. -/
theorem data_at_deadline_taken : Clock.start.Lasts (Duration.ceilMillis ⟨33333333⟩) ∧ ∃ left,
    Stream.readFull .start [.data [1], .wait 34, .data [2], .wait 1, .data [3]] [0, 0, 0] ⟨33333333⟩ =
      some ⟨[1, 2, 0], .ok 2, 34, left⟩ := by
  have lasts : Clock.start.Lasts (Duration.ceilMillis ⟨33333333⟩) := by decide
  obtain ⟨call, called, course, -⟩ := readFull_takes_what_comes_in_time lasts
    [.data [1], .wait 34, .data [2], .wait 1, .data [3]] [0, 0, 0]
  have comes : Stream.Comes 34 (Stream.timeline 0 [.data [1], .wait 34, .data [2], .wait 1, .data [3]])
      [(0, 1), (34, 2)] [(35, .byte 3), (35, .ending)] := ⟨rfl, by decide⟩
  obtain ⟨left, rfl⟩ := (course _ _ _).mp (.late comes (by decide) (by decide))
  exact ⟨lasts, left, called⟩

/-- The longest timeout crashes a call that asks for nothing. And a wait that would be over in time is over too
early, for no sleep is longer than thirty years. -/
theorem longest_timeout_crashes :
    Stream.readFull .start [] [] ⟨18446744073709551615999999999⟩ = none ∧
    Stream.readFull .start [.pause 1000000000000, .data [0x61]] [0] (.ofMillis 2000000000000) =
      some ⟨[0x61], .ok 1, 946080000000, []⟩ := by
  constructor
  · exact Stream.readFull_eq_none_iff.mpr (by decide)
  · rw [Stream.readFull_eq_fill (by decide)]
    rfl

end FlightLink
