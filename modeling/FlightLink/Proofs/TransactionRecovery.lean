import Mathlib.Logic.Function.Iterate
import Mathlib.Tactic.Choose
import FlightLink.Proofs.AnswerBacklog

/-! Transactions repeated on a line with noise. Every attempt takes something from the
line, so the noise is used up in the end and a backlog is left. Each attempt then takes
the first answer and adds one in the version it sends with. A link that meets an answer
in the other version changes over, but its own answer is now in the version it left. So
host and device get into step only if they are. -/

namespace FlightLink

variable {code : UInt16} {pending : List Dispatch} {input rest : Bytes}

/-- A request that both versions carry, and a device that answers it in either. -/
structure Repeatable (respond : Responder) (code : UInt16) (payload : Bytes) : Prop where
  narrow : code.toNat < 256
  short : payload.length < 255
  answers (version : Version) : respond.Answers version code payload (Dispatch.Quiet version)

/-- The same request over and over, each attempt on the line that the one before it left. -/
structure Attempts (respond : Responder) (code : UInt16) (payload : Bytes) (lines : Nat → Line)
    (outcomes : Nat → Except Fault Unit) : Prop where
  start : (lines 0).link.Coherent
  runs (number : Nat) : ∃ buffer content, Program.Runs (Line.serves respond)
    (transact code payload buffer) (lines number) (outcomes number, content) (lines (number + 1))

section Attempts

variable {respond : Responder} {payload : Bytes} {lines : Nat → Line}
  {outcomes : Nat → Except Fault Unit} {number : Nat}

private theorem takes_both (repeatable : Repeatable respond code payload) {link : Link}
    (coherent : link.Coherent) : link.Takes code payload := by
  refine coherent.takes ?_ fun _ => repeatable.narrow
  cases link.version with
  | v1 => exact repeatable.short
  | v2 => exact Nat.lt_trans repeatable.short (by decide)

private theorem coherent_behind (repeatable : Repeatable respond code payload) {before after : Line}
    {buffer : Bytes} {result : Except Fault Unit × Bytes} (coherent : before.link.Coherent)
    (runs : Program.Runs (Line.serves respond) (transact code payload buffer) before result after) :
    after.link.Coherent := by
  have ends := ends_transact (takes_both repeatable coherent) (repeatable.answers _).responds buffer
  obtain ⟨_, received, -, answered, -, link⟩ := ends.of_runs runs
  exact link ▸ answered.coherent coherent

theorem exists_attempts (repeatable : Repeatable respond code payload) (line : Line)
    (coherent : line.link.Coherent) :
    ∃ lines outcomes, lines 0 = line ∧ Attempts respond code payload lines outcomes := by
  have runs (before : Line) : ∃ outcome after, ∃ content, before.link.Coherent →
      Program.Runs (Line.serves respond) (transact code payload []) before (outcome, content) after := by
    by_cases coherent : before.link.Coherent
    · obtain ⟨⟨outcome, content⟩, after, runs, -⟩ :=
        (ends_transact (takes_both repeatable coherent) (repeatable.answers _).responds []).exists_runs
      exact ⟨outcome, after, content, fun _ => runs⟩
    · exact ⟨.ok (), before, [], fun held => absurd held coherent⟩
  choose outcome after content runs using runs
  have kept (number : Nat) : (after^[number] line).link.Coherent := by
    induction number with
    | zero => exact coherent
    | succ number ih =>
      rw [Function.iterate_succ_apply']
      exact coherent_behind repeatable ih (runs _ ih)
  refine ⟨fun number => after^[number] line, fun number => outcome (after^[number] line), rfl,
    coherent, fun number => ⟨[], content (after^[number] line), ?_⟩⟩
  simp only [Function.iterate_succ_apply']
  exact runs _ (kept number)

theorem Attempts.coherent (attempts : Attempts respond code payload lines outcomes)
    (repeatable : Repeatable respond code payload) (number : Nat) : (lines number).link.Coherent := by
  induction number with
  | zero => exact attempts.start
  | succ number ih =>
    obtain ⟨buffer, content, runs⟩ := attempts.runs number
    exact coherent_behind repeatable ih runs

/-- What one attempt does: the device adds an answer, and what waits then decides. -/
theorem Attempts.step (attempts : Attempts respond code payload lines outcomes)
    (repeatable : Repeatable respond code payload) (number : Nat) :
    ∃ (dispatch : Dispatch) (received : Received Unit), dispatch.Sound code ∧
      dispatch.version = (lines number).link.version ∧
      Link.Answered code (Link.patience - 1) (lines number).link
        ((lines number).inbound ++ dispatch.bytes) received (lines (number + 1)).inbound ∧
      outcomes number = received.outcome ∧ (lines (number + 1)).link = received.link := by
  obtain ⟨buffer, content, runs⟩ := attempts.runs number
  have device := repeatable.answers (lines number).link.version
  have ends := ends_transact (takes_both repeatable (attempts.coherent repeatable number))
    device.responds buffer
  obtain ⟨reply, received, responded, answered, same, link⟩ := ends.of_runs runs
  obtain ⟨answer, fits, own, quiet, rfl⟩ := device.oneFrame reply responded
  exact ⟨⟨_, answer⟩, received, ⟨fits, own, quiet⟩, rfl, answered, congrArg Prod.fst same, link⟩

theorem Attempts.turn (attempts : Attempts respond code payload lines outcomes)
    (repeatable : Repeatable respond code payload)
    (backlog : Backlog code pending (lines number).inbound) :
    ∃ (dispatch first : Dispatch) (behind : List Dispatch), pending ++ [dispatch] = first :: behind ∧
      dispatch.version = (lines number).link.version ∧
      first.version = (lines (number + 1)).link.version ∧
      Backlog code behind (lines (number + 1)).inbound ∧
      (outcomes number = .ok () ↔ first.version = dispatch.version) := by
  obtain ⟨dispatch, received, sound, current, answered, outcome, link⟩ :=
    attempts.step repeatable number
  obtain ⟨old, scrap, plain, waiting⟩ := backlog
  have longer : Backlog code (pending ++ [dispatch]) ((lines number).inbound ++ dispatch.bytes) := by
    refine ⟨?_, scrap, plain, ?_⟩
    · simpa [or_imp, forall_and] using ⟨old, sound⟩
    · simp [waiting, Dispatch.stream]
  cases queue : pending ++ [dispatch] with
  | nil => simp at queue
  | cons first behind =>
    rw [queue] at longer
    obtain ⟨left, announced, passed⟩ := longer.answered answered
    exact ⟨dispatch, first, behind, queue, current, by rw [link, announced], left, by rw [outcome, passed, current]⟩

private theorem inStep_turn {dispatch first : Dispatch} {behind : List Dispatch}
    (queue : pending ++ [dispatch] = first :: behind) :
    InStep behind first.version ↔ InStep pending dispatch.version := by
  have all (version : Version) : InStep pending version ∧ dispatch.version = version ↔
      first.version = version ∧ InStep behind version := by
    have members := congrArg (InStep · version) queue
    simpa [InStep, or_imp, forall_and] using members
  constructor
  · intro behind
    obtain ⟨pending, same⟩ := (all first.version).mpr ⟨rfl, behind⟩
    exact same ▸ pending
  · intro pending
    obtain ⟨same, behind⟩ := (all dispatch.version).mp ⟨pending, rfl⟩
    exact same ▸ behind

theorem Attempts.backlogs (attempts : Attempts respond code payload lines outcomes)
    (repeatable : Repeatable respond code payload)
    (backlog : Backlog code pending (lines number).inbound) {later : Nat} (after : number ≤ later) :
    ∃ left, Backlog code left (lines later).inbound ∧
      (InStep left (lines later).link.version ↔ InStep pending (lines number).link.version) := by
  induction after with
  | refl => exact ⟨pending, backlog, Iff.rfl⟩
  | step _ ih =>
    obtain ⟨left, backlog, inStep⟩ := ih
    obtain ⟨dispatch, first, behind, queue, current, announced, backlog, -⟩ :=
      attempts.turn repeatable backlog
    refine ⟨behind, backlog, ?_⟩
    rw [← announced, inStep_turn queue, current]
    exact inStep

theorem Attempts.ok_of_inStep (attempts : Attempts respond code payload lines outcomes)
    (repeatable : Repeatable respond code payload)
    (backlog : Backlog code pending (lines number).inbound)
    (inStep : InStep pending (lines number).link.version) : outcomes number = .ok () := by
  obtain ⟨dispatch, first, behind, queue, current, -, -, passed⟩ :=
    attempts.turn repeatable backlog
  apply passed.mpr
  have member : first ∈ pending ++ [dispatch] := queue ▸ List.mem_cons_self ..
  obtain member | member := List.mem_append.mp member
  · rw [inStep first member, current]
  · rw [List.mem_singleton.mp member]

/-- Attempts that all pass have taken every answer of the backlog one by one, each in the
version of the link, which they never changed. -/
theorem Attempts.inStep_of_ok (attempts : Attempts respond code payload lines outcomes)
    (repeatable : Repeatable respond code payload)
    (passes : ∀ later ≥ number, outcomes later = .ok ()) {front back : List Dispatch}
    (backlog : Backlog code (front ++ back) (lines number).inbound) :
    InStep front (lines number).link.version := by
  induction front generalizing number back with
  | nil => exact nofun
  | cons head front ih =>
    obtain ⟨dispatch, first, behind, queue, current, announced, left, passed⟩ :=
      attempts.turn repeatable backlog
    have same := passed.mp (passes number (Nat.le_refl _))
    rw [List.cons_append, List.cons_append, List.append_assoc] at queue
    obtain ⟨rfl, rfl⟩ := List.cons.inj queue
    have rest := ih (fun later after => passes later (Nat.le_of_succ_le after)) left
    rw [← announced, same, current] at rest
    intro other member
    obtain rfl | member := List.mem_cons.mp member
    · rw [same, current]
    · exact rest other member

/-- The noise is used up after as many attempts as it has bytes, if not before. A link that
nothing in it tells of the other version is in step then. -/
theorem Attempts.exists_backlog (attempts : Attempts respond code payload lines outcomes)
    (repeatable : Repeatable respond code payload) {noise : Bytes}
    (sound : ∀ dispatch ∈ pending, dispatch.Sound code)
    (waiting : (lines number).inbound = noise ++ Dispatch.stream pending) :
    ∃ later ≤ number + noise.length, number ≤ later ∧ ∃ left,
      Backlog code left (lines later).inbound ∧
      (¬ Announced (lines number).link.version.other noise →
        InStep pending (lines number).link.version → InStep left (lines later).link.version) := by
  induction size : noise.length using Nat.strongRecOn generalizing number noise pending with
  | ind size ih =>
    subst size
    cases noise with
    | nil =>
      refine ⟨number, Nat.le_refl _, Nat.le_refl _, pending, ⟨sound, [], by simp, waiting⟩, ?_⟩
      exact fun _ inStep => inStep
    | cons byte noise =>
      obtain ⟨dispatch, received, fresh, current, answered, -, link⟩ := attempts.step repeatable number
      have all : ∀ other ∈ pending ++ [dispatch], other.Sound code := by
        simpa [or_imp, forall_and] using ⟨sound, fresh⟩
      have joined : (lines number).inbound ++ dispatch.bytes =
          byte :: noise ++ Dispatch.stream (pending ++ [dispatch]) := by
        simp [waiting, Dispatch.stream]
      have calm (quiet : ¬ Announced (lines number).link.version.other (byte :: noise))
          (inStep : InStep pending (lines number).link.version) :
          InStep (pending ++ [dispatch]) (lines (number + 1)).link.version ∧
            (lines (number + 1)).link = (lines number).link := by
        have longer : InStep (pending ++ [dispatch]) (lines number).link.version := by
          simpa [InStep, or_imp, forall_and] using ⟨inStep, current⟩
        have kept := link_of_calm answered (joined ▸ joint_calm all longer quiet)
        rw [link, kept]
        exact ⟨longer, rfl⟩
      obtain ⟨taken, split, some⟩ := answered.consumes
      rw [joined] at split some
      have took := some (by simp)
      obtain ⟨more, -, split⟩ | ⟨rest, whole, behind⟩ := List.append_eq_append_iff.mp split
      · obtain ⟨left, suffix, backlog⟩ := Backlog.of_suffix all split
        refine ⟨number + 1, by simp, Nat.le_succ _, left, backlog, fun quiet inStep => ?_⟩
        exact fun other member => (calm quiet inStep).1 other (suffix.subset member)
      · have shorter : rest.length < (byte :: noise).length := by
          have positive := List.length_pos_iff.mpr took
          rw [whole, List.length_append]
          omega
        obtain ⟨later, bound, after, left, backlog, steady⟩ := ih _ shorter all behind rfl
        refine ⟨later, by omega, by omega, left, backlog, fun quiet inStep => ?_⟩
        obtain ⟨longer, kept⟩ := calm quiet inStep
        refine steady (fun announced => quiet ?_) longer
        rw [kept] at announced
        rw [whole]
        exact announced.trans (List.suffix_append ..).isInfix

/-- A single answer in the version that the link has left is enough: the link changes over to
it, and then its own answer is the one that was left behind. -/
theorem Attempts.alternate (attempts : Attempts respond code payload lines outcomes)
    (repeatable : Repeatable respond code payload) {stray : Dispatch}
    (backlog : Backlog code [stray] (lines number).inbound)
    (differ : stray.version ≠ (lines number).link.version) {later : Nat} (after : number ≤ later) :
    outcomes later ≠ .ok () ∧
      (lines (later + 1)).link.version = (lines later).link.version.other := by
  have left : ∃ stray : Dispatch, Backlog code [stray] (lines later).inbound ∧
      stray.version ≠ (lines later).link.version := by
    induction after with
    | refl => exact ⟨stray, backlog, differ⟩
    | step _ ih =>
      obtain ⟨stray, backlog, differ⟩ := ih
      obtain ⟨dispatch, first, behind, queue, current, announced, left, -⟩ :=
        attempts.turn repeatable backlog
      obtain ⟨rfl, rfl⟩ := List.cons.inj queue
      exact ⟨dispatch, left, by rw [current, ← announced]; exact differ.symm⟩
  obtain ⟨stray, backlog, differ⟩ := left
  obtain ⟨dispatch, first, behind, queue, current, announced, -, passed⟩ :=
    attempts.turn repeatable backlog
  obtain ⟨rfl, -⟩ := List.cons.inj queue
  refine ⟨fun ok => differ ((passed.mp ok).trans current), ?_⟩
  rw [← announced]
  exact Version.eq_other_of_ne differ

/-- Retrying recovers a line just when no answer is left in another version once the noise
is used up, and then after as many attempts at most as there was noise. Noise that never
announces the other version is of this kind. -/
theorem retrying_recovers_iff (repeatable : Repeatable respond code payload) (line : Line) :
    (∀ before buffer, before.link.Coherent → (transact code payload buffer).Ends (Line.serves respond)
      (fun _ _ => True) before) ∧
    ∀ lines outcomes, lines 0 = line → Attempts respond code payload lines outcomes →
      ∃ settled ≤ line.inbound.length, ∃ pending, Backlog code pending (lines settled).inbound ∧
        ((∃ last, ∀ later ≥ last, outcomes later = .ok ()) ↔
          InStep pending (lines settled).link.version) ∧
        (InStep pending (lines settled).link.version → ∀ later ≥ settled, outcomes later = .ok ()) ∧
        (¬ Announced line.link.version.other line.inbound →
          InStep pending (lines settled).link.version) := by
  constructor
  · intro before buffer coherent
    have ends := ends_transact (takes_both repeatable coherent) (repeatable.answers _).responds buffer
    exact ends.weaken fun _ _ _ => trivial
  intro lines outcomes same attempts
  subst same
  have waiting : (lines 0).inbound = (lines 0).inbound ++ Dispatch.stream [] :=
    (List.append_nil _).symm
  obtain ⟨settled, bound, -, pending, backlog, calm⟩ := attempts.exists_backlog repeatable (by simp) waiting
  have lasting (inStep : InStep pending (lines settled).link.version) (later : Nat)
      (after : settled ≤ later) : outcomes later = .ok () := by
    obtain ⟨left, backlog, kept⟩ := attempts.backlogs repeatable backlog after
    exact attempts.ok_of_inStep repeatable backlog (kept.mpr inStep)
  refine ⟨settled, by simpa using bound, pending, backlog, ⟨?_, ?_⟩, lasting, ?_⟩
  · intro recovers
    obtain ⟨last, passes⟩ := recovers
    obtain ⟨left, backlog, kept⟩ := attempts.backlogs repeatable backlog (Nat.le_max_right last settled)
    apply kept.mp
    rw [← List.append_nil left] at backlog
    exact attempts.inStep_of_ok repeatable
      (fun later after => passes later (Nat.le_trans (Nat.le_max_left ..) after)) backlog
  · exact fun inStep => ⟨settled, lasting inStep⟩
  · exact fun quiet => calm quiet (by simp [InStep])

end Attempts

def laconic : Responder :=
  fun request reply => ∃ version, request = (Frame.ofRequest 109 []).wire version ∧
    reply = Frame.wire version ⟨Frame.answer, 0, 109, []⟩

private theorem laconic_repeatable : Repeatable laconic 109 [] := by
  refine ⟨by decide, by decide, fun version => ⟨⟨_, version, rfl, rfl⟩, ?_⟩⟩
  intro reply replied
  obtain ⟨answered, same, rfl⟩ := replied
  obtain rfl : version = answered := by
    cases version <;> cases answered <;> first | rfl | cases same
  refine ⟨⟨Frame.answer, 0, 109, []⟩, ?_, rfl, ⟨by decide, ?_⟩, rfl⟩
  · cases version <;> decide
  · cases version <;> decide +kernel

/-- Three bytes of noise that announce nothing cost three attempts at most. -/
theorem plain_noise_passes : Repeatable laconic 109 [] ∧ ∃ lines outcomes,
    lines 0 = ⟨.new .v1, [1, 2, 3], []⟩ ∧ Attempts laconic 109 [] lines outcomes ∧
      ∀ later ≥ 3, outcomes later = .ok () := by
  refine ⟨laconic_repeatable, ?_⟩
  obtain ⟨lines, outcomes, start, attempts⟩ :=
    exists_attempts laconic_repeatable ⟨.new .v1, [1, 2, 3], []⟩ Link.coherent_new
  obtain ⟨-, recovers⟩ := retrying_recovers_iff laconic_repeatable ⟨.new .v1, [1, 2, 3], []⟩
  obtain ⟨settled, bound, pending, -, -, lasting, calm⟩ := recovers lines outcomes start attempts
  have quiet : ¬ Announced Version.v1.other [1, 2, 3] := by
    simp [Announced, List.infix_cons_iff, List.cons_prefix_cons, Frame.preamble]
  exact ⟨lines, outcomes, start, attempts,
    fun later after => lasting (calm quiet) later (Nat.le_trans bound after)⟩

/-- Two bytes of noise that announce MSPv2 to a link over MSPv1: the attempts never pass. -/
theorem attempts_alternate_for_ever :
    Repeatable laconic 109 [] ∧ ∃ lines outcomes,
      lines 0 = ⟨.new .v1, [Frame.preamble, Version.v2.marker], []⟩ ∧
      Attempts laconic 109 [] lines outcomes ∧ ∀ number, outcomes number ≠ .ok () ∧
        (lines (number + 1)).link.version = (lines number).link.version.other := by
  refine ⟨laconic_repeatable, ?_⟩
  obtain ⟨lines, outcomes, start, attempts⟩ :=
    exists_attempts laconic_repeatable ⟨.new .v1, [Frame.preamble, Version.v2.marker], []⟩
      Link.coherent_new
  refine ⟨lines, outcomes, start, attempts, ?_⟩
  obtain ⟨dispatch, received, sound, current, answered, outcome, link⟩ :=
    attempts.step laconic_repeatable 0
  have parses : Parses .v1 ([Frame.preamble, Version.v2.marker] ++ dispatch.bytes)
      ⟨.error (.versionMismatch .v1 .v2), []⟩ dispatch.bytes := .foreign .nil
  rw [start] at answered current
  obtain ⟨rfl, left⟩ := (Link.Answered.taken parses rfl).unique answered
  have backlog : Backlog 109 [dispatch] (lines 1).inbound := by
    refine ⟨by simpa using sound, [], by simp, ?_⟩
    rw [left]
    simp [Dispatch.stream]
  have differ : dispatch.version ≠ (lines 1).link.version := by
    rw [current, link]
    decide
  intro number
  cases number with
  | zero =>
    rw [outcome, link, start]
    exact ⟨nofun, rfl⟩
  | succ number => exact attempts.alternate laconic_repeatable backlog differ (Nat.le_add_left ..)

end FlightLink
