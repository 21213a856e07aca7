import FlightLink.Proofs.AnswerReception

/-! A backlog of answers. Once the noise on a line is used up, what waits is the rest of
an answer and whole answers behind it. An attempt takes the first of them, or its
announcement when that is in the other version, and the link has its version then. -/

namespace FlightLink

/-- An answer on its way, in the version of its request. -/
structure Dispatch where
  version : Version
  answer : Frame

namespace Dispatch

def bytes (dispatch : Dispatch) : Bytes := dispatch.answer.wire dispatch.version

/-- No preamble behind the first byte, so that no part of the answer passes for another. -/
def Quiet (version : Version) (answer : Frame) : Prop :=
  answer.direction ≠ Frame.refusal ∧ Frame.preamble ∉ (answer.wire version).tail

structure Sound (code : UInt16) (dispatch : Dispatch) : Prop where
  fits : dispatch.answer.Fits dispatch.version
  own : dispatch.answer.code = code
  quiet : Quiet dispatch.version dispatch.answer

def stream (pending : List Dispatch) : Bytes := pending.flatMap bytes

variable {code : UInt16} {pending : List Dispatch} {dispatch : Dispatch}

@[simp] theorem stream_cons : stream (dispatch :: pending) = dispatch.bytes ++ stream pending := rfl

@[simp] theorem stream_append {more : List Dispatch} :
    stream (pending ++ more) = stream pending ++ stream more := List.flatMap_append

theorem bytes_eq : dispatch.bytes =
    Frame.preamble :: dispatch.version.marker :: dispatch.bytes.tail.tail := rfl

end Dispatch

/-- Input without noise: what is left of an answer, and whole answers behind it. -/
def Backlog (code : UInt16) (pending : List Dispatch) (input : Bytes) : Prop :=
  (∀ dispatch ∈ pending, dispatch.Sound code) ∧
    ∃ scrap, Frame.preamble ∉ scrap ∧ input = scrap ++ Dispatch.stream pending

def InStep (pending : List Dispatch) (version : Version) : Prop :=
  ∀ dispatch ∈ pending, dispatch.version = version

variable {code : UInt16} {pending : List Dispatch} {input rest : Bytes}

theorem Backlog.of_suffix {taken : Bytes} (sound : ∀ dispatch ∈ pending, dispatch.Sound code)
    (split : Dispatch.stream pending = taken ++ rest) :
    ∃ left : List Dispatch, left <:+ pending ∧ Backlog code left rest := by
  induction pending generalizing taken with
  | nil =>
    obtain ⟨-, rfl⟩ := List.append_eq_nil_iff.mp split.symm
    exact ⟨[], List.suffix_rfl, sound, [], by simp, rfl⟩
  | cons dispatch pending ih =>
    have behind : ∀ dispatch ∈ pending, dispatch.Sound code :=
      fun later member => sound later (List.mem_cons_of_mem _ member)
    rw [Dispatch.stream_cons] at split
    obtain ⟨more, -, split⟩ | ⟨scrap, whole, rfl⟩ := List.append_eq_append_iff.mp split
    · obtain ⟨left, suffix, backlog⟩ := ih behind split
      exact ⟨left, suffix.trans (List.suffix_cons ..), backlog⟩
    · cases taken with
      | nil =>
        refine ⟨dispatch :: pending, List.suffix_rfl, sound, [], by simp, ?_⟩
        rw [← List.nil_append scrap, ← whole]
        rfl
      | cons byte taken =>
        refine ⟨pending, List.suffix_cons .., behind, scrap, fun member => ?_, rfl⟩
        apply (sound dispatch (List.mem_cons_self ..)).quiet.2
        change Frame.preamble ∈ dispatch.bytes.tail
        rw [whole]
        exact List.mem_append_right _ member

/-- Waiting on a backlog takes its first answer, or its announcement if that is in the
other version. The link has the version of that answer then. -/
theorem Backlog.answered {spare : Nat} {link : Link} {first : Dispatch} {behind : List Dispatch}
    {received : Received Unit} (backlog : Backlog code (first :: behind) input)
    (answered : Link.Answered code spare link input received rest) :
    Backlog code behind rest ∧ received.link.version = first.version ∧
      (received.outcome = .ok () ↔ first.version = link.version) := by
  obtain ⟨sound, scrap, plain, rfl⟩ := backlog
  have later : ∀ dispatch ∈ behind, dispatch.Sound code :=
    fun dispatch member => sound dispatch (List.mem_cons_of_mem _ member)
  have own := sound first (List.mem_cons_self ..)
  by_cases same : first.version = link.version
  · have answer : Link.Answered code spare link (scrap ++ Dispatch.stream (first :: behind))
        ⟨link, first.answer.verdict.1, first.answer.verdict.2⟩ (Dispatch.stream behind) := by
      rw [Dispatch.stream_cons, Dispatch.bytes, same]
      exact .frame (.of_plain plain) (same ▸ own.fits) own.own
    obtain ⟨rfl, rfl⟩ := answer.unique answered
    refine ⟨⟨later, [], by simp, rfl⟩, same.symm, fun _ => same, fun _ => ?_⟩
    rw [Frame.verdict, if_neg own.quiet.1]
  · have other := Version.eq_other_of_ne same
    have parses : Parses link.version (scrap ++ Dispatch.stream (first :: behind))
        ⟨.error (.versionMismatch link.version first.version), []⟩
        (first.bytes.tail.tail ++ Dispatch.stream behind) := by
      rw [Dispatch.stream_cons, Dispatch.bytes_eq, other]
      exact .foreign (.of_plain plain)
    have announced : Link.Answered code spare link (scrap ++ Dispatch.stream (first :: behind)) _ _ :=
      .taken parses rfl
    obtain ⟨rfl, rfl⟩ := announced.unique answered
    refine ⟨⟨later, _, fun member => ?_, rfl⟩, rfl, fun ok => ?_, fun ok => absurd ok same⟩
    · exact own.quiet.2 (List.mem_of_mem_tail member)
    · cases ok

/-- The start of a frame in the version stands somewhere in the input. -/
def Announced (version : Version) (input : Bytes) : Prop :=
  [Frame.preamble, version.marker] <:+: input

private theorem received_calm {link : Link} {receipt : Receipt}
    (parses : Parses link.version input receipt rest)
    (calm : ¬ Announced link.version.other input) : (link.received receipt).link = link := by
  cases parses with
  | @foreign noise rest =>
    exact absurd ⟨noise, rest, by simp⟩ calm
  | _ => rfl

theorem link_of_calm {spare : Nat} {link : Link} {received : Received Unit}
    (answered : Link.Answered code spare link input received rest)
    (calm : ¬ Announced link.version.other input) : received.link = link := by
  have kept (receipt : Receipt) :
      (Link.asAnswer code (link.received receipt)).link = (link.received receipt).link := by
    unfold Link.asAnswer
    split <;> rfl
  induction answered with
  | taken parses | spent parses =>
    rw [kept]
    exact received_calm parses calm
  | dropped parses _ _ ih =>
    obtain ⟨taken, rfl, -⟩ := parses.consumes
    exact ih (fun announced => calm (announced.trans (List.suffix_append ..).isInfix)) kept

private theorem announced_past_plain {version : Version} {plain : Bytes}
    (quiet : Frame.preamble ∉ plain) (announced : Announced version (plain ++ input)) :
    Announced version input := by
  induction plain with
  | nil => exact announced
  | cons byte plain ih =>
    simp only [List.mem_cons, not_or] at quiet
    obtain start | later := List.infix_cons_iff.mp announced
    · exact absurd (List.cons_prefix_cons.mp start).1 quiet.1
    · exact ih quiet.2 later

private theorem stream_calm {version : Version} (sound : ∀ dispatch ∈ pending, dispatch.Sound code)
    (inStep : InStep pending version) : ¬ Announced version.other (Dispatch.stream pending) := by
  induction pending with
  | nil =>
    intro announced
    cases List.infix_nil.mp announced
  | cons dispatch pending ih =>
    intro announced
    rw [Dispatch.stream_cons, Dispatch.bytes_eq] at announced
    have same := inStep dispatch (List.mem_cons_self ..)
    have quiet := (sound dispatch (List.mem_cons_self ..)).quiet.2
    obtain start | later := List.infix_cons_iff.mp announced
    · have marker := (List.cons_prefix_cons.mp (List.cons_prefix_cons.mp start).2).1
      rw [same] at marker
      cases version <;> cases marker
    · refine ih (fun later member => sound later (List.mem_cons_of_mem _ member))
        (fun later member => inStep later (List.mem_cons_of_mem _ member)) ?_
      exact announced_past_plain quiet later

theorem joint_calm {version : Version} {noise : Bytes}
    (sound : ∀ dispatch ∈ pending, dispatch.Sound code) (inStep : InStep pending version)
    (calm : ¬ Announced version.other noise) :
    ¬ Announced version.other (noise ++ Dispatch.stream pending) := by
  induction noise with
  | nil => exact stream_calm sound inStep
  | cons byte noise ih =>
    intro announced
    obtain start | later := List.infix_cons_iff.mp announced
    · obtain ⟨rfl, marked⟩ := List.cons_prefix_cons.mp start
      cases noise with
      | cons second noise =>
        obtain ⟨rfl, -⟩ := List.cons_prefix_cons.mp marked
        exact calm ⟨[], noise, rfl⟩
      | nil =>
        cases pending with
        | nil => cases List.prefix_nil.mp marked
        | cons dispatch pending =>
          have marker := (List.cons_prefix_cons.mp marked).1
          cases version <;> cases marker
    · exact ih (fun announced => calm (announced.trans (List.suffix_cons ..).isInfix)) later

end FlightLink
