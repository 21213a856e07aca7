import FlightLink.Proofs.CrewInvariant

/-! Exclusive conversations. Tasks that come to the port by whole conversations only
never find each other there: while one has the link the others are elsewhere, and what
waits to be read is the answer to its own request. -/

namespace FlightLink

variable {respond : Responder} {task : Nat}

def Request.AtPort : Request → Prop
  | .write _ | .flush | .read _ | .discardInput => True
  | _ => False

structure Crew.Exclusive (respond : Responder) (crew : Crew) : Prop where
  /-- Only the holder of the link is at the port. -/
  alone (task : Nat) (request : Request) (next : request.Answer → Program Unit) :
    crew.tasks[task]? = some (.ask request next) → request.AtPort →
      ∃ held, crew.holder = some held ∧ held.task = task
  /-- Nothing waits to be read where something is about to be written. -/
  unread (task : Nat) (bytes : Bytes) (next : Except PortFault Nat → Program Unit) :
    crew.tasks[task]? = some (.ask (.write bytes) next) → crew.inbound = []
  clear : crew.holder = none → crew.inbound = []
  /-- What was done at the port was done in one tenure after another, each by one task. -/
  recorded : crew.trace =
    crew.tenures.flatMap Tenure.trace ++ (crew.holder.map Holding.trace).getD []
  whole : ∀ tenure ∈ crew.tenures, tenure.Whole respond
  /-- What is under way is the beginning of a whole tenure. -/
  begun : ∀ held, crew.holder = some held → ∃ more after,
    Tenure.Whole respond ⟨held.task, held.before, held.acts ++ more, after⟩

namespace Crew

private theorem Valid.alone {crew : Crew} (valid : crew.Valid respond) {request : Request}
    {next : request.Answer → Program Unit} (due : crew.tasks[task]? = some (.ask request next))
    (atPort : request.AtPort) : ∃ held, crew.holder = some held ∧ held.task = task := by
  apply Classical.byContradiction
  intro apart
  have courteous := valid.others task _ due fun held holds same => apart ⟨held, holds, same⟩
  have other : request ≠ .acquire := by
    intro same
    subst same
    cases atPort
  have aside := (courteous_ask courteous other).1
  cases request <;> first | exact False.elim atPort | exact False.elim aside

private theorem attends_frees {wanted : Line → Program Unit → Prop} {program : Program Unit}
    {line : Line} (attends : Attends respond wanted program line) {crew : Crew} {held : Holding}
    (holds : crew.holder = some held) (due : crew.tasks[held.task]? = some program)
    (same : line = ⟨crew.link, crew.inbound, held.acts⟩) :
    ∃ next more after, Reaches respond crew next ∧ next.holder = none ∧
      next.tenures = crew.tenures ++ [⟨held.task, held.before, held.acts ++ more, after⟩] := by
  induction attends generalizing crew held with
  | @release link next line done =>
    refine ⟨_, [], next (), .single (.release due), rfl, ?_⟩
    rw [holds, List.append_nil]
    rfl
  | @listen request next line listening answered _ ih =>
    obtain ⟨answer, after, served⟩ := answered
    have onLine := listening.onLine
    subst same
    obtain ⟨line, fresh, same⟩ := Line.serves_unrecorded onLine served
    obtain ⟨last, more, rest, reached, free, tenures⟩ :=
      ih answer after served (acted_holder holds) (set_due due) same
    refine ⟨last, line.history ++ more, rest, .head (.onLine due onLine fresh) reached, free, ?_⟩
    rw [tenures, List.append_assoc]
    rfl
  | @write bytes next line clear responds _ ih =>
    obtain ⟨reply, responded⟩ := responds
    subst same
    have served : Line.serves respond (.write bytes) crew.line (.ok bytes.length)
        (crew.line.exchanged bytes reply) := ⟨rfl, reply, responded, rfl⟩
    have kept := @acted_holder crew (next (.ok bytes.length)) held holds
      (crew.line.exchanged bytes reply)
    obtain ⟨last, more, rest, reached, free, tenures⟩ := ih reply responded kept (set_due due) rfl
    refine ⟨last, .wrote bytes reply :: more, rest, .head (.onLine due trivial served) reached, free, ?_⟩
    rw [tenures, List.append_assoc]
    rfl
  | @iterate ρ γ body start next line _ ih =>
    have kept : (crew.goesOn held.task (Program.unfold body start next)).holder = some held := holds
    obtain ⟨last, more, rest, reached, free, tenures⟩ := ih kept (set_due due) same
    exact ⟨last, more, rest, .head (.iterate due) reached, free, tenures⟩

/-- Whoever has the link can finish its tenure, without waiting for anybody. -/
theorem Valid.frees {crew : Crew} (valid : crew.Valid respond) {held : Holding}
    (holds : crew.holder = some held) :
    ∃ next more after, Reaches respond crew next ∧ next.holder = none ∧
      next.tenures = crew.tenures ++ [⟨held.task, held.before, held.acts ++ more, after⟩] := by
  obtain ⟨program, due, attended⟩ := valid.attends held holds
  exact attends_frees attended holds due rfl

theorem Valid.exclusive {crew : Crew} (valid : crew.Valid respond) : crew.Exclusive respond where
  alone _ _ _ due atPort := valid.alone due atPort
  unread task bytes next due := by
    obtain ⟨held, holds, rfl⟩ := valid.alone due trivial
    obtain ⟨current, found, attended⟩ := valid.attends held holds
    rw [due] at found
    cases found
    cases attended with
    | listen listening => cases listening
    | write clear => exact clear
  clear := valid.clear
  recorded := valid.recorded
  whole := valid.whole
  begun held holds := by
    obtain ⟨current, found, attended⟩ := valid.attends held holds
    obtain ⟨line, after, more, record, -, -, whole⟩ := attended.concludes
    rw [record] at whole
    exact ⟨more, after, whole⟩

/-- Any pollers and any session share the link exclusively, in whatever order their steps
are taken, with every device that answers each whole request with one frame. -/
theorem start_exclusive (reliable : respond.Reliable) (version : Version)
    (pollers : List (Poller × Subscriber)) (session : Session) (operations : List Operation)
    (conversing : ∀ operation ∈ operations, operation.Conversing) {crew : Crew}
    (reached : Reaches respond (start version pollers session operations) crew) :
    crew.Exclusive respond :=
  ((valid_start version pollers session operations conversing).reached reliable reached).exclusive

end Crew

def acknowledging : Responder :=
  fun request reply => ∃ version code payload, (Frame.ofRequest code payload).Fits version ∧
    request = (Frame.ofRequest code payload).wire version ∧
    reply = Frame.wire version ⟨Frame.answer, 0, code, []⟩

private theorem acknowledging_reliable : acknowledging.Reliable := by
  intro version code payload fits
  refine ⟨⟨_, version, code, payload, fits, rfl, rfl⟩, ?_⟩
  intro reply replied
  obtain ⟨announced, asked, content, room, same, rfl⟩ := replied
  obtain rfl : version = announced := by
    have marker := (List.cons.inj (List.cons.inj same).2).1
    cases version <;> cases announced <;> first | rfl | cases marker
  have parses := @Parses.frame version [] [] _ .nil room
  rw [← same] at parses
  obtain ⟨receipts, -⟩ := parses.unique (.frame .nil fits)
  have codes : Except.ok code = Except.ok asked := congrArg Receipt.code receipts
  cases codes
  exact ⟨⟨Frame.answer, 0, code, []⟩, ⟨Nat.zero_le _, fits.2⟩, rfl, trivial, rfl⟩

def duet : Crew :=
  Crew.start .v1 [(⟨⟨0⟩, .altitude, 10, ⟨100000000⟩⟩, ⟨"altitude", none⟩)]
    (Session.start ⟨.initial, .initial, [], .default⟩) [.transact 109 []]

private theorem duet_writes : ∃ crew, Crew.Reaches acknowledging duet crew ∧ ∃ held reply,
    crew.holder = some held ∧ held.acts = [.wrote (Frame.wire .v1 (.ofRequest 109 [])) reply] := by
  have takes := @Crew.Step.acquire acknowledging duet 1 _ rfl rfl
  have responds : acknowledging (Frame.wire .v1 (.ofRequest 109 []))
    (Frame.wire .v1 ⟨Frame.answer, 0, 109, []⟩) := ⟨.v1, 109, [], by decide, rfl, rfl⟩
  exact ⟨_, .tail (.tail (.single takes)
    (@Crew.Step.onLine acknowledging _ 1 .isOpen _ true _ rfl trivial ⟨rfl, rfl⟩))
    (@Crew.Step.onLine acknowledging _ 1 (.write (Frame.wire .v1 (.ofRequest 109 []))) _
      (.ok (Frame.wire .v1 (.ofRequest 109 [])).length) _ rfl trivial ⟨rfl, _, responds, rfl⟩),
    _, _, rfl, rfl⟩

/-- The session writes its request, and has its answer when it gives the link back. -/
theorem duet_exclusive : ∃ crew, Crew.Reaches acknowledging duet crew ∧
    crew.Exclusive acknowledging ∧ ∃ tenure ∈ crew.tenures, tenure.acts ≠ [] := by
  have conversing : ∀ operation ∈ [Operation.transact 109 []], operation.Conversing := by
    simp [Operation.Conversing]
  obtain ⟨writing, reached, held, reply, holds, written⟩ := duet_writes
  have valid := (Crew.valid_start _ _ _ _ conversing).reached acknowledging_reliable reached
  obtain ⟨crew, more, after, later, -, tenures⟩ := valid.frees holds
  refine ⟨crew, reached.trans later, ?_, _, by rw [tenures]; exact List.mem_append_right _ (.head _), ?_⟩
  · exact Crew.start_exclusive acknowledging_reliable _ _ _ _ conversing (reached.trans later)
  · simp [written]

end FlightLink
