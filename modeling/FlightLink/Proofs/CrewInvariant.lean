import FlightLink.Proofs.ConversationProgress

/-! What holds between any two steps of a crew. The invariant is carried by what the
holder of the link has still to do; whoever does not have the link is courteous, and the
line is clear when nobody has it. Each kind of step keeps it. -/

namespace FlightLink

variable {respond : Responder} {task : Nat}

namespace Crew

structure Valid (respond : Responder) (crew : Crew) : Prop where
  others : ∀ task program, crew.tasks[task]? = some program →
    (∀ held, crew.holder = some held → held.task ≠ task) → Courteous program
  clear : crew.holder = none → crew.inbound = []
  attends : ∀ held, crew.holder = some held → ∃ program, crew.tasks[held.task]? = some program ∧
    Attends respond (Concludes respond held.task held.before) program
      ⟨crew.link, crew.inbound, held.acts⟩
  whole : ∀ tenure ∈ crew.tenures, tenure.Whole respond
  recorded : crew.trace =
    crew.tenures.flatMap Tenure.trace ++ (crew.holder.map Holding.trace).getD []

variable {crew : Crew} {program after : Program Unit}

private theorem Valid.goesOn (valid : crew.Valid respond) (due : crew.tasks[task]? = some program)
    (courteous : Courteous program → Courteous after)
    (attends : ∀ held, crew.holder = some held → held.task = task →
      ∀ wanted line, Attends respond wanted program line → Attends respond wanted after line) :
    (crew.goesOn task after).Valid respond where
  others index other found away := by
    obtain ⟨rfl, rfl⟩ | ⟨-, found⟩ := found_of_set found
    · exact courteous (valid.others task program due away)
    · exact valid.others index other found away
  clear := valid.clear
  attends held holds := by
    obtain ⟨current, found, attended⟩ := valid.attends held holds
    by_cases same : task = held.task
    · subst same
      rw [due] at found
      cases found
      exact ⟨after, set_due due, attends held holds rfl _ _ attended⟩
    · exact ⟨current, (List.getElem?_set_ne same).trans found, attended⟩
  whole := valid.whole
  recorded := valid.recorded

private theorem Valid.joined (valid : crew.Valid respond) (courteous : Courteous program) :
    Valid respond { crew with tasks := crew.tasks ++ [program] } where
  others index other found away := by
    obtain inside | outside := Nat.lt_or_ge index crew.tasks.length
    · rw [List.getElem?_append_left inside] at found
      exact valid.others index other found away
    · rw [List.getElem?_append_right outside, List.getElem?_singleton] at found
      split at found
      · cases found
        exact courteous
      · cases found
  clear := valid.clear
  attends held holds := by
    obtain ⟨current, found, attended⟩ := valid.attends held holds
    have inside := (List.getElem?_eq_some_iff.mp found).1
    exact ⟨current, (List.getElem?_append_left inside).trans found, attended⟩
  whole := valid.whole
  recorded := valid.recorded

private theorem Valid.acquire (reliable : respond.Reliable) (valid : crew.Valid respond)
    {next : Link → Program Unit} (due : crew.tasks[task]? = some (.ask .acquire next))
    (free : crew.holder = none) :
    Valid respond
      { crew.goesOn task (next crew.link) with holder := some ⟨task, .ask .acquire next, []⟩ } where
  others index other found away := by
    obtain ⟨rfl, -⟩ | ⟨-, found⟩ := found_of_set found
    · exact absurd rfl (away _ rfl)
    · refine valid.others index other found ?_
      rw [free]
      exact nofun
  clear := nofun
  attends held holds := by
    cases holds
    have courteous := valid.others task _ due (by rw [free]; exact nofun)
    refine ⟨next crew.link, set_due due, ?_⟩
    change Attends respond _ _ ⟨crew.link, crew.inbound, []⟩
    rw [valid.clear free]
    exact courteous_acquire reliable courteous crew.link
  whole := valid.whole
  recorded := by
    have recorded := valid.recorded
    rw [free] at recorded
    exact recorded

/-- Only the holder gives the link back, and it has concluded its tenure then. -/
private theorem Valid.release (valid : crew.Valid respond) {link : Link}
    {next : Unit → Program Unit} (due : crew.tasks[task]? = some (.ask (.release link) next)) :
    Valid respond
      { crew.goesOn task (next ()) with
        link, holder := none
        tenures := crew.tenures ++ (crew.holder.map (·.close (next ()))).toList } := by
  by_cases own : ∃ held, crew.holder = some held ∧ held.task = task
  · obtain ⟨held, holds, rfl⟩ := own
    obtain ⟨current, found, attended⟩ := valid.attends held holds
    rw [due] at found
    cases found
    cases attended with
    | listen listening => cases listening
    | release done =>
      obtain ⟨clear, courteous, whole⟩ := done
      refine ⟨?_, fun _ => clear, nofun, ?_, ?_⟩
      · intro index other found _
        obtain ⟨rfl, rfl⟩ | ⟨elsewhere, found⟩ := found_of_set found
        · exact courteous
        · refine valid.others index other found fun other same => ?_
          rw [holds] at same
          cases same
          exact elsewhere
      · intro tenure member
        rw [holds] at member
        obtain member | member := List.mem_append.mp member
        · exact valid.whole tenure member
        · cases List.mem_singleton.mp member
          exact whole
      · have recorded := valid.recorded
        have closed : (held.close (next ())).trace = held.trace := rfl
        rw [holds] at recorded ⊢
        change crew.trace = _
        simpa [closed] using recorded
  · have courteous := valid.others task _ due fun held holds same => own ⟨held, holds, same⟩
    obtain ⟨aside, -⟩ := courteous_ask courteous nofun
    cases aside

private theorem Valid.answered (valid : crew.Valid respond) {request : Request}
    {next : request.Answer → Program Unit} {answer : request.Answer} {line : Line} {held : Holding}
    (holds : crew.holder = some held)
    (due : crew.tasks[held.task]? = some (.ask request next)) (onLine : request.OnLine)
    (served : Line.serves respond request crew.line answer line) :
    (crew.acted held.task (next answer) line).Valid respond := by
  have kept := @acted_holder crew (next answer) held holds line
  refine ⟨?_, ?_, ?_, valid.whole, ?_⟩
  · intro index other found away
    obtain ⟨rfl, -⟩ | ⟨elsewhere, found⟩ := found_of_set found
    · exact (away _ kept rfl).elim
    · refine valid.others index other found fun other same => ?_
      rw [holds] at same
      cases same
      exact elsewhere
  · intro free
    rw [kept] at free
    cases free
  · intro holding same
    rw [kept] at same
    cases same
    refine ⟨next answer, set_due due, ?_⟩
    obtain ⟨current, found, attended⟩ := valid.attends held holds
    rw [due] at found
    cases found
    have recorded := Line.serves_recorded onLine held.acts served
    cases attended with
    | release => cases onLine
    | listen _ _ rest => exact rest _ _ recorded
    | write _ _ rest =>
      obtain ⟨rfl, reply, responded, same⟩ := recorded
      have resumed := rest reply responded
      rw [← same] at resumed
      exact resumed
  · rw [kept]
    change crew.trace ++ traced held.task line.history = _
    rw [valid.recorded, holds]
    simp [acted, Holding.trace, traced]

private theorem Valid.reported (valid : crew.Valid respond) {request : Request}
    {next : request.Answer → Program Unit} {answer : request.Answer} {line : Line}
    (due : crew.tasks[task]? = some (.ask request next)) (onLine : request.OnLine)
    (away : ∀ held, crew.holder = some held → held.task ≠ task)
    (served : Line.serves respond request crew.line answer line) :
    (crew.acted task (next answer) line).Valid respond := by
  have courteous := valid.others task _ due away
  have other : request ≠ .acquire := by
    intro same
    subst same
    cases onLine
  obtain ⟨aside, rest⟩ := courteous_ask courteous other
  cases request with
  | report event =>
    obtain rfl := served
    have unchanged : crew.acted task (next answer) (crew.line.note (.reported event)) =
        crew.goesOn task (next answer) := by
      have holder : crew.holder.map (·.and task [.reported event]) = crew.holder := by
        cases holds : crew.holder with
        | none => rfl
        | some held => simp [Holding.and, away held holds]
      simp only [acted, line, Line.note, List.nil_append, holder]
      simp [traced, Act.atPort]
      rfl
    rw [unchanged]
    exact valid.goesOn due (fun _ => rest answer)
      fun held holds same => (away held holds same).elim
  | _ => first | exact False.elim aside | exact False.elim onLine

theorem Valid.step (reliable : respond.Reliable) {crew next : Crew} (valid : crew.Valid respond)
    (step : Step respond crew next) : next.Valid respond := by
  cases step with
  | iterate due =>
    refine valid.goesOn due (fun courteous => ?_) fun _ _ _ wanted line attended => ?_
    · generalize same : Program.iterate _ _ _ = program at courteous
      cases courteous with
      | iterate round rest =>
        cases same
        exact .unfold round rest
      | transact =>
        rw [transact_eq] at same
        cases same
      | sendChannels =>
        rw [sendChannels_eq] at same
        cases same
      | _ => cases same
    · cases attended with
      | iterate round => exact round
  | acquire due free => exact valid.acquire reliable due free
  | release due => exact valid.release due
  | @onLine task request next answer line due onLine served =>
    by_cases own : ∃ held, crew.holder = some held ∧ held.task = task
    · obtain ⟨held, holds, rfl⟩ := own
      exact valid.answered holds due onLine served
    · exact valid.reported due onLine (fun held holds same => own ⟨held, holds, same⟩) served
  | @elsewhere task request next due away answer =>
    have other : request ≠ .acquire := by
      intro same
      subst same
      cases away
    refine valid.goesOn due (fun courteous => (courteous_ask courteous other).2 answer)
      fun _ _ _ wanted line attended => ?_
    cases attended with
    | listen listening =>
      cases request <;> first | exact False.elim listening | exact False.elim away
    | release | write => cases away
  | crash due =>
    refine valid.goesOn due (fun _ => .pure) fun _ _ _ wanted line attended => ?_
    cases attended with
    | listen listening => cases listening
  | @launch task poller subscriber next due kind period =>
    have gone : (crew.goesOn task (next ())).Valid respond := by
      refine valid.goesOn due (fun courteous => (courteous_ask courteous nofun).2 ())
        fun _ _ _ wanted line attended => ?_
      cases attended with
      | listen listening => cases listening
    exact gone.joined (Poller.courteous_activity poller kind period subscriber)

theorem Valid.reached (reliable : respond.Reliable) {crew next : Crew} (valid : crew.Valid respond)
    (reached : Reaches respond crew next) : next.Valid respond := by
  induction reached with
  | refl => exact valid
  | tail _ step ih => exact ih.step reliable step

theorem valid_start (version : Version) (pollers : List (Poller × Subscriber)) (session : Session)
    (operations : List Operation) (conversing : ∀ operation ∈ operations, operation.Conversing) :
    (start version pollers session operations).Valid respond where
  others index program found _ := by
    have member := List.mem_of_getElem? found
    obtain member | member := List.mem_append.mp member
    · obtain ⟨⟨poller, subscriber⟩, -, rfl⟩ := List.mem_map.mp member
      exact Poller.courteous_activity ..
    · obtain rfl := List.mem_singleton.mp member
      exact (session.courteous_performAll operations conversing).bind fun _ => .pure
  clear _ := rfl
  attends := nofun
  whole := nofun
  recorded := rfl

end Crew
end FlightLink
