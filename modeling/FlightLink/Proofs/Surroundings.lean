import FlightLink.Program

/-! Executions of programs. Surroundings are a relation: the answers that a
request may get in a state, and the state that follows each of them. `Runs` is a
single execution. `Ends` is the promise about all of them: none gets stuck, none
goes on for ever, and each leaves what is wanted. -/

namespace FlightLink

universe u

/-- What surroundings may answer to a request, and the state they pass into. A
request that no answer fits is forbidden in that state. -/
abbrev Surroundings (σ : Type u) :=
  (request : Request) → σ → request.Answer → σ → Prop

namespace Program

variable {σ : Type u} {α β : Type} {answers : Surroundings σ}

theorem bind_eq (program : Program α) (next : α → Program β) :
    program >>= next = program.bind next := rfl

theorem unfold_bind {ρ γ : Type} (body : ρ → Program (Progress ρ γ)) (state : ρ)
    (finished : γ → Program α) (next : α → Program β) :
    unfold body state (fun result => (finished result).bind next) =
      (unfold body state finished).bind next := by
  simp only [unfold, bind_assoc]
  congr 1
  funext progress
  cases progress <;> rfl

def behind {ρ γ : Type} (body : ρ → Program (Progress ρ γ)) (next : γ → Program α) :
    Progress ρ γ → Program α
  | .more state => iterate body state next
  | .done result => next result

theorem unfold_eq_bind {ρ γ : Type} (body : ρ → Program (Progress ρ γ)) (state : ρ)
    (next : γ → Program α) : unfold body state next = (body state).bind (behind body next) := rfl

/-- One execution of a program, from a state to its result and the state it leaves. -/
inductive Runs (answers : Surroundings σ) : Program α → σ → α → σ → Prop
  | pure {result state} : Runs answers (.pure result) state result state
  | ask {request : Request} {next : request.Answer → Program α} {before middle after answer result}
      (answered : answers request before answer middle)
      (rest : Runs answers (next answer) middle result after) :
      Runs answers (.ask request next) before result after
  | iterate {ρ γ : Type} {body : ρ → Program (Progress ρ γ)} {start : ρ} {next : γ → Program α}
      {before after result} (round : Runs answers (unfold body start next) before result after) :
      Runs answers (.iterate body start next) before result after

theorem Runs.bind {program : Program α} {next : α → Program β} {before middle after first result}
    (runs : Runs answers program before first middle)
    (rest : Runs answers (next first) middle result after) :
    Runs answers (program.bind next) before result after := by
  induction runs with
  | pure => exact rest
  | ask answered _ ih => exact .ask answered (ih rest)
  | iterate _ ih =>
    have round := ih rest
    rw [← unfold_bind] at round
    exact .iterate round

theorem Runs.of_bind {program : Program α} {next : α → Program β} {before after result}
    (runs : Runs answers (program.bind next) before result after) :
    ∃ first middle, Runs answers program before first middle ∧
      Runs answers (next first) middle result after := by
  generalize joined : program.bind next = whole at runs
  induction runs generalizing program with
  | pure =>
    cases program with
    | pure first =>
      change next first = _ at joined
      exact ⟨first, _, .pure, joined ▸ .pure⟩
    | ask | iterate => cases joined
  | ask answered rest ih =>
    cases program with
    | pure first =>
      change next first = _ at joined
      exact ⟨first, _, .pure, joined ▸ .ask answered rest⟩
    | ask =>
      cases joined
      obtain ⟨first, middle, runs, rest⟩ := ih rfl
      exact ⟨first, middle, .ask answered runs, rest⟩
    | iterate => cases joined
  | iterate round ih =>
    cases program with
    | pure first =>
      change next first = _ at joined
      exact ⟨first, _, .pure, joined ▸ .iterate round⟩
    | ask => cases joined
    | iterate =>
      cases joined
      obtain ⟨first, middle, runs, rest⟩ := ih (unfold_bind ..).symm
      exact ⟨first, middle, .iterate runs, rest⟩

/-- An execution that need not be finished: what is left of the program, and the state it has come
to. -/
inductive Reaches (answers : Surroundings σ) : Program α → σ → Program α → σ → Prop
  | here {program state} : Reaches answers program state program state
  | ask {request : Request} {next : request.Answer → Program α} {before middle after answer final}
      (answered : answers request before answer middle)
      (rest : Reaches answers (next answer) middle final after) :
      Reaches answers (.ask request next) before final after
  | iterate {ρ γ : Type} {body : ρ → Program (Progress ρ γ)} {start : ρ} {next : γ → Program α}
      {before after final} (round : Reaches answers (unfold body start next) before final after) :
      Reaches answers (.iterate body start next) before final after

theorem Runs.reaches {program : Program α} {before after result}
    (runs : Runs answers program before result after) :
    Reaches answers program before (.pure result) after := by
  induction runs with
  | pure => exact .here
  | ask answered _ ih => exact .ask answered ih
  | iterate _ ih => exact .iterate ih

theorem Reaches.trans {program part final : Program α} {before middle after}
    (first : Reaches answers program before part middle)
    (rest : Reaches answers part middle final after) :
    Reaches answers program before final after := by
  induction first with
  | here => exact rest
  | ask answered _ ih => exact .ask answered (ih rest)
  | iterate _ ih => exact .iterate (ih rest)

theorem Reaches.runs {program : Program α} {before after result}
    (reaches : Reaches answers program before (.pure result) after) :
    Runs answers program before result after := by
  generalize ended : Program.pure result = final at reaches
  induction reaches with
  | here => exact ended ▸ .pure
  | ask answered _ ih => exact .ask answered (ih ended)
  | iterate _ ih => exact .iterate (ih ended)

theorem Reaches.of_bind {program : Program α} {next : α → Program β} {final before after}
    (reaches : Reaches answers (program.bind next) before final after) :
    (∃ part, Reaches answers program before part after ∧ final = part.bind next) ∨
      ∃ first middle, Runs answers program before first middle ∧
        Reaches answers (next first) middle final after := by
  generalize joined : program.bind next = whole at reaches
  induction reaches generalizing program with
  | here => exact .inl ⟨program, .here, joined.symm⟩
  | ask answered rest ih =>
    cases program with
    | pure first =>
      change next first = _ at joined
      exact .inr ⟨first, _, .pure, joined ▸ .ask answered rest⟩
    | ask =>
      cases joined
      obtain ⟨part, reaches, same⟩ | ⟨first, middle, runs, rest⟩ := ih rfl
      · exact .inl ⟨part, .ask answered reaches, same⟩
      · exact .inr ⟨first, middle, .ask answered runs, rest⟩
    | iterate => cases joined
  | iterate round ih =>
    cases program with
    | pure first =>
      change next first = _ at joined
      exact .inr ⟨first, _, .pure, joined ▸ .iterate round⟩
    | ask => cases joined
    | iterate =>
      cases joined
      obtain ⟨part, reaches, same⟩ | ⟨first, middle, runs, rest⟩ := ih (unfold_bind ..).symm
      · exact .inl ⟨part, .iterate reaches, same⟩
      · exact .inr ⟨first, middle, .iterate runs, rest⟩

/-- Every execution from the state comes to an end that is wanted, and every
request on the way gets an answer. -/
inductive Ends (answers : Surroundings σ) (wanted : α → σ → Prop) : Program α → σ → Prop
  | pure {result state} (done : wanted result state) : Ends answers wanted (.pure result) state
  | ask {request : Request} {next : request.Answer → Program α} {state}
      (allowed : ∃ answer after, answers request state answer after)
      (rest : ∀ answer after, answers request state answer after →
        Ends answers wanted (next answer) after) :
      Ends answers wanted (.ask request next) state
  | iterate {ρ γ : Type} {body : ρ → Program (Progress ρ γ)} {start : ρ} {next : γ → Program α}
      {state} (round : Ends answers wanted (unfold body start next) state) :
      Ends answers wanted (.iterate body start next) state

variable {wanted : α → σ → Prop}

theorem Ends.weaken {program : Program α} {state} {other : α → σ → Prop}
    (ends : Ends answers wanted program state)
    (implies : ∀ result after, wanted result after → other result after) :
    Ends answers other program state := by
  induction ends with
  | pure done => exact .pure (implies _ _ done)
  | ask allowed _ ih => exact .ask allowed ih
  | iterate _ ih => exact .iterate ih

theorem Ends.bind {program : Program α} {next : α → Program β} {state} {final : β → σ → Prop}
    (first : Ends answers wanted program state)
    (rest : ∀ result after, wanted result after → Ends answers final (next result) after) :
    Ends answers final (program.bind next) state := by
  induction first with
  | pure done => exact rest _ _ done
  | ask allowed _ ih => exact .ask allowed ih
  | iterate _ ih =>
    apply Ends.iterate
    rw [unfold_bind]
    exact ih

theorem Ends.answered {request : Request} {next : request.Answer → Program α} {before after answer}
    (served : ∀ other state, answers request before other state ↔ other = answer ∧ state = after)
    (rest : Ends answers wanted (next answer) after) :
    Ends answers wanted (.ask request next) before := by
  apply Ends.ask ⟨answer, after, (served answer after).mpr ⟨rfl, rfl⟩⟩
  intro other state given
  obtain ⟨rfl, rfl⟩ := (served other state).mp given
  exact rest

theorem Ends.of_runs {program : Program α} {before after result}
    (ends : Ends answers wanted program before) (runs : Runs answers program before result after) :
    wanted result after := by
  induction runs with
  | pure => cases ends with | pure done => exact done
  | ask answered _ ih => cases ends with | ask _ rest => exact ih (rest _ _ answered)
  | iterate _ ih => cases ends with | iterate round => exact ih round

theorem Ends.reached {program final : Program α} {before after}
    (ends : Ends answers wanted program before) (reaches : Reaches answers program before final after) :
    Ends answers wanted final after := by
  induction reaches with
  | here => exact ends
  | ask answered _ ih => cases ends with | ask _ rest => exact ih (rest _ _ answered)
  | iterate _ ih => cases ends with | iterate round => exact ih round

theorem Ends.exists_runs {program : Program α} {before}
    (ends : Ends answers wanted program before) :
    ∃ result after, Runs answers program before result after ∧ wanted result after := by
  induction ends with
  | pure done => exact ⟨_, _, .pure, done⟩
  | ask allowed _ ih =>
    obtain ⟨answer, middle, given⟩ := allowed
    obtain ⟨result, after, runs, done⟩ := ih answer middle given
    exact ⟨result, after, .ask given runs, done⟩
  | iterate _ ih =>
    obtain ⟨result, after, runs, done⟩ := ih
    exact ⟨result, after, .iterate runs, done⟩

/-- A loop whose every round leads to another round does not come to an end. -/
theorem not_runs_iterate {ρ γ : Type} {body : ρ → Program (Progress ρ γ)} {next : γ → Program α}
    (kept : ρ → σ → Prop) (round : ∀ state before, kept state before → (body state).Ends answers
      (fun progress after => ∃ state, progress = .more state ∧ kept state after) before)
    {start : ρ} {before after : σ} {result : α} (first : kept start before) :
    ¬ Runs answers (.iterate body start next) before result after := by
  let goesOn : Progress ρ γ → σ → Prop := fun progress after =>
    ∃ state, progress = .more state ∧ kept state after
  suffices never : ∀ {program : Program α} {before : σ}, Runs answers program before result after →
      (∀ state, kept state before → program ≠ .iterate body state next) ∧
      ∀ part : Program (Progress ρ γ), part.Ends answers goesOn before →
        program ≠ part.bind (behind body next) by
    exact fun runs => (never runs).1 start first rfl
  -- Induction on the execution, in a round as at its start.
  intro program before runs
  induction runs with
  | pure =>
    refine ⟨fun state _ same => ?_, fun part ends same => ?_⟩
    · cases same
    · cases ends with
      | pure done =>
        obtain ⟨state, rfl, -⟩ := done
        cases same
      | ask | iterate => cases same
  | ask answered _ ih =>
    refine ⟨fun state _ same => ?_, fun part ends same => ?_⟩
    · cases same
    · cases ends with
      | pure done =>
        obtain ⟨state, rfl, -⟩ := done
        cases same
      | ask _ rest =>
        cases same
        exact ih.2 _ (rest _ _ answered) rfl
      | iterate => cases same
  | iterate _ ih =>
    refine ⟨fun state held same => ?_, fun part ends same => ?_⟩
    · cases same
      exact ih.2 _ (round state _ held) rfl
    · cases ends with
      | pure done =>
        obtain ⟨state, rfl, held⟩ := done
        cases same
        exact ih.2 _ (round state _ held) rfl
      | ask => cases same
      | iterate ends =>
        cases same
        exact ih.2 _ ends (unfold_bind ..)

/-- A program that makes allowed requests only, whatever the answers. -/
inductive Uses (allowed : Request → Prop) : {α : Type} → Program α → Prop
  | pure {α : Type} {result : α} : Uses allowed (.pure result)
  | ask {α : Type} {request : Request} {next : request.Answer → Program α} (fine : allowed request)
      (rest : ∀ answer, Uses allowed (next answer)) : Uses allowed (.ask request next)
  | iterate {α ρ γ : Type} {body : ρ → Program (Progress ρ γ)} {start : ρ} {next : γ → Program α}
      (round : ∀ state, Uses allowed (body state)) (rest : ∀ result, Uses allowed (next result)) :
      Uses allowed (.iterate body start next)

theorem Uses.bind {allowed : Request → Prop} {program : Program α} {next : α → Program β}
    (first : program.Uses allowed) (rest : ∀ result, (next result).Uses allowed) :
    (program.bind next).Uses allowed := by
  induction first with
  | pure => exact rest _
  | ask fine _ ih => exact .ask fine fun answer => ih answer rest
  | iterate round _ _ ih => exact .iterate round fun result => ih result rest

theorem Uses.unfold {allowed : Request → Prop} {ρ γ : Type} {body : ρ → Program (Progress ρ γ)}
    {start : ρ} {next : γ → Program α} (round : ∀ state, (body state).Uses allowed)
    (rest : ∀ result, (next result).Uses allowed) : (Program.unfold body start next).Uses allowed := by
  apply (round start).bind
  intro progress
  cases progress with
  | more state => exact .iterate round rest
  | done result => exact rest result

theorem Uses.weaken {allowed other : Request → Prop} {program : Program α}
    (uses : program.Uses allowed) (implies : ∀ request, allowed request → other request) :
    program.Uses other := by
  induction uses with
  | pure => exact .pure
  | ask fine _ ih => exact .ask (implies _ fine) ih
  | iterate _ _ here ih => exact .iterate here ih

theorem Uses.reached {allowed : Request → Prop} {program final : Program α} {before after}
    (uses : program.Uses allowed) (reaches : Reaches answers program before final after) :
    final.Uses allowed := by
  induction reaches with
  | here => exact uses
  | ask _ _ ih => cases uses with | ask _ rest => exact ih (rest _)
  | iterate _ ih => cases uses with | iterate round rest => exact ih (.unfold round rest)

end Program
end FlightLink
