import FlightLink.Proofs.ProgramRecord

/-! Loops in surroundings of which nothing is known. What a loop has asked is whole rounds, one after
another, and the beginning of one more. -/

namespace FlightLink
namespace Program

variable {α β ρ γ : Type}

theorem Reaches.anywhere {program final : Program α} {before after : Record}
    (reaches : Reaches Record.anything program before final after) :
    ∃ said, after = before ++ said ∧
      ∀ other, Reaches Record.anything program other final (other ++ said) := by
  induction reaches with
  | here => exact ⟨[], (List.append_nil _).symm, fun other => by rw [List.append_nil]; exact .here⟩
  | @ask request _ _ _ _ answer _ answered _ ih =>
    obtain ⟨possible, rfl⟩ := answered
    obtain ⟨said, rfl, rest⟩ := ih
    refine ⟨⟨request, answer⟩ :: said, List.append_assoc .., fun other => .ask ⟨possible, rfl⟩ ?_⟩
    have later := rest (other ++ [⟨request, answer⟩])
    rwa [List.append_assoc] at later
  | iterate _ ih =>
    obtain ⟨said, rfl, rest⟩ := ih
    exact ⟨said, rfl, fun other => .iterate (rest other)⟩

theorem Reaches.fresh {program final : Program α} {before after : Record}
    (reaches : Reaches Record.anything program before final after) :
    ∃ said, after = before ++ said ∧ Reaches Record.anything program [] final said := by
  obtain ⟨said, same, rest⟩ := reaches.anywhere
  exact ⟨said, same, rest []⟩

theorem Runs.fresh {program : Program α} {result : α} {before after : Record}
    (runs : Runs Record.anything program before result after) :
    ∃ said, after = before ++ said ∧ Runs Record.anything program [] result said := by
  obtain ⟨said, same, reaches⟩ := runs.reaches.fresh
  exact ⟨said, same, reaches.runs⟩

theorem Reaches.of_ask {request : Request} {next : request.Answer → Program α} {final : Program α}
    {said : Record} (reaches : Reaches Record.anything (.ask request next) [] final said) :
    final = .ask request next ∧ said = [] ∨ ∃ answer later, said = ⟨request, answer⟩ :: later ∧
      Reaches Record.anything (next answer) [] final later := by
  cases reaches with
  | here => exact .inl ⟨rfl, rfl⟩
  | @ask _ _ _ _ _ answer _ answered rest =>
    obtain ⟨-, rfl⟩ := answered
    obtain ⟨later, same, fresh⟩ := rest.fresh
    exact .inr ⟨answer, later, same, fresh⟩

theorem Reaches.of_pure {result : α} {final : Program α} {before after : Record}
    (reaches : Reaches Record.anything (.pure result) before final after) :
    final = .pure result ∧ after = before := by
  cases reaches with
  | here => exact ⟨rfl, rfl⟩

theorem Uses.asked {allowed : Request → Prop} {program final : Program α} {said : Record}
    (uses : program.Uses allowed) (reaches : Reaches Record.anything program [] final said) :
    ∀ query ∈ said, allowed query.request := by
  suffices all : ∀ {program final : Program α} {before after}, program.Uses allowed →
      Reaches Record.anything program before final after →
      ∀ query ∈ after, query ∈ before ∨ allowed query.request by
    exact fun query member => (all uses reaches query member).resolve_left List.not_mem_nil
  intro program final before after uses reaches
  induction reaches with
  | here => exact fun query => .inl
  | ask answered _ ih =>
    obtain ⟨-, rfl⟩ := answered
    cases uses with
    | ask fine rest =>
      intro query member
      obtain earlier | fine := ih (rest _) query member
      · obtain earlier | last := List.mem_append.mp earlier
        · exact .inl earlier
        · exact .inr (List.mem_singleton.mp last ▸ fine)
      · exact .inr fine
  | iterate _ ih =>
    cases uses with
    | iterate round rest => exact ih (.unfold round rest)

/-- Whole rounds of a loop, and the state that they come to. -/
inductive Rounds (body : ρ → Program (Progress ρ γ)) (start : ρ) : Record → ρ → Prop
  | none : Rounds body start [] start
  | after {whole said state next} (rounds : Rounds body start whole state)
      (round : Runs Record.anything (body state) [] (.more next) said) :
      Rounds body start (whole ++ said) next

/-- Where a loop stands that has asked what the record says. -/
inductive Loops (body : ρ → Program (Progress ρ γ)) (start : ρ) : Program γ → Record → Prop
  | between {whole state} (rounds : Rounds body start whole state) :
      Loops body start (.iterate body state .pure) whole
  | within {whole state said rest} (rounds : Rounds body start whole state)
      (reaches : Reaches Record.anything (body state) [] rest said) :
      Loops body start (rest.bind (behind body .pure)) (whole ++ said)

variable {body : ρ → Program (Progress ρ γ)} {start : ρ} {record : Record}

theorem Loops.entered : Loops body start (loop start body) [] := .between .none

theorem Loops.asked {request : Request} {next : request.Answer → Program γ} {answer : request.Answer}
    (loops : Loops body start (.ask request next) record) (possible : request.Possible answer) :
    Loops body start (next answer) (record ++ [⟨request, answer⟩]) := by
  generalize due : Program.ask request next = program at loops
  cases loops with
  | between => cases due
  | @within whole state said rest rounds reaches =>
    cases rest with
    | pure progress =>
      cases progress with
      | more => cases due
      | done => cases due
    | ask =>
      cases due
      rw [List.append_assoc]
      exact .within rounds (reaches.trans (.ask ⟨possible, rfl⟩ .here))
    | iterate => cases due

theorem Loops.unfolded {σ δ : Type} {inner : σ → Program (Progress σ δ)} {first : σ}
    {next : δ → Program γ} (loops : Loops body start (.iterate inner first next) record) :
    Loops body start (unfold inner first next) record := by
  generalize due : Program.iterate inner first next = program at loops
  have here {whole state} (rounds : Rounds body start whole state) :
      Loops body start (unfold body state .pure) whole := by
    have within := Loops.within rounds .here
    rwa [List.append_nil, ← unfold_eq_bind] at within
  cases loops with
  | between rounds =>
    cases due
    exact here rounds
  | @within whole state said rest rounds reaches =>
    cases rest with
    | pure progress =>
      cases progress with
      | more =>
        cases due
        exact here (.after rounds reaches.runs)
      | done => cases due
    | ask => cases due
    | iterate =>
      cases due
      rw [unfold_bind]
      exact .within rounds (reaches.trans (.iterate .here))

end Program
end FlightLink
