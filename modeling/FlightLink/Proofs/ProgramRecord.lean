import FlightLink.Proofs.Surroundings

/-! Programs in surroundings of which nothing is known: a request may get any answer that it can
get at all. What there is to tell is the record of all requests and their answers. `Abides` is the
promise that a program makes about its record: it writes nothing but what is allowed when it writes
it, and comes back with what is wanted, if it comes back. -/

namespace FlightLink

structure Query where
  request : Request
  answer : request.Answer

/-- What a program asked and was answered so far, the latest last. -/
abbrev Record := List Query

/-- The answers that a request can get. A read gives no more than was asked for. -/
def Request.Possible : (request : Request) → request.Answer → Prop
  | .read most, .ok bytes => bytes.length ≤ most
  | _, _ => True

namespace Query

def written : Query → List Bytes
  | ⟨.write bytes, _⟩ => [bytes]
  | _ => []

def delivered : Query → Bytes
  | ⟨.read _, .ok bytes⟩ => bytes
  | _ => []

end Query

namespace Record

def written (record : Record) : List Bytes := record.flatMap Query.written

/-- What the port gave, however it was cut into pieces. -/
def delivered (record : Record) : Bytes := record.flatMap Query.delivered

@[simp] theorem written_nil : written [] = [] := rfl

@[simp] theorem delivered_nil : delivered [] = [] := rfl

@[simp] theorem written_cons {query : Query} {record : Record} :
    written (query :: record) = query.written ++ written record := rfl

@[simp] theorem delivered_cons {query : Query} {record : Record} :
    delivered (query :: record) = query.delivered ++ delivered record := rfl

@[simp] theorem written_append {record more : Record} :
    written (record ++ more) = written record ++ written more := List.flatMap_append

@[simp] theorem delivered_append {record more : Record} :
    delivered (record ++ more) = delivered record ++ delivered more := List.flatMap_append

def told (events : List Log.Event) : Record := events.map fun event => ⟨.report event, ()⟩

@[simp] theorem written_told {events : List Log.Event} : written (told events) = [] := by
  simp [written, told, Query.written]

@[simp] theorem delivered_told {events : List Log.Event} : delivered (told events) = [] := by
  simp [delivered, told, Query.delivered]

/-- Surroundings of which nothing is known. -/
def anything : Surroundings Record := fun request before answer after =>
  request.Possible answer ∧ after = before ++ [⟨request, answer⟩]

end Record

namespace Progress

def Meets {ρ γ : Type} (again : ρ → Record → Prop) (last : γ → Record → Prop) :
    Progress ρ γ → Record → Prop
  | .more state => again state
  | .done result => last result

end Progress

namespace Program

/-- Whatever is answered, the program writes only what is allowed after the record so far, and a
result that it comes back with is wanted. -/
inductive Abides (allowed : Record → Bytes → Prop) :
    {α : Type} → (wanted : α → Record → Prop) → Program α → Record → Prop
  | pure {α : Type} {wanted : α → Record → Prop} {result record} (done : wanted result record) :
      Abides allowed wanted (.pure result) record
  | ask {α : Type} {wanted : α → Record → Prop} {request : Request}
      {next : request.Answer → Program α} {record}
      (fine : ∀ bytes, request = .write bytes → allowed record bytes)
      (rest : ∀ answer, request.Possible answer →
        Abides allowed wanted (next answer) (record ++ [⟨request, answer⟩])) :
      Abides allowed wanted (.ask request next) record
  | iterate {α ρ γ : Type} {wanted : α → Record → Prop} {body : ρ → Program (Progress ρ γ)}
      {start : ρ} {next : γ → Program α} {record} (again : ρ → Record → Prop)
      (last : γ → Record → Prop) (first : again start record)
      (round : ∀ state before, again state before →
        Abides allowed (Progress.Meets again last) (body state) before)
      (rest : ∀ result after, last result after → Abides allowed wanted (next result) after) :
      Abides allowed wanted (.iterate body start next) record

variable {α β : Type} {allowed : Record → Bytes → Prop} {wanted : α → Record → Prop}
  {program : Program α} {record : Record}

theorem Reaches.extends {final : Program α} {before after : Record}
    (reaches : Reaches Record.anything program before final after) : ∃ said, after = before ++ said := by
  induction reaches with
  | here => exact ⟨[], (List.append_nil _).symm⟩
  | ask answered _ ih =>
    obtain ⟨-, rfl⟩ := answered
    obtain ⟨said, rfl⟩ := ih
    exact ⟨_, List.append_assoc ..⟩
  | iterate _ ih => exact ih

namespace Abides

theorem weaken {other : α → Record → Prop} {more : Record → Bytes → Prop}
    (abides : Abides allowed wanted program record)
    (permits : ∀ before bytes, allowed before bytes → more before bytes)
    (implies : ∀ result after, wanted result after → other result after) :
    Abides more other program record := by
  induction abides with
  | pure done => exact .pure (implies _ _ done)
  | ask fine _ ih =>
    exact .ask (fun bytes same => permits _ _ (fine bytes same)) fun answer possible =>
      ih answer possible implies
  | iterate again last first _ _ here ih =>
    exact .iterate again last first (fun state before held => here state before held fun _ _ => id)
      fun result after held => ih result after held implies

theorem bind {next : α → Program β} {final : β → Record → Prop}
    (first : Abides allowed wanted program record)
    (rest : ∀ result after, wanted result after → Abides allowed final (next result) after) :
    Abides allowed final (program.bind next) record := by
  induction first with
  | pure done => exact rest _ _ done
  | ask fine _ ih => exact .ask fine fun answer possible => ih answer possible rest
  | iterate again last first round _ _ ih =>
    exact .iterate again last first round fun result after held => ih result after held rest

theorem unfold {ρ γ : Type} {body : ρ → Program (Progress ρ γ)} {start : ρ} {next : γ → Program α}
    {again : ρ → Record → Prop} {last : γ → Record → Prop} (first : again start record)
    (round : ∀ state before, again state before →
      Abides allowed (Progress.Meets again last) (body state) before)
    (rest : ∀ result after, last result after → Abides allowed wanted (next result) after) :
    Abides allowed wanted (Program.unfold body start next) record := by
  apply (round start record first).bind
  intro progress after met
  cases progress with
  | more state => exact .iterate again last met round rest
  | done result => exact rest result after met

theorem reached {final : Program α} {after : Record} (abides : Abides allowed wanted program record)
    (reaches : Reaches Record.anything program record final after) :
    Abides allowed wanted final after := by
  -- Induction on the execution. A loop is unfolded with the invariant that it came with.
  induction reaches with
  | here => exact abides
  | ask answered _ ih =>
    obtain ⟨possible, rfl⟩ := answered
    cases abides with
    | ask _ rest => exact ih (rest _ possible)
  | iterate _ ih =>
    cases abides with
    | iterate again last first round rest => exact ih (.unfold first round rest)

theorem of_runs {result : α} {after : Record} (abides : Abides allowed wanted program record)
    (runs : Runs Record.anything program record result after) : wanted result after := by
  cases abides.reached runs.reaches with
  | pure done => exact done

theorem anyhow (program : Program α) (record : Record) :
    Abides (fun _ _ => True) (fun _ _ => True) program record := by
  induction program generalizing record with
  | pure => exact .pure trivial
  | ask request next ih => exact .ask (fun _ _ => trivial) fun answer _ => ih answer _
  | iterate body start next round rest =>
    apply Abides.iterate (fun _ _ => True) (fun _ _ => True) trivial
    · intro state before _
      apply (round state before).weaken fun _ _ => id
      intro progress after _
      cases progress <;> trivial
    · exact fun result after _ => rest result after

end Abides

/-- Every execution adds one of the courses to the record, and its result belongs to the course. -/
def Follows (allowed : Record → Bytes → Prop) (course : Record → α → Prop) (program : Program α)
    (record : Record) : Prop :=
  Abides allowed (fun result after => ∃ said, after = record ++ said ∧ course said result) program
    record

namespace Follows

variable {course : Record → α → Prop}

theorem bind {next : α → Program β} {final : β → Record → Prop}
    (first : Follows allowed course program record)
    (rest : ∀ result said, course said result →
      Abides allowed final (next result) (record ++ said)) :
    Abides allowed final (program.bind next) record := by
  apply Abides.bind first
  intro result after held
  obtain ⟨said, rfl, taken⟩ := held
  exact rest result said taken

theorem abides (follows : Follows allowed course program record)
    (implies : ∀ result said, course said result → wanted result (record ++ said)) :
    Abides allowed wanted program record := by
  apply Abides.weaken follows fun _ _ => id
  intro result after held
  obtain ⟨said, rfl, taken⟩ := held
  exact implies result said taken

theorem behind {more : Record → α → Prop} {said : Record}
    (follows : Follows allowed more program (record ++ said))
    (joins : ∀ result later, more later result → course (said ++ later) result) :
    Abides allowed (fun result after => ∃ whole, after = record ++ whole ∧ course whole result) program
      (record ++ said) := by
  apply follows.abides
  exact fun result later taken => ⟨said ++ later, List.append_assoc .., joins result later taken⟩

end Follows

/-- Everything that an execution of the program writes, finished or not, is allowed after the
record up to there. -/
def Writes (allowed : Record → Bytes → Prop) (program : Program α) : Prop :=
  ∀ record bytes next, Reaches Record.anything program [] (.ask (.write bytes) next) record →
    allowed record bytes

theorem Abides.writes (abides : Abides allowed wanted program []) : program.Writes allowed := by
  intro record bytes next reaches
  cases abides.reached reaches with
  | ask fine _ => exact fine bytes rfl

end Program
end FlightLink
