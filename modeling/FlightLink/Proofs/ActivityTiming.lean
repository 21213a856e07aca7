import FlightLink.Proofs.ActivityProgress

/-! When a poller's activity polls. A poll begins when the clock is looked at, directly after the
poller was found to be wanted. Before the next one the activity rests until a period has passed
since then, or has seen that one has passed already. -/

namespace FlightLink

universe u

def adjacent {α : Type u} (list : List α) : List (α × α) := list.zip list.tail

theorem adjacent_snoc {α : Type u} (list : List α) (last : α) :
    adjacent (list ++ [last]) = adjacent list ++ (list.getLast?.map (·, last)).toList := by
  induction list with
  | nil => rfl
  | cons head list ih =>
    cases list with
    | nil => rfl
    | cons second list =>
      rw [List.getLast?_cons_cons]
      exact congrArg ((head, second) :: ·) ih

/-- When a poll begins: the clock is looked at, directly after its poller was found to be wanted. -/
def Query.begins? : Query × Query → Option Duration
  | (⟨.isWanted _, true⟩, ⟨.now, began⟩) => some began
  | _ => none

def Record.Called (record : Record) : Prop := ∃ poller, record.getLast? = some ⟨.isWanted poller, true⟩

def Record.begins (record : Record) : List Duration := (adjacent record).filterMap Query.begins?

/-- How many polls began before a period had passed since the one before them did. -/
def early (period : Duration) (begins : List Duration) : Nat :=
  (adjacent begins).countP fun pair => pair.2 < pair.1 + period

section Records

variable {record : Record} {query : Query} {period began : Duration} {times : List Duration}

private theorem of_begins? {previous : Query} (begins : Query.begins? (previous, query) = some began) :
    (∃ poller, previous = ⟨.isWanted poller, true⟩) ∧ query = ⟨.now, began⟩ := by
  unfold Query.begins? at begins
  split at begins
  next same =>
    cases same
    cases begins
    exact ⟨⟨_, rfl⟩, rfl⟩
  next => cases begins

theorem Record.begins_called (called : record.Called) (began : Duration) :
    (record ++ [(⟨.now, began⟩ : Query)]).begins = record.begins ++ [began] := by
  obtain ⟨poller, called⟩ := called
  rw [begins, adjacent_snoc, List.filterMap_append, called]
  rfl

theorem Record.begins_snoc (other : record.Called → query.request ≠ .now) :
    (record ++ [query]).begins = record.begins := by
  rw [begins, adjacent_snoc, List.filterMap_append]
  cases ended : record.getLast? with
  | none => exact List.append_nil _
  | some previous =>
    cases made : Query.begins? (previous, query) with
    | none => simp [made, begins]
    | some began =>
      obtain ⟨⟨poller, rfl⟩, rfl⟩ := of_begins? made
      exact absurd rfl (other ⟨poller, ended⟩)

theorem early_snoc (times : List Duration) (began : Duration) :
    early period (times ++ [began]) ≤ early period times + 1 ∧
      ((∀ last ∈ times.getLast?, last + period ≤ began) →
        early period (times ++ [began]) = early period times) := by
  rw [early, adjacent_snoc, List.countP_append]
  cases times.getLast? with
  | none => exact ⟨Nat.le_succ _, fun _ => rfl⟩
  | some last =>
    refine ⟨Nat.add_le_add_left List.countP_le_length _, fun due => ?_⟩
    have inTime : ¬ began < last + period := Nat.not_lt.mpr (due last rfl)
    simp [inTime, early]

theorem early_eq_zero_iff :
    early period times = 0 ↔ ∀ pair ∈ adjacent times, pair.1 + period ≤ pair.2 := by
  have inTime (pair : Duration × Duration) :
      ¬ pair.2 < pair.1 + period ↔ pair.1 + period ≤ pair.2 := Nat.not_lt
  simp only [early, List.countP_eq_zero, decide_eq_true_eq, inTime]

end Records

def Request.Steady : Request → Prop
  | .isWanted _ | .now | .rest .. => False
  | _ => True

theorem Request.Conversing.steady : ∀ {request : Request}, request.Conversing → request.Steady
  | .acquire, _ | .isOpen, _ | .write _, _ | .flush, _ | .read _, _ | .release _, _ | .report _, _ =>
    trivial

/-- Where in its turn an activity is. -/
inductive Beat
  | free
  | called
  | since (began : Duration)

namespace Poller

/-- An activity rests for a period, or has seen one pass, before its next poll begins. -/
inductive Paces (id : PollerId) (kind : Message.Kind) (period : Duration) (subscriber : Subscriber) :
    Beat → Program Unit → Prop
  | ended {beat} : Paces id kind period subscriber beat (.pure ())
  | loop {delivered} : Paces id kind period subscriber .free
      (.iterate (round id kind period subscriber) delivered .pure)
  | asks {next : Bool → Program Unit} (yes : Paces id kind period subscriber .called (next true))
      (no : Paces id kind period subscriber .free (next false)) :
      Paces id kind period subscriber .free (.ask (.isWanted id) next)
  | begins {next : Duration → Program Unit}
      (rest : ∀ began, Paces id kind period subscriber (.since began) (next began)) :
      Paces id kind period subscriber .called (.ask .now next)
  | plain {beat} {request : Request} {next : request.Answer → Program Unit} (begun : beat ≠ .called)
      (steady : request.Steady) (rest : ∀ answer, Paces id kind period subscriber beat (next answer)) :
      Paces id kind period subscriber beat (.ask request next)
  | checks {began} {next : Duration → Program Unit}
      (late : ∀ ended : Duration, period < ended.since began →
        Paces id kind period subscriber .free (next ended))
      (inTime : ∀ ended : Duration, ¬ period < ended.since began →
        Paces id kind period subscriber (.since began) (next ended)) :
      Paces id kind period subscriber (.since began) (.ask .now next)
  | rests {began} {next : Unit → Program Unit} (rest : Paces id kind period subscriber .free (next ())) :
      Paces id kind period subscriber (.since began) (.ask (.rest id (began + period)) next)
  | iterate {beat} {ρ γ : Type} {body : ρ → Program (Progress ρ γ)} {start : ρ}
      {next : γ → Program Unit} (begun : beat ≠ .called)
      (round : ∀ state, (body state).Uses Request.Steady)
      (rest : ∀ result, Paces id kind period subscriber beat (next result)) :
      Paces id kind period subscriber beat (.iterate body start next)

variable {id : PollerId} {kind : Message.Kind} {period began : Duration} {subscriber : Subscriber}
  {delivered : Nat} {beat : Beat}

theorem Paces.of_uses {α : Type} {program : Program α} {next : α → Program Unit} (begun : beat ≠ .called)
    (uses : program.Uses Request.Steady) (rest : ∀ result, Paces id kind period subscriber beat (next result)) :
    Paces id kind period subscriber beat (program.bind next) := by
  induction uses with
  | pure => exact rest _
  | ask steady _ ih => exact .plain begun steady fun answer => ih answer rest
  | iterate round _ _ ih => exact .iterate begun round fun result => ih result rest

theorem paces_conclude (next : Nat) : Paces id kind period subscriber (.since began)
    ((conclude id kind period began next).bind (behind id kind period subscriber)) := by
  refine .plain nofun trivial fun _ => .checks (fun ended late => ?_) fun ended inTime => ?_
  · change Paces _ _ _ _ _ (Program.bind (if period < ended.since began then _ else _) _)
    rw [if_pos late]
    exact .plain nofun trivial fun _ => .plain nofun trivial fun _ => .loop
  · change Paces _ _ _ _ _ (Program.bind (if period < ended.since began then _ else _) _)
    rw [if_neg inTime]
    exact .rests .loop

theorem paces_round : Paces id kind period subscriber .free
    ((round id kind period subscriber delivered).bind (behind id kind period subscriber)) := by
  rw [round_eq]
  refine .asks (.begins fun began => ?_) .ended
  have steady : (poll kind).Uses Request.Steady :=
    (converses_poll kind).weaken fun _ converses => converses.steady
  rw [Program.bind_assoc]
  refine .of_uses nofun steady fun polled => ?_
  cases polled with
  | ok message => exact .plain nofun trivial fun _ => paces_conclude _
  | error fault => exact .plain nofun trivial fun _ => .plain nofun trivial fun _ => paces_conclude _

theorem Paces.unfolded {ρ γ : Type} {body : ρ → Program (Progress ρ γ)} {start : ρ}
    {next : γ → Program Unit} (paces : Paces id kind period subscriber beat (.iterate body start next)) :
    Paces id kind period subscriber beat (Program.unfold body start next) := by
  cases paces with
  | loop => exact paces_round
  | iterate begun round rest =>
    apply of_uses begun (round start)
    intro progress
    cases progress with
    | more state => exact .iterate begun round rest
    | done result => exact rest result

theorem Stands.paces {program : Program Unit} (stands : Stands id kind period subscriber program []) :
    Paces id kind period subscriber .free program := by
  generalize nothing : ([] : Record) = record at stands
  cases stands with
  | between => exact .loop
  | @within whole delivered said rest turns reaches =>
    obtain ⟨-, rfl⟩ := List.append_eq_nil_iff.mp nothing.symm
    rw [round_eq] at reaches
    cases reaches with
    | here => exact round_eq ▸ paces_round
    | ask answered more =>
      obtain ⟨-, rfl⟩ := answered
      obtain ⟨said, same⟩ := more.extends
      cases same

end Poller

end FlightLink
