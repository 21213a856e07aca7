import Mathlib.Logic.Function.Basic
import FlightLink.Poller
import FlightLink.Proofs.Surroundings

/-! What an owner does with its pollers. It keeps in mind how far each of them is stopped: a poller is
claimed only after it was dismissed, and launched only after its activity was joined. Whatever else it
asks for leaves its pollers alone. -/

namespace FlightLink

open Program (Uses)

def Request.Plain : Request → Prop
  | .dismiss _ | .claim _ | .join _ | .launch .. | .enlist .. | .count .. => False
  | _ => True

/-- How far an owner has come with stopping a poller. -/
inductive Phase
  /-- Whatever runs of it can be joined. -/
  | settled
  | told
  | joining (activity : ActivityId)
  | quiet

namespace Phase

def AtRest : Phase → Prop
  | settled | quiet => True
  | _ => False

def Unwanted : Phase → Prop
  | settled => False
  | _ => True

def claimed : Option ActivityId → Phase
  | some activity => joining activity
  | none => quiet

theorem unwanted_claimed (activity : Option ActivityId) : (claimed activity).Unwanted := by
  cases activity <;> trivial

end Phase

/-- The pollers that an owner cares for, and how far it has come with each. -/
abbrev Care := PollerId → Option Phase

namespace Care

def put (care : Care) (poller : PollerId) (phase : Phase) : Care :=
  Function.update care poller (some phase)

variable {care : Care} {poller other : PollerId} {phase later : Phase}

@[simp] theorem put_self : care.put poller phase poller = some phase := Function.update_self ..

theorem put_of_ne (apart : other ≠ poller) : care.put poller phase other = care other :=
  Function.update_of_ne apart ..

@[simp] theorem put_put : (care.put poller phase).put poller later = care.put poller later :=
  Function.update_idem ..

def Minds (care : Care) (poller : PollerId) : Prop := ∃ phase, care poller = some phase

theorem eq_none_of_not_minds (apart : ¬ care.Minds poller) : care poller = none := by
  cases cared : care poller with
  | none => rfl
  | some phase => exact absurd ⟨phase, cared⟩ apart

/-- The owner cares for these pollers, each of them for itself, and none is being stopped. -/
structure Covers (care : Care) (pollers : List Poller) : Prop where
  apart : (pollers.map (·.id)).Nodup
  atRest : ∀ poller ∈ pollers, ∃ phase, care poller.id = some phase ∧ phase.AtRest

def restrict (care : Care) (pollers : List Poller) : Care := fun id =>
  if id ∈ pollers.map (·.id) then care id else none

theorem restrict_of_mem {pollers : List Poller} {id : PollerId} (member : id ∈ pollers.map (·.id)) :
    care.restrict pollers id = care id := if_pos member

theorem restrict_of_not_mem {pollers : List Poller} {id : PollerId} (outside : id ∉ pollers.map (·.id)) :
    care.restrict pollers id = none := if_neg outside

namespace Covers

variable {poller : Poller} {pollers fewer : List Poller}

theorem sublist (covers : care.Covers pollers) (part : fewer.Sublist pollers) : care.Covers fewer :=
  ⟨covers.apart.sublist (part.map _), fun poller member => covers.atRest poller (part.subset member)⟩

theorem perm (covers : care.Covers pollers) (same : fewer.Perm pollers) : care.Covers fewer :=
  ⟨(same.map _).nodup_iff.mpr covers.apart, fun poller member => covers.atRest poller (same.subset member)⟩

theorem put (covers : care.Covers pollers) {id : PollerId} (atRest : phase.AtRest) :
    (care.put id phase).Covers pollers := by
  refine ⟨covers.apart, fun poller member => ?_⟩
  by_cases same : poller.id = id
  · exact ⟨phase, by rw [same, put_self], atRest⟩
  · rw [put_of_ne same]
    exact covers.atRest poller member

theorem congr (covers : care.Covers pollers) {later : Care}
    (same : ∀ id ∈ pollers.map (·.id), later id = care id) : later.Covers pollers := by
  refine ⟨covers.apart, fun poller member => ?_⟩
  rw [same poller.id (List.mem_map_of_mem member)]
  exact covers.atRest poller member

theorem stopped (covers : care.Covers pollers) {ids : List PollerId} {later : Care}
    (stopped : ∀ id, later id = if id ∈ ids then some .quiet else care id) : later.Covers pollers := by
  refine ⟨covers.apart, fun poller member => ?_⟩
  rw [stopped]
  split
  · exact ⟨.quiet, rfl, trivial⟩
  · exact covers.atRest poller member

theorem cons (covers : care.Covers pollers) (fresh : care poller.id = none) :
    (care.put poller.id .settled).Covers (poller :: pollers) := by
  have outside : poller.id ∉ pollers.map (·.id) := by
    intro member
    obtain ⟨other, inside, same⟩ := List.mem_map.mp member
    obtain ⟨phase, owned, -⟩ := covers.atRest other inside
    rw [same, fresh] at owned
    cases owned
  refine ⟨List.nodup_cons.mpr ⟨outside, covers.apart⟩, fun other member => ?_⟩
  obtain rfl | member := List.mem_cons.mp member
  · exact ⟨.settled, put_self, trivial⟩
  · have settled : (care.put poller.id .settled).Covers pollers := covers.put trivial
    exact settled.atRest other member

end Covers
end Care

/-- The program stops its owner's pollers before it launches them again. -/
inductive Tends : {α : Type} → (wanted : α → Care → Prop) → Program α → Care → Prop
  | pure {α : Type} {wanted : α → Care → Prop} {result care} (done : wanted result care) :
      Tends wanted (.pure result) care
  | plain {α : Type} {wanted : α → Care → Prop} {request : Request} {next : request.Answer → Program α}
      {care} (plain : request.Plain) (rest : ∀ answer, Tends wanted (next answer) care) :
      Tends wanted (.ask request next) care
  | enlist {α : Type} {wanted : α → Care → Prop} {kind hertz period} {next : PollerId → Program α} {care}
      (rest : ∀ poller, care poller = none → Tends wanted (next poller) (care.put poller .quiet)) :
      Tends wanted (.ask (.enlist kind hertz period) next) care
  | launch {α : Type} {wanted : α → Care → Prop} {poller subscriber} {next : Unit → Program α} {care}
      (quiet : care poller = some .quiet) (rest : Tends wanted (next ()) (care.put poller .settled)) :
      Tends wanted (.ask (.launch poller subscriber) next) care
  | dismiss {α : Type} {wanted : α → Care → Prop} {poller phase} {next : Unit → Program α} {care}
      (owned : care poller = some phase) (atRest : phase.AtRest)
      (rest : Tends wanted (next ()) (care.put poller .told)) :
      Tends wanted (.ask (.dismiss poller) next) care
  | claim {α : Type} {wanted : α → Care → Prop} {poller} {next : Option ActivityId → Program α} {care}
      (told : care poller = some .told)
      (rest : ∀ activity, Tends wanted (next activity) (care.put poller (.claimed activity))) :
      Tends wanted (.ask (.claim poller) next) care
  | join {α : Type} {wanted : α → Care → Prop} {poller activity} {next : Ending → Program α} {care}
      (joining : care poller = some (.joining activity))
      (rest : ∀ ending, Tends wanted (next ending) (care.put poller .quiet)) :
      Tends wanted (.ask (.join activity) next) care
  | iterate {α ρ γ : Type} {wanted : α → Care → Prop} {body : ρ → Program (Progress ρ γ)} {start : ρ}
      {next : γ → Program α} {care} (round : ∀ state, (body state).Uses Request.Plain)
      (rest : ∀ result, Tends wanted (next result) care) :
      Tends wanted (.iterate body start next) care

namespace Tends

variable {α β : Type} {wanted : α → Care → Prop} {care : Care}

theorem weaken {program : Program α} {other : α → Care → Prop} (tends : Tends wanted program care)
    (implies : ∀ result after, wanted result after → other result after) : Tends other program care := by
  induction tends with
  | pure done => exact .pure (implies _ _ done)
  | plain fine _ ih => exact .plain fine fun answer => ih answer implies
  | enlist _ ih => exact .enlist fun poller fresh => ih poller fresh implies
  | launch quiet _ ih => exact .launch quiet (ih implies)
  | dismiss owned atRest _ ih => exact .dismiss owned atRest (ih implies)
  | claim told _ ih => exact .claim told fun activity => ih activity implies
  | join joining _ ih => exact .join joining fun ending => ih ending implies
  | iterate round _ ih => exact .iterate round fun result => ih result implies

theorem bind {program : Program α} {next : α → Program β} {final : β → Care → Prop}
    (first : Tends wanted program care)
    (rest : ∀ result after, wanted result after → Tends final (next result) after) :
    Tends final (program.bind next) care := by
  induction first with
  | pure done => exact rest _ _ done
  | plain fine _ ih => exact .plain fine fun answer => ih answer rest
  | enlist _ ih => exact .enlist fun poller fresh => ih poller fresh rest
  | launch quiet _ ih => exact .launch quiet (ih rest)
  | dismiss owned atRest _ ih => exact .dismiss owned atRest (ih rest)
  | claim told _ ih => exact .claim told fun activity => ih activity rest
  | join joining _ ih => exact .join joining fun ending => ih ending rest
  | iterate round _ ih => exact .iterate round fun result => ih result rest

theorem of_uses {program : Program α} {next : α → Program β} {final : β → Care → Prop}
    (uses : program.Uses Request.Plain) (rest : ∀ result, Tends final (next result) care) :
    Tends final (program.bind next) care := by
  induction uses with
  | pure => exact rest _
  | ask fine _ ih => exact .plain fine fun answer => ih answer rest
  | iterate round _ _ ih => exact .iterate round fun result => ih result rest

theorem unfolded {ρ γ : Type} {body : ρ → Program (Progress ρ γ)} {start : ρ} {next : γ → Program α}
    (tends : Tends wanted (.iterate body start next) care) :
    Tends wanted (Program.unfold body start next) care := by
  cases tends with
  | iterate round rest =>
    apply of_uses (round start)
    intro progress
    cases progress with
    | more state => exact .iterate round rest
    | done result => exact rest result

end Tends

namespace Poller

variable {poller : Poller} {care : Care} {phase : Phase}

theorem tends_launch (poller : Poller) (quiet : care poller.id = some .quiet) (subscriber : Subscriber) :
    Tends (fun _ after => after = care.put poller.id .settled) (poller.launch subscriber) care :=
  .launch quiet (.plain trivial fun _ => .pure rfl)

theorem tends_start (kind : Message.Kind) (hertz : Float32) (subscriber : Subscriber) (care : Care) :
    Tends (fun outcome after => match outcome with
      | .ok poller => care poller.id = none ∧ after = care.put poller.id .settled
      | .error _ => after = care) (start kind hertz subscriber) care := by
  unfold start
  split
  · exact .pure rfl
  · refine .enlist fun id fresh => ?_
    apply (tends_launch ⟨id, kind, hertz, _⟩ Care.put_self subscriber).bind
    rintro _ after rfl
    exact .pure ⟨fresh, Care.put_put⟩

theorem tends_stop (owned : care poller.id = some phase) (atRest : phase.AtRest) :
    Tends (fun _ after => after = care.put poller.id .quiet) poller.stop care := by
  refine .dismiss owned atRest (.claim Care.put_self fun claimed => ?_)
  cases claimed with
  | none => exact .pure (by simp [Phase.claimed])
  | some activity =>
    refine .join Care.put_self fun ending => ?_
    cases ending <;> exact .plain trivial fun _ => .pure (by simp)

theorem tends_resubscribe (owned : care poller.id = some phase) (atRest : phase.AtRest)
    (subscriber : Subscriber) :
    Tends (fun _ after => after = care.put poller.id .settled) (poller.resubscribe subscriber) care := by
  apply (tends_stop owned atRest).bind
  rintro _ after rfl
  apply (tends_launch poller Care.put_self subscriber).weaken
  rintro _ after rfl
  exact Care.put_put

theorem tends_drop (owned : care poller.id = some phase) (atRest : phase.AtRest) :
    Tends (fun _ after => ∃ left : Phase, left.Unwanted ∧ after = care.put poller.id left)
      poller.drop care :=
  .dismiss owned atRest (.claim Care.put_self fun activity =>
    .pure ⟨_, Phase.unwanted_claimed activity, Care.put_put⟩)

end Poller
end FlightLink
