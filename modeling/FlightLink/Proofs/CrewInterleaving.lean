import Mathlib.Logic.Relation
import FlightLink.Proofs.Line
import FlightLink.Session

/-! Tasks that share one link. Any task may go on at any time, by one request, so that
every order is possible, and so is any time that a request takes. Only the lock makes a
task wait. Nothing keeps a task from the port; a crew keeps a record of who was at it,
and of what each task did while it had the link. -/

namespace FlightLink

universe u

theorem found_of_set {α : Type u} {list : List α} {index position : Nat} {new found : α}
    (sought : (list.set index new)[position]? = some found) :
    index = position ∧ new = found ∨ index ≠ position ∧ list[position]? = some found := by
  rw [List.getElem?_set] at sought
  split at sought
  next same =>
    split at sought
    · exact .inl ⟨same, Option.some.inj sought⟩
    · cases sought
  next apart => exact .inr ⟨apart, sought⟩

/-- What reaches the device. Reports do not. -/
def Act.atPort : Act → Bool
  | .reported _ => false
  | _ => true

def Request.OnLine : Request → Prop
  | .isOpen | .write _ | .flush | .read _ | .discardInput | .report _ => True
  | _ => False

/-- Requests that neither the line nor the lock has to do with. Somebody else answers them,
in any way. -/
def Request.Elsewhere : Request → Prop
  | .now | .sleep _ | .enlist .. | .dismiss _ | .claim _ | .join _ | .isWanted _ | .count ..
  | .deliver .. | .rest .. => True
  | _ => False

/-- A task that has the link: what it was about to do when it took it, and what it has
done since. -/
structure Holding where
  task : Nat
  before : Program Unit
  acts : List Act

structure Tenure where
  task : Nat
  before : Program Unit
  acts : List Act
  after : Program Unit

structure Crew where
  tasks : List (Program Unit)
  link : Link
  inbound : Bytes
  holder : Option Holding
  trace : List (Nat × Act)
  tenures : List Tenure

def traced (task : Nat) (acts : List Act) : List (Nat × Act) :=
  (acts.filter Act.atPort).map (task, ·)

def Tenure.trace (tenure : Tenure) : List (Nat × Act) := traced tenure.task tenure.acts

def Holding.trace (holding : Holding) : List (Nat × Act) := traced holding.task holding.acts

def Holding.and (holding : Holding) (task : Nat) (acts : List Act) : Holding :=
  if holding.task = task then { holding with acts := holding.acts ++ acts } else holding

def Holding.close (holding : Holding) (after : Program Unit) : Tenure :=
  ⟨holding.task, holding.before, holding.acts, after⟩

namespace Line

variable {respond : Responder}

theorem serves_recorded {request : Request} {answer : request.Answer} {link : Link}
    {inbound : Bytes} {line : Line} (onLine : request.OnLine) (acts : List Act)
    (served : Line.serves respond request ⟨link, inbound, []⟩ answer line) :
    Line.serves respond request ⟨link, inbound, acts⟩ answer
      ⟨line.link, line.inbound, acts ++ line.history⟩ := by
  cases request with
  | isOpen | discardInput =>
    obtain ⟨same, rfl⟩ := served
    exact ⟨same, by simp⟩
  | flush | read =>
    obtain ⟨same, rfl⟩ := served
    exact ⟨same, rfl⟩
  | write bytes =>
    obtain ⟨same, reply, responded, rfl⟩ := served
    exact ⟨same, reply, responded, rfl⟩
  | report =>
    obtain rfl := served
    rfl
  | _ => cases onLine

theorem serves_unrecorded {request : Request} {answer : request.Answer} {before after : Line}
    (onLine : request.OnLine) (served : Line.serves respond request before answer after) :
    ∃ line, Line.serves respond request ⟨before.link, before.inbound, []⟩ answer line ∧
      after = ⟨line.link, line.inbound, before.history ++ line.history⟩ := by
  cases request with
  | isOpen | discardInput =>
    obtain ⟨same, rfl⟩ := served
    exact ⟨_, ⟨same, rfl⟩, by simp⟩
  | flush | read =>
    obtain ⟨same, rfl⟩ := served
    exact ⟨_, ⟨same, rfl⟩, rfl⟩
  | write bytes =>
    obtain ⟨same, reply, responded, rfl⟩ := served
    exact ⟨_, ⟨same, reply, responded, rfl⟩, rfl⟩
  | report =>
    obtain rfl := served
    exact ⟨_, rfl, rfl⟩
  | _ => cases onLine

end Line

namespace Crew

def line (crew : Crew) : Line := ⟨crew.link, crew.inbound, []⟩

def goesOn (crew : Crew) (task : Nat) (program : Program Unit) : Crew :=
  { crew with tasks := crew.tasks.set task program }

def acted (crew : Crew) (task : Nat) (program : Program Unit) (line : Line) : Crew :=
  { crew with
    tasks := crew.tasks.set task program
    link := line.link
    inbound := line.inbound
    holder := crew.holder.map (·.and task line.history)
    trace := crew.trace ++ traced task line.history }

section Tasks

variable {crew : Crew} {task : Nat} {program after : Program Unit}

theorem set_due (due : crew.tasks[task]? = some program) :
    (crew.tasks.set task after)[task]? = some after :=
  List.getElem?_set_self (List.getElem?_eq_some_iff.mp due).1

theorem acted_holder {held : Holding} (holds : crew.holder = some held) {line : Line} :
    (crew.acted held.task after line).holder =
      some { held with acts := held.acts ++ line.history } := by
  simp [acted, holds, Holding.and]

end Tasks

inductive Step (respond : Responder) : Crew → Crew → Prop
  | iterate {crew task} {ρ γ : Type} {body : ρ → Program (Progress ρ γ)} {start : ρ}
      {next : γ → Program Unit} (due : crew.tasks[task]? = some (.iterate body start next)) :
      Step respond crew (crew.goesOn task (Program.unfold body start next))
  | acquire {crew task next} (due : crew.tasks[task]? = some (.ask .acquire next))
      (free : crew.holder = none) :
      Step respond crew
        { crew.goesOn task (next crew.link) with holder := some ⟨task, .ask .acquire next, []⟩ }
  | release {crew task link next} (due : crew.tasks[task]? = some (.ask (.release link) next)) :
      Step respond crew
        { crew.goesOn task (next ()) with
          link, holder := none
          tenures := crew.tenures ++ (crew.holder.map (·.close (next ()))).toList }
  | onLine {crew task request next answer line}
      (due : crew.tasks[task]? = some (.ask request next)) (onLine : request.OnLine)
      (served : Line.serves respond request crew.line answer line) :
      Step respond crew (crew.acted task (next answer) line)
  | elsewhere {crew task request next} (due : crew.tasks[task]? = some (.ask request next))
      (elsewhere : request.Elsewhere) (answer : request.Answer) :
      Step respond crew (crew.goesOn task (next answer))
  | crash {crew task subscriber ordinal message next}
      (due : crew.tasks[task]? = some (.ask (.deliver subscriber ordinal message) next)) :
      Step respond crew (crew.goesOn task (.pure ()))
  | launch {crew task poller subscriber next}
      (due : crew.tasks[task]? = some (.ask (.launch poller subscriber) next))
      (kind : Message.Kind) (period : Duration) :
      Step respond crew
        { crew with
          tasks := crew.tasks.set task (next ()) ++
            [Poller.activity poller kind period subscriber] }

def Reaches (respond : Responder) : Crew → Crew → Prop := Relation.ReflTransGen (Step respond)

/-- Pollers under way and a session in the foreground, on a line with no input. -/
def start (version : Version) (pollers : List (Poller × Subscriber)) (session : Session)
    (operations : List Operation) : Crew where
  tasks := (pollers.map fun (poller, subscriber) =>
      Poller.activity poller.id poller.kind poller.period subscriber) ++
    [(session.performAll operations).bind fun _ => .pure ()]
  link := .new version
  inbound := []
  holder := none
  trace := []
  tenures := []

end Crew
end FlightLink
