import FlightLink.Bench.Basic

/-! Running a session on a bench. The session runs until it has to wait; then the
activities that can run do so, one after another, each until it has to wait. Only
when nobody can run does the clock move, straight to the end of the earliest wait,
and a session whose wait ends then runs before the activities. -/

namespace FlightLink

/-- Whose turn it is. -/
inductive Turn
  | session
  | activity (id : ActivityId)
  /-- The next runnable activity is looked for. -/
  | idle
  deriving DecidableEq, Repr

namespace Bench

/-- Takes an activity off the bench and lets whoever joins it go on. -/
def finish (bench : Bench) (id : ActivityId) (ending : Ending) : Bench :=
  let bench :=
    { bench with
      activities := bench.activities.filter (·.id ≠ id)
      ended := (id, ending) :: bench.ended }
  let bench := if bench.session = .joining id then bench.wake .session else bench
  (bench.activities.filter (·.stage = .joining id)).foldl
    (fun bench activity => bench.wake (.activity activity.id)) bench

def setProgram (bench : Bench) (id : ActivityId) (program : Program Unit) : Bench :=
  { bench with
    activities := bench.activities.map fun activity =>
      if activity.id = id then ⟨id, program, .ready⟩ else activity }

/-- One step of an activity, and whether it can go on. -/
def step (bench : Bench) (id : ActivityId) : Bench × Bool :=
  match bench.activities.find? (·.id = id) with
  | none => (bench, false)
  | some activity =>
    match activity.program with
    | .pure () => (bench.finish id .finished, false)
    | .iterate body state next => (bench.setProgram id (Program.unfold body state next), true)
    | .ask request next =>
      match bench.perform (.activity id) activity.stage.hasWaited request with
      | (.answer answer, bench) => (bench.setProgram id (next answer), true)
      | (.wait stage, bench) => (bench.setStage id stage, false)
      | (.crash, bench) => (bench.finish id .crashed, false)

/-- The end of the earliest wait, the session's time limit included. -/
def nextTime? (bench : Bench) (limit : Option Nat) : Option Nat :=
  bench.timers.foldl (fun earliest timer => some (earliest.elim timer.1 (min timer.1))) limit

/-- Moves the clock and ends the waits that are over. -/
def advanceTo (bench : Bench) (time : Nat) : Bench :=
  let (due, timers) := bench.timers.partition (·.1 ≤ time)
  due.foldl (fun bench timer => bench.wake timer.2) { bench with clock := time, timers }

/-- Runs the session's program. There is no result when the time limit passes
first, when everybody waits for ever, or when the budget of steps is used up. -/
def drive {α : Type} (limit : Option Nat) :
    (budget : Nat) → Bench → Turn → Program α → Option α × Bench
  | 0, bench, _, _ => (none, bench)
  | budget + 1, bench, .session, program =>
    if bench.session.canRun then
      match program with
      | .pure result => (some result, bench)
      | .iterate body state next =>
        drive limit budget bench .session (Program.unfold body state next)
      | .ask request next =>
        match bench.perform .session bench.session.hasWaited request with
        | (.answer answer, bench) =>
          drive limit budget { bench with session := .ready } .session (next answer)
        | (.wait stage, bench) =>
          drive limit budget { bench with session := stage } .session (.ask request next)
        | (.crash, bench) => (none, bench)
    else if limit.any (· ≤ bench.clock) then
      (none, bench)
    else
      drive limit budget bench .idle program
  | budget + 1, bench, .activity id, program =>
    let (bench, goesOn) := bench.step id
    drive limit budget bench (if goesOn then .activity id else .idle) program
  | budget + 1, bench, .idle, program =>
    match bench.runnable with
    | id :: runnable => drive limit budget { bench with runnable } (.activity id) program
    | [] =>
      if bench.session.canRun then
        drive limit budget bench .session program
      else
        match bench.nextTime? limit with
        | none => (none, bench)
        | some time => drive limit budget (bench.advanceTo time) .session program

/-- More steps than any session on a bench takes. -/
def budget : Nat := 1000000000000

/-- Runs a program in the foreground. -/
def run {α : Type} (bench : Bench) (program : Program α) : Option α × Bench :=
  drive none budget { bench with session := .ready } .session program

/-- Runs a program in the foreground, for so many milliseconds at the most. -/
def runWithin {α : Type} (bench : Bench) (limit : Nat) (program : Program α) :
    Option α × Bench :=
  let deadline := bench.clock + Duration.sleepMillis limit
  drive (some deadline) budget { bench with session := .ready } .session program

end Bench
end FlightLink
