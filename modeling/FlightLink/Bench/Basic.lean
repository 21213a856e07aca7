import FlightLink.Device
import FlightLink.Poller

/-! A bench: a scripted device on its port, the link with its lock, the pollers and
their activities, and a clock. The bench answers every request of a program, at
once or after a wait. Waiting for the link is first come, first served. A poller
that is dismissed while it rests wakes up; dismissed at any other time it keeps
one wake-up, which its next rest uses up. -/

namespace FlightLink

/-- Whoever runs a program: the session in the foreground, or an activity. -/
inductive Actor
  | session
  | activity (id : ActivityId)
  deriving DecidableEq, Repr

/-- Where an actor stands between two requests. -/
inductive Stage
  /-- It makes its next request. -/
  | ready
  /-- Its request has waited long enough and is carried out. -/
  | due
  | timed
  | queued
  | resting (poller : PollerId)
  /-- Its rest is over, and it has not run since. -/
  | rested (poller : PollerId)
  | joining (activity : ActivityId)
  deriving DecidableEq, Repr

namespace Stage

def canRun : Stage → Bool
  | ready | due | rested _ => true
  | _ => false

/-- Whether the request at hand has waited already. -/
def hasWaited : Stage → Bool
  | due | rested _ => true
  | _ => false

/-- The stage after a wait. -/
def woken : Stage → Stage
  | resting poller => rested poller
  | _ => due

end Stage

/-- What a poller shares between its owner and its activity. -/
structure Cell where
  kind : Message.Kind
  hertz : Float32
  period : Duration
  wanted : Bool
  /-- A wake-up left behind. -/
  wakeUp : Bool
  counts : Counts
  /-- The activity that nobody has joined yet. -/
  activity : Option ActivityId

structure Activity : Type 1 where
  id : ActivityId
  program : Program Unit
  stage : Stage

/-- A message that a subscriber took. -/
structure Delivery where
  time : Nat
  label : String
  message : Message

structure Bench : Type 1 where
  /-- Milliseconds since the start. -/
  clock : Nat
  /-- Where ports are looked for that are not the device's. -/
  host : Host
  device : Device
  link : Link
  holder : Option Actor
  waiters : List Actor
  cells : List Cell
  activities : List Activity
  ended : List (ActivityId × Ending)
  launched : Nat
  session : Stage
  /-- Activities that can run, in the order in which they became able to. -/
  runnable : List ActivityId
  /-- Ends of waits, in the order in which the waits began. -/
  timers : List (Nat × Actor)
  /-- Written frames, the latest first. -/
  written : List (Nat × Bytes)
  /-- Reported events, the latest first. -/
  events : List (Nat × Log.Event)
  /-- Deliveries, the latest first. -/
  deliveries : List Delivery

/-- How the bench meets a request. -/
inductive Response (request : Request)
  | answer (answer : request.Answer)
  | wait (stage : Stage)
  /-- The actor's activity breaks down. -/
  | crash

namespace Bench

def initial (device : Device) (version : Version) : Bench :=
  { clock := 0, host := .bare, device, link := .new version, holder := none, waiters := [],
    cells := [], activities := [], ended := [], launched := 0, session := .ready, runnable := [],
    timers := [], written := [], events := [], deliveries := [] }

def setStage (bench : Bench) (id : ActivityId) (stage : Stage) : Bench :=
  { bench with
    activities := bench.activities.map fun activity =>
      if activity.id = id then { activity with stage } else activity }

/-- Lets an actor go on after its wait. -/
def wake (bench : Bench) : Actor → Bench
  | .session => { bench with session := bench.session.woken }
  | .activity id =>
    { bench with
      activities := bench.activities.map fun activity =>
        if activity.id = id then { activity with stage := activity.stage.woken } else activity
      runnable := bench.runnable ++ [id] }

def startTimer (bench : Bench) (time : Nat) (actor : Actor) : Bench :=
  { bench with timers := bench.timers ++ [(time, actor)] }

def updateCell (bench : Bench) (poller : PollerId) (change : Cell → Cell) : Bench :=
  { bench with cells := bench.cells.modify poller.index change }

def cell? (bench : Bench) (poller : PollerId) : Option Cell :=
  bench.cells[poller.index]?

/-- Waits before a port operation, unless the wait is over or there is none. -/
def afterLatency (bench : Bench) (actor : Actor) (waited : Bool) (latency : Nat)
    {request : Request} (operation : Response request × Bench) : Response request × Bench :=
  if waited ∨ latency = 0 then operation
  else (.wait .timed, bench.startTimer (bench.clock + Duration.sleepMillis latency) actor)

def write (bench : Bench) (bytes : Bytes) : Response (.write bytes) × Bench :=
  let (result, accepted, device) := bench.device.write bytes
  let written := match accepted with
    | some accepted => (bench.clock, accepted) :: bench.written
    | none => bench.written
  (.answer result, { bench with device, written })

def read (bench : Bench) (count : Nat) : Response (.read count) × Bench :=
  let (result, device) := bench.device.read count
  (.answer result, { bench with device })

/-- Hands the link to the next actor in line. -/
def release (bench : Bench) (link : Link) : Bench :=
  match bench.waiters with
  | [] => { bench with link, holder := none }
  | next :: waiters => { bench with link, holder := some next, waiters }.wake next

def launch (bench : Bench) (poller : PollerId) (subscriber : Subscriber) : Bench :=
  match bench.cell? poller with
  | none => bench
  | some cell =>
    let id : ActivityId := ⟨bench.launched⟩
    let program := Poller.activity poller cell.kind cell.period subscriber
    { bench with
      cells := bench.cells.set poller.index { cell with wanted := true, activity := some id }
      activities := bench.activities ++ [⟨id, program, .ready⟩]
      launched := bench.launched + 1
      runnable := bench.runnable ++ [id] }

def dismiss (bench : Bench) (poller : PollerId) : Bench :=
  let bench := bench.updateCell poller fun cell => { cell with wanted := false }
  match bench.activities.find? (·.stage = .resting poller) with
  | some activity =>
    let actor := Actor.activity activity.id
    { bench with timers := bench.timers.filter (·.2 ≠ actor) }.wake actor
  | none =>
    if bench.activities.any (·.stage = .rested poller) then bench
    else bench.updateCell poller fun cell => { cell with wakeUp := true }

/-- Carries out a request, or has the actor wait for it. -/
def perform (bench : Bench) (actor : Actor) (waited : Bool) :
    (request : Request) → Response request × Bench
  | .connect port =>
    if bench.device.name = some port.path then
      (.answer (.ok ()), { bench with device.baud := some port.baud })
    else
      (.answer (.error (bench.host.obstacle port.path)), bench)
  | .isOpen => (.answer bench.device.isOpen, bench)
  | .write bytes => bench.afterLatency actor waited bench.device.latency (bench.write bytes)
  | .flush =>
    let (result, device) := bench.device.flush
    (.answer result, { bench with device })
  | .read count => bench.afterLatency actor waited bench.device.readLatency (bench.read count)
  | .discardInput =>
    let (result, device) := bench.device.discard
    (.answer result, { bench with device })
  | .acquire =>
    if waited then
      (.answer bench.link, bench)
    else
      match bench.holder with
      | none => (.answer bench.link, { bench with holder := some actor })
      | some _ => (.wait .queued, { bench with waiters := bench.waiters ++ [actor] })
  | .release link => (.answer (), bench.release link)
  | .now => (.answer (Duration.ofMillis bench.clock), bench)
  | .sleep span =>
    let time := bench.clock + Duration.sleepMillis span.ceilMillis
    if waited ∨ time ≤ bench.clock then (.answer (), bench)
    else (.wait .timed, bench.startTimer time actor)
  | .report event => (.answer (), { bench with events := (bench.clock, event) :: bench.events })
  | .enlist kind hertz period =>
    (.answer ⟨bench.cells.length⟩,
      { bench with cells := bench.cells ++ [⟨kind, hertz, period, false, false, .zero, none⟩] })
  | .launch poller subscriber => (.answer (), bench.launch poller subscriber)
  | .dismiss poller => (.answer (), bench.dismiss poller)
  | .claim poller =>
    (.answer ((bench.cell? poller).bind (·.activity)),
      bench.updateCell poller fun cell => { cell with activity := none })
  | .join activity =>
    match bench.ended.lookup activity with
    | some ending => (.answer ending, bench)
    | none => (.wait (.joining activity), bench)
  | .isWanted poller => (.answer ((bench.cell? poller).any (·.wanted)), bench)
  | .count poller tally =>
    (.answer (), bench.updateCell poller fun cell => { cell with counts := cell.counts.add tally })
  | .deliver subscriber ordinal message =>
    let delivery : Delivery := ⟨bench.clock, subscriber.label, message⟩
    (if subscriber.failsAt = some ordinal then .crash else .answer (),
      { bench with deliveries := delivery :: bench.deliveries })
  | .rest poller deadline =>
    let time := deadline.ceilMillis
    if waited ∨ time ≤ bench.clock then
      (.answer (), bench)
    else if (bench.cell? poller).any (·.wakeUp) then
      (.answer (), bench.updateCell poller fun cell => { cell with wakeUp := false })
    else
      (.wait (.resting poller), bench.startTimer time actor)

end Bench
end FlightLink
