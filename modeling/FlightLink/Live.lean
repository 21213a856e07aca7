import FlightLink.Poller
import Std.Async.Signal
import Std.Sync.Mutex

/-! Programs on a real device. The port is a file of the system, whose line settings
are left as they are: the line should be raw, and a read should come back when
nothing arrives for a while. Every activity is a task, and the link's lock is a
mutex. -/

namespace FlightLink

/-- What a poller shares between its owner and its activity. -/
structure Live.Cell where
  kind : Message.Kind
  period : Duration
  wanted : IO.Ref Bool
  wakeUp : IO.Ref Bool
  activity : IO.Ref (Option ActivityId)

structure Live where
  level : Log.Level
  coloured : Bool
  handle : IO.Ref (Option IO.FS.Handle)
  /-- Upper bound of every read. -/
  timeout : IO.Ref Duration
  lock : Std.BaseMutex
  link : IO.Ref Link
  cells : IO.Ref (Array Live.Cell)
  activities : IO.Ref (Array (Task (Except IO.Error Unit)))

namespace Live

def create (level : Log.Level) (version : Version) : IO Live := do
  return {
    level
    coloured := ← (← IO.getStdout).isTty
    handle := ← IO.mkRef none
    timeout := ← IO.mkRef ⟨0⟩
    lock := ← Std.BaseMutex.new
    link := ← IO.mkRef (.new version)
    cells := ← IO.mkRef #[]
    activities := ← IO.mkRef #[] }

def now : IO Duration := return ⟨← IO.monoNanosNow⟩

/-- What a failure says about the path. -/
def pathFault : IO.Error → PathFault
  | .noFileOrDirectory .. => .missing
  | .permissionDenied .. => .denied
  | .inappropriateType _ code text =>
    if code = 20 then .notDirectory else if code = 21 then .directory else .other text
  | .invalidArgument _ code text =>
    if code = 22 then .invalid else if code = 36 then .nameTooLong else .other text
  | error => .other (toString error)

def failed (error : IO.Error) : PortFault := ⟨.other, toString error⟩

def connect (live : Live) (port : PortSettings) : IO (Except PathFault Unit) := do
  try
    let handle ← IO.FS.Handle.mk port.path .readWrite
    if !(← handle.isTty) then return .error .notTerminal
    live.handle.set (some handle)
    live.timeout.set port.timeout
    return .ok ()
  catch error => return .error (pathFault error)

def withHandle {α : Type} (live : Live) (act : IO.FS.Handle → IO α) :
    IO (Except PortFault α) := do
  match ← live.handle.get with
  | none => return .error ⟨.notConnected, "not connected"⟩
  | some handle => try return .ok (← act handle) catch error => return .error (failed error)

def write (live : Live) (bytes : Bytes) : IO (Except PortFault Nat) :=
  live.withHandle fun handle => do
    handle.write ⟨bytes.toArray⟩
    return bytes.length

/-- Reads until there are so many bytes or time is up. -/
partial def collect (handle : IO.FS.Handle) (deadline : Duration) (count : Nat)
    (taken : ByteArray) : IO ByteArray := do
  if count ≤ taken.size then return taken
  let arrived ← handle.read (count - taken.size).toUSize
  if arrived.isEmpty then
    if deadline ≤ (← now) then return taken
    IO.sleep 1
  collect handle deadline count (taken ++ arrived)

def read (live : Live) (count : Nat) : IO (Except PortFault Bytes) :=
  live.withHandle fun handle => do
    let deadline := (← now) + (← live.timeout.get)
    return (← collect handle deadline count .empty).toList

/-- Reads until nothing comes. -/
partial def drain (handle : IO.FS.Handle) : IO Unit := do
  if (← handle.read 4096).isEmpty then return
  drain handle

def report (live : Live) (event : Log.Event) : IO Unit :=
  match Log.line? live.level live.coloured event.severity event.text with
  | some line => IO.println line
  | none => return ()

def enlist (live : Live) (kind : Message.Kind) (period : Duration) : IO PollerId := do
  let cell : Cell :=
    ⟨kind, period, ← IO.mkRef false, ← IO.mkRef false, ← IO.mkRef none⟩
  live.cells.modifyGet fun cells => (⟨cells.size⟩, cells.push cell)

def cell (live : Live) (poller : PollerId) : IO Cell := do
  match (← live.cells.get)[poller.index]? with
  | some cell => return cell
  | none => throw (IO.userError "no such poller")

def join (live : Live) (activity : ActivityId) : IO Ending := do
  match (← live.activities.get)[activity.index]? with
  | none => return .finished
  | some task =>
    match ← IO.wait task with
    | .ok () => return .finished
    | .error _ => return .crashed

/-- Looks every millisecond whether the poller is woken or time is up. -/
partial def rest (cell : Cell) (deadline : Duration) : IO Unit := do
  if ← cell.wakeUp.modifyGet fun wakeUp => (wakeUp, false) then return
  if deadline ≤ (← now) then return
  IO.sleep 1
  rest cell deadline

mutual

/-- Carries a request out. -/
partial def perform (live : Live) : (request : Request) → IO request.Answer
  | .connect port => live.connect port
  | .isOpen => return (← live.handle.get).isSome
  | .write bytes => live.write bytes
  | .flush => live.withHandle (·.flush)
  | .read count => live.read count
  | .discardInput => live.withHandle drain
  | .acquire => do
    live.lock.lock
    live.link.get
  | .release link => do
    live.link.set link
    live.lock.unlock
  | .now => now
  | .sleep span => IO.sleep span.ceilMillis.toUInt32
  | .report event => live.report event
  | .enlist kind _ period => live.enlist kind period
  | .launch poller _ => live.launch poller
  | .dismiss poller => do
    let cell ← live.cell poller
    cell.wanted.set false
    cell.wakeUp.set true
  | .claim poller => do
    (← live.cell poller).activity.modifyGet fun activity => (activity, none)
  | .join activity => live.join activity
  | .isWanted poller => do (← live.cell poller).wanted.get
  | .count .. => return ()
  | .deliver _ _ message => IO.println message.text
  | .rest poller deadline => do rest (← live.cell poller) deadline

partial def launch (live : Live) (poller : PollerId) : IO Unit := do
  let cell ← live.cell poller
  cell.wanted.set true
  let program := Poller.activity poller cell.kind cell.period ⟨"display", none⟩
  let task ← IO.asTask (live.run program) .dedicated
  let id ← live.activities.modifyGet fun activities => (⟨activities.size⟩, activities.push task)
  cell.activity.set (some id)

partial def run {α : Type} (live : Live) : Program α → IO α
  | .pure result => return result
  | .ask request next => do live.run (next (← live.perform request))
  | .iterate body state next => do
    match ← live.run (body state) with
    | .more state => live.run (.iterate body state next)
    | .done result => live.run (next result)

end

/-- Waits until the user interrupts the program. -/
def awaitInterrupt : IO Unit := do
  let waiter ← Std.Async.Signal.Waiter.mk .sigint false
  let _ ← (← waiter.wait).block

end Live
end FlightLink
