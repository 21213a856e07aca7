import FlightLink.Settings.File
import FlightLink.Vehicle

/-! The command line program: it loads its settings, connects to a vehicle, shows
every message it subscribed to, and shuts down when it is interrupted. A failure is
told with all its causes. -/

namespace FlightLink.CommandLine

def release : String := "0.1.0"

inductive Failure
  | load (path : String) (failure : Settings.Failure)
  | connect (port : String) (fault : Fault)
  | register (fault : Fault)

/-- What a fault says, and what the port said if the fault is its failure. -/
def explain : Fault → List String
  | .port fault => [(Fault.port fault).message, fault.text]
  | fault => [fault.message]

namespace Failure

/-- What failed, then why, then why that. -/
def chain : Failure → List String
  | load path failure => [s!"Failed to load {path}", failure.message, failure.reason]
  | connect port fault => s!"Failed to connect to {port}" :: explain fault
  | register fault => explain fault

/-- Text behind a mark. Lines after the first one are indented to match. -/
def marked (mark : String) (text : String) : String :=
  let indent := String.ofList (List.replicate mark.length ' ')
  mark ++ ("\n" ++ indent).intercalate (text.splitOn "\n")

/-- Causes, one below the other, with numbers if there are several. -/
def causes : List String → List String
  | [] => []
  | [cause] => [marked "    " cause]
  | causes => causes.zipIdx.map fun (cause, index) =>
    let number := toString index
    marked (String.ofList (List.replicate (5 - number.length) ' ') ++ number ++ ": ") cause

def text (failure : Failure) : String :=
  match failure.chain with
  | [] => ""
  | [first] => s!"Error: {first}\n"
  | first :: rest => s!"Error: {first}\n\nCaused by:\n" ++ "\n".intercalate (causes rest) ++ "\n"

end Failure

/-- The settings from a file, or the defaults without one. -/
def settings : Option (String × Except PathFault ByteArray) → Except Failure Settings
  | none => .ok .default
  | some (path, content) => (Settings.ofFile content).mapError (.load path)

/-- Shows messages as they come. -/
def display : Subscriber := ⟨"display", none⟩

/-- Registers subscriptions in order. -/
def subscribe (vehicle : Vehicle) : List Subscription → Program (Vehicle × Except Fault Unit)
  | [] => return (vehicle, .ok ())
  | subscription :: rest => do
    match ← vehicle.register subscription.topic.kind subscription.hertz display with
    | (vehicle, .ok ()) => subscribe vehicle rest
    | (vehicle, .error fault) => return (vehicle, .error fault)

/-- Connects and subscribes. -/
def start (settings : Settings) : Program (Except Failure Vehicle) := do
  Program.report (.starting release)
  match ← Vehicle.connect settings.port settings.options with
  | .error fault => return .error (.connect settings.port fault)
  | .ok vehicle =>
    match ← subscribe vehicle settings.subscriptions with
    | (_, .error fault) => return .error (.register fault)
    | (vehicle, .ok ()) =>
      Program.report .awaitingInterrupt
      return .ok vehicle

/-- The lines that a printed text makes. A carriage return at the end of one belongs
to its end. -/
def lines (text : String) : List String :=
  (text.splitOn "\n").map fun line =>
    if line.toList.getLast? = some '\r' then String.ofList line.toList.dropLast else line

/-- What an interrupt leads to. -/
def finish (vehicle : Vehicle) : Program Unit := do
  Program.report .interrupted
  vehicle.shutDown

end FlightLink.CommandLine
