import FlightLink.Digit
import FlightLink.Duration
import FlightLink.Message

/-! The log. Components report events; an event has a severity and a wording, and
a line of the log shows both. A level lets through all events at least as severe
as it asks for. A wording may quote what a device or a user wrote, so what could
steer a terminal is spelled out in a line. -/

namespace FlightLink.Log

inductive Severity
  | error
  | warn
  | info
  | debug
  | trace
  deriving DecidableEq, Repr

namespace Severity

def all : List Severity := [error, warn, info, debug, trace]

def name : Severity → String
  | error => "error"
  | warn => "warn"
  | info => "info"
  | debug => "debug"
  | trace => "trace"

def ofName? (name : String) : Option Severity :=
  all.find? (·.name == name)

/-- One for the most severe. -/
def rank : Severity → Nat
  | error => 1
  | warn => 2
  | info => 3
  | debug => 4
  | trace => 5

def label : Severity → String
  | error => "ERROR"
  | warn => "WARNING"
  | info => "INFO"
  | debug => "DEBUG"
  | trace => "TRACE"

/-- The terminal sequence that colours a line: red for errors, yellow for
warnings. -/
def colour : Severity → Option String
  | error => some "\x1b[31m"
  | warn => some "\x1b[33m"
  | _ => none

end Severity

/-- How much is logged, from everything to nothing. -/
inductive Level
  | full
  | info
  | warn
  | err
  | inactive
  deriving DecidableEq, Repr, Inhabited

namespace Level

def all : List Level := [full, info, warn, err, inactive]

def name : Level → String
  | full => "full"
  | info => "info"
  | warn => "warn"
  | err => "err"
  | inactive => "inactive"

def ofName? (name : String) : Option Level :=
  all.find? (·.name == name)

/-- The short name used in diagnostic renderings. -/
def label : Level → String
  | full => "Full"
  | info => "Info"
  | warn => "Warn"
  | err => "Err"
  | inactive => "Inactive"

/-- The least severe kind of event let through. -/
def threshold : Level → Option Severity
  | full => some .trace
  | info => some .info
  | warn => some .warn
  | err => some .error
  | inactive => none

def admits (level : Level) (severity : Severity) : Bool :=
  level.threshold.any fun least => severity.rank ≤ least.rank

/-- Zero for the most verbose. -/
def rank : Level → Nat
  | full => 0
  | info => 1
  | warn => 2
  | err => 3
  | inactive => 4

end Level

/-- Whether a character steers a terminal: bell, backspace, form feed, escape, delete
and the controls above them. The other controls pass. -/
def steers (char : Char) : Bool :=
  char ∈ ['\x07', '\x08', '\x0c', '\x1b', '\x7f'] || (0x80 ≤ char.toNat && char.toNat ≤ 0x9f)

/-- A character, or the spelling of its number if it steers a terminal. -/
def spelled (char : Char) : List Char :=
  if !steers char then [char]
  else if char.toNat < 0x80 then ['\\', 'x'] ++ Digit.hex 2 char.toNat
  else ['\\', 'u', '\x7b'] ++ Digit.hex 2 char.toNat ++ ['\x7d']

/-- A line of the log, without its end. Colours are the line's own, its text has none. -/
def line (coloured : Bool) (severity : Severity) (text : String) : String :=
  let plain := s!"[{severity.label}] {String.ofList (text.toList.flatMap spelled)}"
  match severity.colour with
  | some sequence => if coloured then sequence ++ plain ++ "\x1b[0m" else plain
  | none => plain

/-- The line that an event makes, if the level lets it through. -/
def line? (level : Level) (coloured : Bool) (severity : Severity) (text : String) :
    Option String :=
  if level.admits severity then some (line coloured severity text) else none

/-- Commands to the vehicle, as the log names them. -/
inductive Command
  | arm
  | disarm
  | setSticks
  | resetChannels
  deriving DecidableEq, Repr

def Command.text : Command → String
  | arm => "arm"
  | disarm => "disarm"
  | setSticks => "set TRPY"
  | resetChannels => "reset RC channels"

/-- What is worth a line. -/
inductive Event
  | opening (path : String)
  | opened (path : String) (baud : Nat)
  | sent (code : UInt16) (length : Nat)
  | mismatch (expected received : Version)
  | switched (before after : Version)
  | dropped (received awaited : UInt16)
  | mapUnavailable (fault : Fault) (retry : Duration)
  | mapRegistered (map : ChannelMap)
  | resetUnavailable (fault : Fault) (retry : Duration)
  | channelsReset (override : ChannelOverride)
  | readFailed (code : Code) (fault : Fault)
  | commandFailed (command : Command) (fault : Fault)
  | unacknowledged (code : Code) (fault : Fault)
  | callbackRegistered (code : Code) (hertz : Float32)
  | pollerStarted (code : Code) (hertz : Float32)
  | pollerStopped (code : Code)
  | pollerCrashed (code : Code)
  | pollFailed (code : Code) (fault : Fault)
  | overrun (code : Code) (elapsed period : Duration)
  | shutDown
  | starting (release : String)
  | awaitingInterrupt
  | interrupted

namespace Event

def severity : Event → Severity
  | opening _ | sent .. | pollerStarted .. | pollerStopped _ => .debug
  | opened .. | switched .. | mapRegistered _ | channelsReset _ | callbackRegistered ..
  | shutDown | starting _ | awaitingInterrupt | interrupted => .info
  | mismatch .. | dropped .. | mapUnavailable .. | resetUnavailable .. | unacknowledged ..
  | pollerCrashed _ | overrun .. => .warn
  | readFailed .. | commandFailed .. | pollFailed .. => .error

def text : Event → String
  | opening path => s!"Trying to open serial port: {path}"
  | opened path baud => s!"Opened serial port {path} at {baud} baud"
  | sent code length => s!"Sent code {code} with {length} byte payload"
  | mismatch expected received =>
    s!"Version mismatch: expected {expected.text}, received {received.text}"
  | switched before after => s!"Switching MSP version from {before.text} to {after.text}"
  | dropped received awaited =>
    s!"Dropping stale answer to code {received} while waiting for {awaited}"
  | mapUnavailable fault retry =>
    s!"Unable to register AUX map ({fault.message}), retrying in {retry.text}"
  | mapRegistered map => s!"Registered {map.text}"
  | resetUnavailable fault retry =>
    s!"Unable to reset RC channels ({fault.message}), retrying in {retry.text}"
  | channelsReset override => s!"Reset {override.text}"
  | readFailed code fault => s!"Failed to read {code.text}: {fault.message}"
  | commandFailed command fault => s!"Failed to {command.text}: {fault.message}"
  | unacknowledged code fault => s!"No acknowledgement for {code.text}: {fault.message}"
  | callbackRegistered code hertz =>
    s!"Registered {code.text} callback at {Decimal.text Decimal.plain hertz} Hz"
  | pollerStarted code hertz =>
    s!"Started {code.text} worker at {Decimal.text Decimal.plain hertz} Hz"
  | pollerStopped code => s!"Stopped {code.text} worker"
  | pollerCrashed code => s!"{code.text} worker ended abnormally: its callback failed"
  | pollFailed code fault => s!"Periodic read of {code.text} failed: {fault.message}"
  | overrun code elapsed period =>
    s!"{code.text} worker unable to meet frequency requirements ({elapsed.text} > {period.text})"
  | shutDown => "Interface shut down"
  | starting release => s!"MSP FCI v{release} starting..."
  | awaitingInterrupt => "Press Ctrl+C to exit"
  | interrupted => "Received Ctrl+C, shutting down..."

end Event
end FlightLink.Log
