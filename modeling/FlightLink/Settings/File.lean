import FlightLink.Settings
import FlightLink.Toml.Document

/-! Settings files. A file has a table for the serial port, one for the protocol, one
for the log, and an array of subscriptions. What a file leaves out keeps its default,
and keys that mean nothing here are passed over. -/

namespace FlightLink.Settings
open Toml

/-! ## Values -/

/-- How the fields of a section are found: a table has them under their names, an
array has them in order, and a date or a time has none of them. -/
def fields? : Node → Option (Nat → String → Option Node)
  | .table _ entries => some fun _ key => Entries.get? entries key
  | .array elements => some fun index _ => elements[index]?
  | .tables elements => some fun index _ => elements[index]?.map (.table .header)
  | .moment => some fun _ _ => none
  | _ => none

def elements? : Node → Option (List Node)
  | .array elements => some elements
  | .tables elements => some (elements.map (.table .header))
  | _ => none

def isHollow : Node → Bool
  | .table _ entries => entries.isEmpty
  | .array elements => elements.isEmpty
  | .tables elements => elements.isEmpty
  | _ => false

def text? : Node → Option String
  | .string text => some text
  | _ => none

/-- A natural number below `2 ^ width`. -/
def natural? (width : Nat) : Node → Option Nat
  | .integer value =>
    if 0 ≤ value ∧ value.toNat < Nat.pow 2 width then some value.toNat else none
  | _ => none

def single? : Node → Option Float32
  | .float value => some value.toFloat32
  | .integer value => some (Int64.ofInt value).toFloat32
  | _ => none

/-- One of several names: a string, or a table with nothing under that one name. -/
def choice? {α : Type} (ofName? : String → Option α) : Node → Option α
  | .string name => ofName? name
  | .table _ [(name, node)] => if isHollow node then ofName? name else none
  | _ => none

/-- What a field holds, or its default when it is left out. -/
def orDefault {α : Type} (default : α) (read : Node → Option α) : Option Node → Option α
  | none => some default
  | some node => read node

/-! ## Sections -/

def serial? (settings : Settings) (node : Node) : Option Settings := do
  let field ← fields? node
  let port ← orDefault settings.port text? (field 0 "port")
  let baud ← orDefault settings.baud (natural? 32) (field 1 "baud_rate")
  let timeout ← orDefault settings.timeout (natural? 64) (field 2 "timeout_ms")
  return { settings with port, baud, timeout }

def protocol? (settings : Settings) (node : Node) : Option Settings := do
  let field ← fields? node
  let versionNumber ← orDefault settings.versionNumber (natural? 8) (field 0 "version")
  let retryInterval ←
    orDefault settings.retryInterval (natural? 64) (field 1 "retry_interval_ms")
  return { settings with versionNumber, retryInterval }

def logging? (settings : Settings) (node : Node) : Option Settings := do
  let field ← fields? node
  let level ← orDefault settings.level (choice? Log.Level.ofName?) (field 0 "level")
  return { settings with level }

def subscription? (node : Node) : Option Subscription := do
  let field ← fields? node
  return ⟨← choice? Topic.ofName? (← field 0 "message"), ← single? (← field 1 "frequency_hz")⟩

def subscriptions? (settings : Settings) (node : Node) : Option Settings := do
  let subscriptions ← (← elements? node).mapM subscription?
  return { settings with subscriptions }

/-- What a document asks for. -/
def ofDocument? (document : Entries) : Option Settings := do
  let settings ← orDefault default (serial? default) (document.get? "serial")
  let settings ← orDefault settings (protocol? settings) (document.get? "msp")
  let settings ← orDefault settings (logging? settings) (document.get? "logging")
  orDefault settings (subscriptions? settings) (document.get? "callbacks")

/-! ## Files -/

/-- Why a file has no text. -/
inductive Unreadable
  | path (fault : PathFault)
  | notText
  deriving DecidableEq, Repr

def Unreadable.message : Unreadable → String
  | path fault => fault.message
  | notText => "stream did not contain valid UTF-8"

/-- Why there are no settings. -/
inductive Failure
  | unreadable (reason : Unreadable)
  /-- The text is no document, or something in it has the wrong type. -/
  | malformed
  | invalid (violation : Violation)

namespace Failure

/-- The failure by itself. -/
def reason : Failure → String
  | unreadable reason => reason.message
  | malformed => "malformed settings\n"
  | invalid violation => violation.message ++ "\n"

def message : Failure → String
  | unreadable reason => s!"I/O error: {reason.message}"
  | failure => s!"Configuration error: {failure.reason}"

end Failure

/-- Settings that can be used, from the text of a file. -/
def ofText (text : String) : Except Failure Settings :=
  match parse? text >>= ofDocument? with
  | none => .error .malformed
  | some settings =>
    match settings.violation? with
    | some violation => .error (.invalid violation)
    | none => .ok settings

/-- Settings that can be used, from the content of a file if it could be read. -/
def ofFile (content : Except PathFault ByteArray) : Except Failure Settings :=
  match content with
  | .error fault => .error (.unreadable (.path fault))
  | .ok bytes =>
    match String.fromUTF8? bytes with
    | none => .error (.unreadable .notText)
    | some text => ofText text

end FlightLink.Settings
