import FlightLink.Frame
import FlightLink.Program

/-! A scripted device behind a port. Bytes wait until they are read; requests that
are written make the device send scripted replies; single calls can be scripted
to fail or to move fewer bytes. The device counts requests that were written
while bytes were still waiting. -/

namespace FlightLink

/-- How one call on the port departs from the normal. -/
inductive Disturbance
  /-- At most this many bytes move. -/
  | limit (count : Nat)
  | failure (fault : PortFault)
  deriving DecidableEq, Repr

/-- Which requests a reply list is for. -/
inductive ReplyKey
  | code (code : Nat)
  | anyCode
  deriving DecidableEq, Repr

/-- What comes for the next calls of one kind. Behind the list all is normal. -/
abbrev Script := List (Option Disturbance)

structure Device where
  /-- Whether the port in front of the device is open. -/
  isOpen : Bool
  /-- The far end is gone: nothing more can be read or written. -/
  hungUp : Bool
  /-- The path of the port. -/
  name : Option String
  baud : Option Nat
  inbound : Bytes
  writeLimit : Option Nat
  /-- Milliseconds before each write. -/
  latency : Nat
  /-- Milliseconds before each read. -/
  readLatency : Nat
  replies : List (ReplyKey × List Bytes)
  writes : Script
  reads : Script
  flushes : Script
  clears : Script
  interleaved : Nat
  cleared : Nat

namespace Device

def initial : Device :=
  { isOpen := true, hungUp := false, name := none, baud := none, inbound := [],
    writeLimit := none, latency := 0, readLatency := 0, replies := [], writes := [],
    reads := [], flushes := [], clears := [], interleaved := 0, cleared := 0 }

/-- The failure of a line whose far end is gone. -/
def lineGone : PortFault := ⟨.other, "Input/output error (os error 5)"⟩

/-- The function code of a written request, if enough of it was written. -/
def requestCode? : Bytes → Option Nat
  | _ :: marker :: _ :: _ :: low :: rest =>
    if marker = Version.v2.marker then
      match rest with
      | high :: _ => some (LittleEndian.value [low, high])
      | [] => none
    else
      some low.toNat
  | _ => none

/-- Takes the first entry of a reply list; the last entry stays. -/
def takeReply : List Bytes → Bytes × List Bytes
  | [] => ([], [])
  | [reply] => (reply, [reply])
  | reply :: rest => (reply, rest)

/-- The reply to a request under one key, if the script has that key. -/
def replyUnder? (key : ReplyKey) :
    List (ReplyKey × List Bytes) → Option (Bytes × List (ReplyKey × List Bytes))
  | [] => none
  | (other, list) :: rest =>
    if other = key then
      let (reply, list) := takeReply list
      some (reply, (other, list) :: rest)
    else
      (replyUnder? key rest).map fun (reply, rest) => (reply, (other, list) :: rest)

/-- The reply to a request: under its code, else under the key for all codes. -/
def reply (device : Device) (request : Bytes) : Bytes × Device :=
  match requestCode? request with
  | none => ([], device)
  | some code =>
    match (replyUnder? (.code code) device.replies).or (replyUnder? .anyCode device.replies) with
    | some (reply, replies) => (reply, { device with replies })
    | none => ([], device)

/-- The entry for this call and the script for later ones. -/
def next : Script → Option Disturbance × Script
  | [] => (none, [])
  | entry :: rest => (entry, rest)

/-- At most `limit` of `count`. -/
def atMost (limit : Option Nat) (count : Nat) : Nat :=
  match limit with
  | some limit => min limit count
  | none => count

/-- Writes bytes. The second result is what the port accepted, if it accepted
anything at all. -/
def write (device : Device) (bytes : Bytes) :
    Except PortFault Nat × Option Bytes × Device :=
  if device.hungUp then
    (if bytes.isEmpty then .ok 0 else .error lineGone, none, device)
  else
  let (entry, writes) := next device.writes
  let device := { device with writes }
  match entry with
  | some (.failure fault) => (.error fault, none, device)
  | entry =>
    let scripted := match entry with
      | some (.limit count) => some count
      | _ => none
    let accepted := bytes.take (atMost scripted (atMost device.writeLimit bytes.length))
    let interleaved := device.interleaved + if device.inbound.isEmpty then 0 else 1
    let (sent, device) := reply { device with interleaved } accepted
    (.ok accepted.length, some accepted, { device with inbound := device.inbound ++ sent })

/-- Takes up to `count` waiting bytes. -/
def read (device : Device) (count : Nat) : Except PortFault Bytes × Device :=
  if device.hungUp then (.ok [], device) else
  let (entry, reads) := next device.reads
  let device := { device with reads }
  match entry with
  | some (.failure fault) => (.error fault, device)
  | entry =>
    let moved := match entry with
      | some (.limit limit) => min limit count
      | _ => count
    let (taken, inbound) := device.inbound.splitAt moved
    (.ok taken, { device with inbound })

def flush (device : Device) : Except PortFault Unit × Device :=
  let (entry, flushes) := next device.flushes
  let device := { device with flushes }
  match entry with
  | some (.failure fault) => (.error fault, device)
  | _ => (.ok (), device)

/-- Drops all waiting bytes. -/
def discard (device : Device) : Except PortFault Unit × Device :=
  if device.hungUp then (.error ⟨.other, "I/O error"⟩, device) else
  let (entry, clears) := next device.clears
  let device := { device with clears }
  match entry with
  | some (.failure fault) => (.error fault, device)
  | _ => (.ok (), { device with inbound := [], cleared := device.cleared + 1 })

/-- The far end goes away, and what waited is lost. -/
def hangUp (device : Device) : Device :=
  { device with hungUp := true, inbound := [] }

end Device
end FlightLink
