import FlightLink.Duration
import FlightLink.Fault

/-! Filling a buffer from a stream of bytes before a deadline. The stream is a
script of what happens next: data, a wait, the end, a failure. A wait that the
deadline cuts short goes on with the next read. Data that falls together with the
deadline is still taken. A deadline is an instant, and the clock has a last one. -/

namespace FlightLink

/-- A clock that shows `now` and stops at `latest`. -/
structure Clock where
  now : Duration
  latest : Duration
  deriving DecidableEq, Repr

namespace Clock

/-- The clock of a 64-bit system, which counts seconds in a signed word. -/
def start : Clock := ⟨⟨0⟩, ⟨9223372036854775807999999999⟩⟩

def after (clock : Clock) (millis : Nat) : Clock :=
  { clock with now := clock.now + .ofMillis millis }

/-- Whether the clock goes on for so many milliseconds. -/
def Lasts (clock : Clock) (millis : Nat) : Prop := clock.now + .ofMillis millis ≤ clock.latest

instance (clock : Clock) (millis : Nat) : Decidable (clock.Lasts millis) :=
  inferInstanceAs (Decidable (_ ≤ _))

end Clock

/-- What a stream does next. -/
inductive StreamEvent
  | data (bytes : Bytes)
  /-- Nothing for so many milliseconds. -/
  | wait (millis : Nat)
  | failure (fault : PortFault)
  /-- A read that brings no byte. -/
  | ending
  deriving DecidableEq, Repr

/-- Nothing for as long as a sleep of so many milliseconds lasts. -/
def StreamEvent.pause (millis : Nat) : StreamEvent :=
  .wait (Duration.sleepMillis millis)

/-- A stream's future. Behind the script the stream has ended for good. -/
abbrev Stream := List StreamEvent

/-- What one read comes to. -/
inductive Reading
  /-- No byte means that the stream has ended. -/
  | brought (bytes : Bytes)
  | failed (fault : PortFault)
  /-- The deadline came first. -/
  | late
  deriving DecidableEq, Repr

/-- What one read of a stream leaves. -/
structure Attempt where
  reading : Reading
  /-- Milliseconds that passed. -/
  elapsed : Nat
  stream : Stream

/-- What filling a buffer leaves. -/
structure Filled where
  buffer : Bytes
  /-- How many bytes were read. -/
  outcome : Except PortFault Nat
  elapsed : Nat
  stream : Stream

/-- What calls in a row leave. -/
structure Series where
  /-- Nothing where a call crashed. -/
  results : List (Option Filled)
  clock : Clock
  stream : Stream

/-- What the reads of one buffer come to. -/
structure Filling where
  filled : Bytes
  outcome : Except PortFault Unit
  /-- Milliseconds that passed. -/
  elapsed : Nat
  stream : Stream

namespace Stream

/-- Reads up to `wanted` bytes, if any come within `remaining` milliseconds. -/
def read (stream : Stream) (wanted remaining : Nat) : Attempt :=
  match stream with
  | [] => ⟨.brought [], 0, []⟩
  | .ending :: rest => ⟨.brought [], 0, rest⟩
  | .failure fault :: rest => ⟨.failed fault, 0, rest⟩
  | .wait millis :: rest =>
    if millis ≤ remaining then
      let later := read rest wanted (remaining - millis)
      { later with elapsed := later.elapsed + millis }
    else
      ⟨.late, remaining, .wait (millis - remaining) :: rest⟩
  | .data bytes :: rest =>
    if bytes.isEmpty then read rest wanted remaining
    else if wanted < bytes.length then
      ⟨.brought (bytes.take wanted), 0, .data (bytes.drop wanted) :: rest⟩
    else
      ⟨.brought bytes, 0, rest⟩

/-- Puts bytes into a buffer, in place of those that are there. -/
def overwrite (buffer : Bytes) (start : Nat) (bytes : Bytes) : Bytes :=
  buffer.take start ++ bytes ++ buffer.drop (start + bytes.length)

/-- Goes on filling a buffer that has its first `filled` bytes, `now` milliseconds after the start. -/
def fillFrom (deadline : Nat) (stream : Stream) (buffer : Bytes) (filled now : Nat) : Filled :=
  if filled < buffer.length then
    let attempt := stream.read (buffer.length - filled) (deadline - now)
    let now := now + attempt.elapsed
    match attempt.reading with
    | .brought (byte :: bytes) =>
      fillFrom deadline attempt.stream (overwrite buffer filled (byte :: bytes))
        (filled + (byte :: bytes).length) now
    | .brought [] | .late => ⟨buffer, .ok filled, now, attempt.stream⟩
    | .failed fault =>
      ⟨buffer, if fault.kind = .timedOut then .ok filled else .error fault, now, attempt.stream⟩
  else
    ⟨buffer, .ok filled, now, stream⟩
termination_by buffer.length - filled
decreasing_by
  simp only [overwrite, List.length_append, List.length_take, List.length_drop, List.length_cons]
  omega

/-- Fills a buffer, but gives up when the timeout has passed, on a whole millisecond. A deadline that
the clock does not go on to crashes the call before it reads. -/
def readFull (clock : Clock) (stream : Stream) (buffer : Bytes) (timeout : Duration) : Option Filled :=
  if clock.Lasts timeout.ceilMillis then some (fillFrom timeout.ceilMillis stream buffer 0 0) else none

/-- Fills buffers, one after another. A call that crashes leaves the stream as it was. -/
def readEach (clock : Clock) (stream : Stream) : List (Bytes × Duration) → Series
  | [] => ⟨[], clock, stream⟩
  | (buffer, timeout) :: rest =>
    let call := stream.readFull clock buffer timeout
    let clock := call.elim clock fun call => clock.after call.elapsed
    let later := readEach clock (call.elim stream Filled.stream) rest
    { later with results := call :: later.results }

/-- All reads of a buffer in one pass: takes up to `wanted` more bytes within `remaining` milliseconds. -/
def fill (stream : Stream) (wanted remaining : Nat) : Filling :=
  if wanted = 0 then ⟨[], .ok (), 0, stream⟩ else
  match stream with
  | [] => ⟨[], .ok (), 0, []⟩
  | .ending :: rest => ⟨[], .ok (), 0, rest⟩
  | .failure fault :: rest =>
    ⟨[], if fault.kind = .timedOut then .ok () else .error fault, 0, rest⟩
  | .wait millis :: rest =>
    if millis ≤ remaining then
      let later := fill rest wanted (remaining - millis)
      { later with elapsed := later.elapsed + millis }
    else
      ⟨[], .ok (), remaining, .wait (millis - remaining) :: rest⟩
  | .data bytes :: rest =>
    if wanted < bytes.length then
      ⟨bytes.take wanted, .ok (), 0, .data (bytes.drop wanted) :: rest⟩
    else
      let later := fill rest (wanted - bytes.length) remaining
      { later with filled := bytes ++ later.filled }

end Stream
end FlightLink
