import FlightLink.Exchange

/-! Pollers read one kind of message at a fixed rate and deliver what they read. A
poller runs as an activity of its own until it is dismissed. Dismissal is looked
at between polls only, so a transaction is never cut. A poll that took longer than
the period is followed by the next one at once. -/

namespace FlightLink

/-! Polling rates in hertz. -/
namespace Frequency

/-- The fastest rate accepted. -/
def greatest : Float32 := 1000.0

/-- Rates that are no finite number, not above zero, or above the fastest one. -/
def refused (hertz : Float32) : Bool :=
  !hertz.isFinite || hertz ≤ 0 || greatest < hertz

/-- The time between two polls, rounded down to nanoseconds. -/
def period (hertz : Float32) : Except Fault Duration :=
  if refused hertz then
    .error (.invalidFrequency hertz)
  else
    .ok ⟨((1e9 : Float) / hertz.toFloat).toUInt64.toNat⟩

end Frequency

/-- A poller's identity and what it was created with. -/
structure Poller where
  id : PollerId
  kind : Message.Kind
  hertz : Float32
  period : Duration

/-- What a poller has counted since it was created. Counters of 64 bits that wrap around would agree
with these up to 18446744073709551615 polls. -/
structure Counts where
  iterations : Nat
  failures : Nat
  overruns : Nat
  deriving DecidableEq, Repr

namespace Counts

def zero : Counts := ⟨0, 0, 0⟩

def add (counts : Counts) : Tally → Counts
  | .iteration => { counts with iterations := counts.iterations + 1 }
  | .failure => { counts with failures := counts.failures + 1 }
  | .overrun => { counts with overruns := counts.overruns + 1 }

end Counts

namespace Poller

/-- One poll: the transaction, and the message its answer carries. -/
def poll (kind : Message.Kind) : Program (Except Fault Message) := do
  let (outcome, payload) ← transact kind.code.number [] []
  match outcome with
  | .error fault => return .error fault
  | .ok () => return kind.decode payload

/-- One round of the activity, after `delivered` deliveries. -/
def round (id : PollerId) (kind : Message.Kind) (period : Duration) (subscriber : Subscriber)
    (delivered : Nat) : Program (Progress Nat Unit) := do
  if !(← Program.isWanted id) then
    return .done ()
  let began ← Program.now
  let polled ← poll kind
  match polled with
  | .ok message => Program.deliver subscriber (delivered + 1) message
  | .error fault =>
    Program.count id .failure
    Program.report (.pollFailed kind.code fault)
  Program.count id .iteration
  let elapsed := (← Program.now).since began
  if period < elapsed then
    Program.count id .overrun
    Program.report (.overrun kind.code elapsed period)
  else
    Program.rest id (began + period)
  return .more (if polled.isOk then delivered + 1 else delivered)

/-- The activity of a poller, from its launch until it is dismissed. -/
def activity (id : PollerId) (kind : Message.Kind) (period : Duration)
    (subscriber : Subscriber) : Program Unit :=
  Program.loop 0 (round id kind period subscriber)

def launch (poller : Poller) (subscriber : Subscriber) : Program Unit := do
  Program.launch poller.id subscriber
  Program.report (.pollerStarted poller.kind.code poller.hertz)

/-- Creates a poller and starts it. -/
def start (kind : Message.Kind) (hertz : Float32) (subscriber : Subscriber) :
    Program (Except Fault Poller) := do
  match Frequency.period hertz with
  | .error fault => return .error fault
  | .ok period =>
    let id ← Program.enlist kind hertz period
    let poller : Poller := ⟨id, kind, hertz, period⟩
    poller.launch subscriber
    return .ok poller

/-- Dismisses the poller and waits for its activity to end. A poller without an
activity is left as it is. -/
def stop (poller : Poller) : Program Unit := do
  Program.dismiss poller.id
  match ← Program.claim poller.id with
  | none => return ()
  | some activity =>
    match ← Program.join activity with
    | .finished => Program.report (.pollerStopped poller.kind.code)
    | .crashed => Program.report (.pollerCrashed poller.kind.code)

/-- Stops the poller and starts it again for another subscriber. -/
def resubscribe (poller : Poller) (subscriber : Subscriber) : Program Unit := do
  poller.stop
  poller.launch subscriber

/-- Gives the poller up without waiting: its activity ends after the poll it is
in. -/
def drop (poller : Poller) : Program Unit := do
  Program.dismiss poller.id
  let _ ← Program.claim poller.id
  return ()

/-- The diagnostic rendering. -/
def text (poller : Poller) (wanted : Bool) (counts : Counts) : String :=
  "PeriodicCallback \x7b " ++
    s!"code: {poller.kind.code.label}, " ++
    s!"frequency: {Decimal.text Decimal.diagnostic poller.hertz}, " ++
    s!"active: {wanted}, stats: WorkerStatsSnapshot \x7b " ++
    s!"iterations: {counts.iterations}, failures: {counts.failures}, " ++
    s!"overruns: {counts.overruns}" ++ " \x7d \x7d"

end Poller
end FlightLink
