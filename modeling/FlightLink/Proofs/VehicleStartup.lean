import FlightLink.Bench.Run
import FlightLink.Proofs.CommandOutcome
import FlightLink.Proofs.ProgramTimeline

/-! Setting a vehicle up. Two loops of attempts, for the channel map and for a reset, with a pause after
each attempt that fails. A vehicle that comes out of them has a map that was received, and is in the safe
state that was sent to the flight controller last. -/

namespace FlightLink

open Program (Abides Follows)

/-- An answer with the code and the payload stands in the bytes as a whole frame. -/
def Frame.Answered (code : UInt16) (payload input : Bytes) : Prop :=
  ∃ version, ∃ answer : Frame, answer.Fits version ∧ answer.direction ≠ refusal ∧ answer.code = code ∧
    answer.payload = payload ∧ answer.wire version <:+: input

theorem Frame.Answered.within {code : UInt16} {payload input whole : Bytes}
    (answered : Answered code payload input) (inside : input <:+: whole) : Answered code payload whole := by
  obtain ⟨version, answer, fits, normal, own, same, within⟩ := answered
  exact ⟨version, answer, fits, normal, own, same, within.trans inside⟩

theorem Link.Heard.answered {version : Version} {code : UInt16} {payload input : Bytes}
    (heard : Heard version code payload input) : Frame.Answered code payload input := by
  induction heard with
  | answer parses =>
    generalize received : (⟨.ok code, payload⟩ : Receipt) = receipt at parses
    generalize [] = rest at parses
    cases parses with
    | @accepted noise _ frame _ fits normal =>
      cases received
      exact ⟨version, frame, fits, normal, rfl, rfl, ⟨noise, rest, List.append_assoc ..⟩⟩
    | corrupt | refused | foreign | cut => cases received
  | late _ _ _ ih => exact ih.within (List.suffix_append ..).isInfix

theorem Record.Learns.frame {code : UInt16} {payload : Bytes} {record : Record}
    (learns : record.Learns code payload) : Frame.Answered code payload record.delivered := by
  cases learns with
  | @answered before since version request written _ _ _ heard =>
    apply heard.answered.within
    simp only [Record.delivered_append, Record.delivered_cons, ← List.append_assoc]
    exact (List.suffix_append ..).isInfix

namespace Vehicle

variable {allowed : Record → Bytes → Prop} {pause : Duration}
  {unavailable : Fault → Duration → Log.Event} {vehicle : Vehicle}

/-- The courses of repeating an attempt until it passes. One that fails changes nothing. -/
inductive Persists (pause : Duration) (unavailable : Fault → Duration → Log.Event)
    (attempt : Record → Vehicle × Except Fault Unit → Prop) (vehicle : Vehicle) :
    Record → Vehicle → Prop
  | passed {said after} (passes : attempt said (after, .ok ())) :
      Persists pause unavailable attempt vehicle said after
  | failed {said fault more after} (fails : attempt said (vehicle, .error fault))
      (again : Persists pause unavailable attempt vehicle more after) :
      Persists pause unavailable attempt vehicle
        (said ++ ⟨.report (unavailable fault pause), ()⟩ :: ⟨.sleep pause, ()⟩ :: more) after

theorem follows_persist {attempt : Vehicle → Program (Vehicle × Except Fault Unit)}
    {course : Record → Vehicle × Except Fault Unit → Prop}
    (follows : ∀ record, (attempt vehicle).Follows allowed course record)
    (keeps : ∀ said other fault, course said (other, .error fault) → other = vehicle) (record : Record) :
    (persist pause unavailable attempt vehicle).Follows allowed
      (Persists pause unavailable course vehicle) record := by
  apply abides_persist fun other before => other = vehicle ∧ ∃ said, before = record ++ said ∧
    ∀ more after, Persists pause unavailable course vehicle more after →
      Persists pause unavailable course vehicle (said ++ more) after
  · exact ⟨rfl, [], (List.append_nil _).symm, fun _ _ => id⟩
  · intro other before held
    obtain ⟨rfl, said, rfl, goesOn⟩ := held
    apply (follows _).abides
    intro result tried taken
    obtain ⟨after, outcome⟩ := result
    cases outcome with
    | ok => exact ⟨said ++ tried, List.append_assoc .., goesOn _ _ (.passed taken)⟩
    | error fault =>
      obtain rfl := keeps _ _ _ taken
      refine ⟨rfl, said ++ (tried ++ [⟨.report (unavailable fault pause), ()⟩, ⟨.sleep pause, ()⟩]),
        by simp, fun more after again => ?_⟩
      have later := goesOn _ _ (.failed taken again)
      simpa using later

inductive Starts (options : Options) : Record → Vehicle → Prop
  | started {registering resetting : Record} {mapped vehicle : Vehicle}
      (registers : Persists options.retryInterval .mapUnavailable
        (Registers ⟨.initial, .initial, [], options⟩) ⟨.initial, .initial, [], options⟩ registering mapped)
      (resets : Persists options.retryInterval .resetUnavailable mapped.Resets mapped resetting vehicle) :
      Starts options (registering ++ ⟨.report (.mapRegistered mapped.map), ()⟩ ::
        (resetting ++ [⟨.report (.channelsReset vehicle.channels), ()⟩])) vehicle

theorem follows_start (options : Options) (record : Record) :
    (start options).Follows (fun _ _ => True) (Starts options) record := by
  have registers (record : Record) : (persist options.retryInterval .mapUnavailable tryRegisterMap
      ⟨.initial, .initial, [], options⟩).Follows (fun _ _ => True) _ record :=
    follows_persist (fun _ => follows_tryRegisterMap fun _ _ _ => trivial)
      (fun _ _ _ registers => by cases registers; rfl) record
  apply (registers record).bind
  intro mapped registering registers
  refine .ask nofun fun done _ => ?_
  cases done
  have resets (record : Record) : (persist options.retryInterval .resetUnavailable tryReset
      mapped).Follows (fun _ _ => True) _ record :=
    follows_persist (fun _ => follows_tryReset (fun _ _ _ => trivial) fun _ _ _ _ _ _ _ _ => trivial)
      (fun _ _ fault resets => resets.attempted.failed fault rfl) record
  apply (resets _).bind
  intro vehicle resetting resets
  refine .ask nofun fun done _ => .pure ⟨_, ?_, .started registers resets⟩
  cases done
  simp

section

variable {attempt : Record → Vehicle × Except Fault Unit → Prop} {said : Record} {after : Vehicle}

theorem Persists.last (persists : Persists pause unavailable attempt vehicle said after) :
    ∃ before tried, said = before ++ tried ∧ attempt tried (after, .ok ()) := by
  induction persists with
  | passed passes => exact ⟨[], _, rfl, passes⟩
  | @failed said fault more after _ _ ih =>
    obtain ⟨before, tried, rfl, passes⟩ := ih
    exact ⟨said ++ ⟨.report (unavailable fault pause), ()⟩ :: ⟨.sleep pause, ()⟩ :: before, tried,
      by simp, passes⟩

theorem Persists.written (wanted : List Bytes → Prop)
    (persists : Persists pause unavailable attempt vehicle said after)
    (last : ∀ tried after, attempt tried (after, .ok ()) → wanted tried.written)
    (prepend : ∀ tried fault rest, attempt tried (vehicle, .error fault) → wanted rest →
      wanted (tried.written ++ rest)) : wanted said.written := by
  induction persists with
  | passed passes => exact last _ _ passes
  | failed fails _ ih =>
    have together := prepend _ _ _ fails ih
    simpa [Query.written] using together

/-- Attempts until one passes. What comes after an attempt that failed is at least the pause away
from it. -/
inductive Spaced (pause : Duration) (attempt : Record → Vehicle × Except Fault Unit → Prop)
    (vehicle : Vehicle) : Timeline → Vehicle → Prop
  | passed {timeline : Timeline} {after : Vehicle} (passes : attempt timeline.record (after, .ok ())) :
      Spaced pause attempt vehicle timeline after
  | failed {tried pausing later : Timeline} {fault : Fault} {after : Vehicle}
      (fails : attempt tried.record (vehicle, .error fault)) (mute : pausing.record.written = [])
      (apart : ∀ earlier ∈ tried, ∀ moment ∈ later, earlier.answered + pause.slept ≤ moment.asked)
      (again : Spaced pause attempt vehicle later after) :
      Spaced pause attempt vehicle (tried ++ (pausing ++ later)) after

theorem Persists.spaced (persists : Persists pause unavailable attempt vehicle said after)
    {timeline : Timeline} (orderly : timeline.Orderly) (same : timeline.record = said) :
    Spaced pause attempt vehicle timeline after := by
  induction persists generalizing timeline with
  | passed passes => exact .passed (same ▸ passes)
  | failed fails _ ih =>
    obtain ⟨tried, rest, rfl, rfl, behind⟩ := List.map_eq_append_iff.mp same
    obtain ⟨reported, rest, rfl, reports, behind⟩ := List.map_eq_cons_iff.mp behind
    obtain ⟨paused, later, rfl, sleeps, behind⟩ := List.map_eq_cons_iff.mp behind
    rw [List.append_cons] at orderly
    have apart : ∀ earlier ∈ tried, ∀ moment ∈ later, earlier.answered + pause.slept ≤ moment.asked :=
      fun earlier first moment last =>
        orderly.apart (congrArg Query.request sleeps) (List.mem_append_left _ first) last
    refine @Spaced.failed _ _ _ tried [reported, paused] later _ _ fails ?_ apart
      (ih (@Timeline.Orderly.right [paused] later orderly.right) behind)
    simp [Timeline.record, reports, sleeps, Query.written]

end

inductive Rounds : List Bytes → Prop
  | none : Rounds []
  | asked {request frames} (asks : Frame.AsksFor .rc request) (rest : Rounds frames) :
      Rounds (request :: frames)
  | commanded {request channels command frames} (asks : Frame.AsksFor .rc request)
      (carries : Frame.Carries channels command) (rest : Rounds frames) :
      Rounds (request :: command :: frames)

variable {said : Record}

theorem Commits.hands {values : Except Fault ChannelOverride} {result : Vehicle × Except Fault Unit}
    (commits : vehicle.Commits values said result) :
    said.Hands fun frame => ∃ channels, Frame.Carries channels frame := by
  have sending {channels : ChannelOverride} {outcome : Except Fault Unit}
      (commands : Commands channels said outcome) :
      said.Hands fun frame => ∃ channels, Frame.Carries channels frame := by
    obtain nothing | ⟨frame, carries, single⟩ := commands.hands
    · exact .inl nothing
    · exact .inr ⟨frame, ⟨_, carries⟩, single⟩
  cases commits with
  | refused => exact .inl rfl
  | unsent commands | sent commands => exact sending commands

theorem Resets.rounds {result : Vehicle × Except Fault Unit} {frames : List Bytes}
    (resets : vehicle.Resets said result) (rest : Rounds frames) : Rounds (said.written ++ frames) := by
  cases resets with
  | unread reads =>
    obtain nothing | ⟨request, asks, single⟩ := reads.hands
    · simpa [nothing] using rest
    · simpa [single] using Rounds.asked asks rest
  | read reads commits =>
    obtain ⟨request, asks, single⟩ := reads.written_of_ok
    rw [Record.written_append, single]
    obtain nothing | ⟨command, ⟨_, carries⟩, only⟩ := commits.hands
    · simpa [nothing] using Rounds.asked asks rest
    · simpa [only] using Rounds.commanded asks carries rest

theorem Registers.asks {result : Vehicle × Except Fault Unit} (registers : vehicle.Registers said result) :
    ∀ frame ∈ said.written, Frame.AsksFor .rxMap frame := by
  cases registers with
  | unread reads | read reads => exact fun frame => reads.hands.all

theorem Registers.mapped {after : Vehicle} (registers : vehicle.Registers said (after, .ok ())) :
    Frame.Answered Code.rxMap.number after.map.entries said.delivered ∧ after.map.entries ≠ [] ∧
      said.written ≠ [] := by
  generalize passed : (after, Except.ok ()) = result at registers
  cases registers with
  | unread => cases passed
  | read reads =>
    cases passed
    obtain ⟨map, payload, same, transacts, decoded⟩ := reads.rxMap
    obtain ⟨request, -, single⟩ := reads.written_of_ok
    cases same
    unfold ChannelMap.decode at decoded
    split at decoded
    · cases decoded
    next covers =>
      cases decoded
      exact ⟨(transacts.learns []).frame, by simpa using covers, by simp [single]⟩

/-- All channels are centred but throttle, which is at its least. -/
def Centred (vehicle : Vehicle) (count : Nat) : Prop :=
  ∃ throttle < count, vehicle.map.channel? Control.throttle.index = some throttle ∧
    vehicle.channels.values = (List.replicate count Channel.centre).set throttle Channel.least

theorem centred_of_safe {count : Nat} {channels : ChannelOverride}
    (placed : safe vehicle.map count = .ok channels) : ({ vehicle with channels } : Vehicle).Centred count := by
  obtain ⟨throttle, next, found, done, placed⟩ := place_cons_iff.mp placed
  cases placed
  obtain ⟨⟨-, inside⟩, rfl⟩ := ChannelOverride.set_eq_ok_iff.mp done
  rw [List.length_replicate] at inside
  exact ⟨throttle, inside, channel_eq_ok_iff.mp found, rfl⟩

/-- What a reset that passes leaves, with the answer that it goes by and the command that it sends. -/
theorem Resets.centred {after : Vehicle} (resets : vehicle.Resets said (after, .ok ())) :
    after.map = vehicle.map ∧ ∃ asking commanding payload count, said = asking ++ commanding ∧
      (∀ before : Record, (before ++ asking).Learns Code.rc.number payload) ∧
      payload.length = 2 * count ∧ after.Centred count ∧ Commands after.channels commanding (.ok ()) := by
  generalize passed : (after, Except.ok ()) = result at resets
  cases resets with
  | unread => cases passed
  | read reads commits =>
    obtain ⟨received, payload, same, transacts, decoded⟩ := reads.rc
    cases same
    generalize placed : Vehicle.safe vehicle.map _ = values at commits
    cases commits with
    | refused | unsent => cases passed
    | sent commands =>
      cases passed
      exact ⟨rfl, _, _, payload, _, rfl, transacts.learns, ReceiverChannels.length_of_decode decoded,
        centred_of_safe placed, commands⟩

theorem Commands.written_of_ok {channels : ChannelOverride} (commands : Commands channels said (.ok ())) :
    ∃ command, Frame.Carries channels command ∧ said.written = [command] := by
  obtain ⟨frame, member, carries⟩ := commands.commanded.written
  obtain nothing | only := commands.hands
  · rw [nothing] at member
    cases member
  · exact only

/-- A vehicle as it comes out of setting up, and the times of that. -/
structure SetUp (options : Options) (timeline : Timeline) (vehicle : Vehicle) : Prop where
  mapped : Frame.Answered Code.rxMap.number vehicle.map.entries timeline.record.delivered
  covers : vehicle.map.entries ≠ []
  /-- The last answer to a request for the channels decides how many there are, and what is written
  behind it is what the vehicle has. -/
  safe : ∃ asking commanding payload command count, timeline.record = asking ++ commanding ∧
    asking.Learns Code.rc.number payload ∧ payload.length = 2 * count ∧ vehicle.Centred count ∧
    commanding.written = [command] ∧ Frame.Carries vehicle.channels command ∧
    commanding.Commanded vehicle.channels
  written : ∃ requests frames, timeline.record.written = requests ++ frames ∧ requests ≠ [] ∧
    (∀ request ∈ requests, Frame.AsksFor .rxMap request) ∧ Rounds frames
  paused : ∃ (registering resetting : Timeline) (registered reset : Moment) (mapped : Vehicle),
    timeline = registering ++ registered :: (resetting ++ [reset]) ∧
    Spaced options.retryInterval (Registers ⟨.initial, .initial, [], options⟩)
      ⟨.initial, .initial, [], options⟩ registering mapped ∧
    Spaced options.retryInterval mapped.Resets mapped resetting vehicle

theorem Starts.spaced {options : Options} {timeline : Timeline} (starts : Starts options said vehicle)
    (orderly : timeline.Orderly) (recorded : timeline.record = said) :
    ∃ (registering resetting : Timeline) (registered reset : Moment) (mapped : Vehicle),
      timeline = registering ++ registered :: (resetting ++ [reset]) ∧
      Spaced options.retryInterval (Registers ⟨.initial, .initial, [], options⟩)
        ⟨.initial, .initial, [], options⟩ registering mapped ∧
      Spaced options.retryInterval mapped.Resets mapped resetting vehicle := by
  cases starts with
  | @started _ _ mapped _ registers resets =>
    obtain ⟨registering, rest, rfl, registered, behind⟩ := List.map_eq_append_iff.mp recorded
    obtain ⟨reported, rest, rfl, -, behind⟩ := List.map_eq_cons_iff.mp behind
    obtain ⟨resetting, rest, rfl, reset, behind⟩ := List.map_eq_append_iff.mp behind
    obtain ⟨last, nothing, rfl, -, behind⟩ := List.map_eq_cons_iff.mp behind
    obtain rfl := List.map_eq_nil_iff.mp behind
    refine ⟨registering, resetting, reported, last, mapped, rfl, registers.spaced orderly.left registered,
      resets.spaced ?_ reset⟩
    exact (@Timeline.Orderly.right [reported] _ orderly.right).left

theorem Starts.setUp {options : Options} {timeline : Timeline}
    (starts : Starts options timeline.record vehicle) (orderly : timeline.Orderly) :
    vehicle.SetUp options timeline := by
  generalize recorded : timeline.record = said at starts
  cases starts with
  | @started registering resetting mapped _ registers resets =>
    obtain ⟨before, tried, rfl, passes⟩ := registers.last
    obtain ⟨answered, covers, asked⟩ := passes.mapped
    obtain ⟨earlier, last, rfl, reset⟩ := resets.last
    obtain ⟨same, asking, commanding, payload, count, rfl, learns, length, centred, commands⟩ := reset.centred
    obtain ⟨command, carries, single⟩ := commands.written_of_ok
    constructor
    · rw [same, recorded]
      apply answered.within
      simp only [Record.delivered_append, List.append_assoc]
      exact List.infix_append' ..
    · rwa [same]
    · refine ⟨before ++ tried ++ ⟨.report (.mapRegistered mapped.map), ()⟩ :: earlier ++ asking,
        commanding ++ [⟨.report (.channelsReset vehicle.channels), ()⟩], payload, command, count, ?_,
        learns _, length, centred, ?_, carries, commands.commanded.append _⟩
      · simp [recorded]
      · simp [single, Query.written]
    · refine ⟨(before ++ tried).written, (earlier ++ (asking ++ commanding)).written, ?_, ?_, ?_, ?_⟩
      · simp [recorded, Query.written]
      · simp [asked]
      · exact registers.written (fun frames => ∀ frame ∈ frames, Frame.AsksFor .rxMap frame)
          (fun _ _ registers => registers.asks) fun _ _ _ registers rest frame member =>
            (List.mem_append.mp member).elim (registers.asks frame) (rest frame)
      · apply resets.written Rounds
        · intro tried after resets
          simpa using resets.rounds .none
        · exact fun _ _ _ resets rest => resets.rounds rest
    · exact (Starts.started registers resets).spaced orderly recorded

end Vehicle

def Operation.command? : Operation → Option Vehicle.Command
  | .arm => some .arm
  | .disarm => some .disarm
  | .setSticks throttle roll pitch yaw => some (.setSticks throttle roll pitch yaw)
  | .reset => some .reset
  | _ => none

namespace Session

theorem perform_keeps {kept : Vehicle → Operation.Result → Prop} {session : Session} {operation : Operation}
    {record : Record} (polled : ∀ pollers result, kept { session.vehicle with pollers } result)
    (obeyed : ∀ command, operation.command? = some command →
      Abides (fun _ _ => True) (fun result _ => kept result.1 (.passed result.2))
        (session.vehicle.obey command) record) :
    Abides (fun _ _ => True) (fun result _ => kept result.1.vehicle result.2) (session.perform operation)
      record := by
  have keeps {α : Type} (program : Program α) (next : α → Session × Operation.Result)
      (same : ∀ result, (next result).1.vehicle = session.vehicle) :
      Abides (fun _ _ => True) (fun result _ => kept result.1.vehicle result.2)
        (program.bind fun result => .pure (next result)) record := by
    apply (Abides.anyhow program record).bind
    intro result after _
    exact .pure (by rw [same]; exact polled session.vehicle.pollers _)
  cases operation with
  | arm | disarm | setSticks | reset => exact (obeyed _ rfl).bind fun _ _ held => .pure held
  | register =>
    apply (session.vehicle.register_pollers _ _ _ record).bind
    intro result after same
    obtain ⟨vehicle, outcome⟩ := result
    obtain ⟨pollers, rfl⟩ := same
    exact .pure (polled pollers _)
  | start =>
    apply (session.startPoller_vehicle _ _ _ _ record).weaken fun _ _ => id
    intro result after same
    rw [same]
    exact polled session.vehicle.pollers _
  | stopPollers =>
    apply (session.vehicle.stopPollers_pollers record).bind
    intro vehicle after same
    exact .pure (same ▸ polled [] _)
  | read | tryRead | transact | sleep | discardInput | switch | stop | resubscribe | drop | hold | shutDown =>
    exact keeps _ _ fun _ => rfl

theorem perform_map (session : Session) (operation : Operation) (record : Record) :
    Abides (fun _ _ => True) (fun result _ => result.1.vehicle.map = session.vehicle.map)
      (session.perform operation) record := by
  apply @perform_keeps fun vehicle _ => vehicle.map = session.vehicle.map
  · exact fun _ _ => rfl
  · intro command _
    apply (session.vehicle.follows_obey command record).abides
    exact fun result said obeyed => obeyed.map

theorem performAll_map (session : Session) (operations : List Operation) (record : Record) :
    Abides (fun _ _ => True) (fun later _ => later.vehicle.map = session.vehicle.map)
      (session.performAll operations) record := by
  induction operations generalizing session record with
  | nil => exact .pure rfl
  | cons operation operations ih =>
    apply (session.perform_map operation record).bind
    intro result after same
    rw [← same]
    exact ih result.1 after

end Session

/-- Whatever the port does, and however long it takes: a vehicle that is set up has a map that the flight
controller sent and the safe state for as many channels as it told last, which is what was sent to it
last. Requests for the map come first, then requests for the channels with at most one command behind
each. A pause follows each attempt that fails. No operation changes the map later. -/
theorem start_sets_up (options : Options) (vehicle : Vehicle) (timeline : Timeline)
    (runs : (Vehicle.start options).Runs Timeline.passes [] vehicle timeline) :
    vehicle.SetUp options timeline ∧
    ∀ operations session record, ((Session.start vehicle).performAll operations).Runs Record.anything []
      session record → session.vehicle.map = vehicle.map := by
  constructor
  · obtain ⟨said, same, starts⟩ := (Vehicle.follows_start options []).of_runs (Timeline.runs_record runs)
    rw [List.nil_append] at same
    exact (same ▸ starts).setUp (Timeline.orderly_of_runs runs Timeline.orderly_nil)
  · exact fun operations session record runs => (Session.performAll_map _ operations []).of_runs runs

/-- A device that is silent at first, and then tells its map and its channels. -/
def hesitant : Device :=
  { Device.initial with
    replies := [
      (.code 64, [[], (⟨Frame.answer, 0, 64, [0, 1, 3, 2, 4]⟩ : Frame).wire .v1]),
      (.code 105, [(⟨Frame.answer, 0, 105, [0xDC, 5, 0xDC, 5, 0xDC, 5]⟩ : Frame).wire .v1])] }

/-- Pauses of thirty years and a millisecond. -/
def patient : Options := { Options.default with retryInterval := .ofMillis 946080000001 }

/-- No sleep is longer than thirty years, so the second attempt is made too early. -/
theorem pause_cut_short :
    ((Bench.initial hesitant .v1).run (Vehicle.start patient)).1.isSome ∧
    ((Bench.initial hesitant .v1).run (Vehicle.start patient)).2.written.reverse.take 2 =
      [(0, (Frame.ofRequest 64 []).wire .v1), (946080000000, (Frame.ofRequest 64 []).wire .v1)] ∧
    Duration.ofMillis 946080000000 < patient.retryInterval := by
  decide +kernel

/-- The vehicle behind an attentive device is one that was set up. -/
theorem quad_sets_up : ∃ timeline,
    (Vehicle.start .default).Runs Timeline.passes [] quad timeline ∧ quad.SetUp .default timeline ∧
    ∀ operations session record, ((Session.start quad).performAll operations).Runs Record.anything []
      session record → session.vehicle.map = quad.map := by
  obtain ⟨_, _, runs, rfl⟩ := quad_starts.exists_runs
  obtain ⟨record, runs⟩ := Line.runs_anything runs []
  obtain ⟨timeline, runs, -⟩ := @Timeline.exists_runs _ _ [] _ _ _ runs rfl
  exact ⟨timeline, runs, start_sets_up .default quad timeline runs⟩

end FlightLink
