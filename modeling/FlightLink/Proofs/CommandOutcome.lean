import FlightLink.Proofs.ChannelSafety
import FlightLink.Proofs.FiniteSupply
import FlightLink.Proofs.PortTraffic

/-! Commands are all or nothing. Whether one passes is decided when its frame is taken and flushed; what
is heard afterwards decides nothing. A command that does not pass leaves the vehicle as it was, and one
that cannot be placed on the channels does not come to the port at all. -/

namespace FlightLink

open Program (Abides Follows)

namespace Vehicle

variable {vehicle : Vehicle}

inductive Command
  | arm
  | disarm
  | setSticks (throttle roll pitch yaw : UInt16)
  | reset

/-- What a command sets. A reset goes by what the flight controller has. -/
def Command.updates : Command → List (Control × UInt16)
  | arm => [(.aux1, armed)]
  | disarm => [(.aux1, disarmed)]
  | setSticks throttle roll pitch yaw =>
    [(.roll, roll), (.pitch, pitch), (.yaw, yaw), (.throttle, throttle)]
  | reset => []

def obey (vehicle : Vehicle) : Command → Program (Vehicle × Bool)
  | .arm => vehicle.arm
  | .disarm => vehicle.disarm
  | .setSticks throttle roll pitch yaw => vehicle.setSticks throttle roll pitch yaw
  | .reset => vehicle.reset

/-- The value may be sent, and the map puts the control on a channel that there is. -/
def Places (vehicle : Vehicle) (update : Control × UInt16) : Prop :=
  Channel.InRange update.2 ∧ ∃ index, vehicle.map.channel? update.1.index = some index ∧
    index < vehicle.channels.values.length

instance (vehicle : Vehicle) (update : Control × UInt16) : Decidable (vehicle.Places update) :=
  decidable_of_iff (Channel.InRange update.2 ∧ (vehicle.map.channel? update.1.index).any
      (· < vehicle.channels.values.length) = true) (by simp [Places, Option.any_eq_true])

theorem exists_place {map : ChannelMap} {channels : ChannelOverride} {updates : List (Control × UInt16)}
    (places : ∀ update ∈ updates, Channel.InRange update.2 ∧ ∃ index,
      map.channel? update.1.index = some index ∧ index < channels.values.length) :
    ∃ other, place map channels updates = .ok other := by
  induction updates generalizing channels with
  | nil => exact ⟨channels, rfl⟩
  | cons first rest ih =>
    obtain ⟨control, value⟩ := first
    obtain ⟨⟨inRange, index, on, inside⟩, behind⟩ := List.forall_mem_cons.mp places
    have found : channel map control value = .ok index := channel_eq_ok_iff.mpr on
    have done : channels.set index value = .ok ⟨channels.values.set index value⟩ :=
      ChannelOverride.set_eq_ok_iff.mpr ⟨⟨inRange, inside⟩, rfl⟩
    obtain ⟨other, placed⟩ := @ih ⟨channels.values.set index value⟩ (by simpa using behind)
    exact ⟨other, place_cons_iff.mpr ⟨index, _, found, done, placed⟩⟩

theorem places_of_place {map : ChannelMap} {channels other : ChannelOverride}
    {updates : List (Control × UInt16)} (placed : place map channels updates = .ok other) :
    ∀ update ∈ updates, Channel.InRange update.2 ∧ ∃ index,
      map.channel? update.1.index = some index ∧ index < channels.values.length := by
  induction updates generalizing channels with
  | nil => exact nofun
  | cons first rest ih =>
    obtain ⟨control, value⟩ := first
    obtain ⟨index, next, found, done, placed⟩ := place_cons_iff.mp placed
    obtain ⟨⟨inRange, inside⟩, rfl⟩ := ChannelOverride.set_eq_ok_iff.mp done
    intro update member
    obtain rfl | member := List.mem_cons.mp member
    · exact ⟨inRange, index, channel_eq_ok_iff.mp found, inside⟩
    · simpa using ih placed update member

def Command.label : Command → Log.Command
  | arm => .arm
  | disarm => .disarm
  | setSticks .. => .setSticks
  | reset => .resetChannels

def attempt (vehicle : Vehicle) : Command → Program (Vehicle × Except Fault Unit)
  | .reset => vehicle.tryReset
  | command => vehicle.steer command.updates

theorem attempt_eq (vehicle : Vehicle) {command : Command} (other : command ≠ .reset) :
    vehicle.attempt command = vehicle.steer command.updates := by
  cases command with
  | reset => exact absurd rfl other
  | _ => rfl

theorem obey_eq (vehicle : Vehicle) (command : Command) :
    vehicle.obey command = (vehicle.attempt command).bind (verdict command.label) := by
  cases command <;> rfl

theorem halts_obey (vehicle : Vehicle) (command : Command) : (vehicle.obey command).Halts := by
  rw [obey_eq]
  apply Program.Halts.bind
  · cases command with
    | reset => exact vehicle.halts_tryReset
    | _ => exact vehicle.halts_commit _
  · exact halts_verdict _

structure Attempted (vehicle : Vehicle) (said : Record) (result : Vehicle × Except Fault Unit) : Prop where
  commanded (channels : ChannelOverride) :
    said.Commanded channels ↔ result = ({ vehicle with channels }, .ok ())
  passed : result.2 = .ok () → ∃ channels, result.1 = { vehicle with channels }
  failed : ∀ fault, result.2 = .error fault → result.1 = vehicle

theorem Commits.attempted {values : Except Fault ChannelOverride} {said : Record}
    {result : Vehicle × Except Fault Unit} (commits : vehicle.Commits values said result) :
    vehicle.Attempted said result where
  commanded _ := commits.commanded_iff
  passed ok := by
    cases commits with
    | refused | unsent => cases ok
    | sent => exact ⟨_, rfl⟩
  failed fault failed := by
    cases commits with
    | refused | unsent => rfl
    | sent => cases failed

theorem Resets.attempted {said : Record} {result : Vehicle × Except Fault Unit}
    (resets : vehicle.Resets said result) : vehicle.Attempted said result := by
  have asks {read : Message} {outcome : Except Fault Unit} {channels : ChannelOverride} {said : Record}
      (reads : Reads Message.Kind.rc.initial said (read, outcome)) :
      ∀ frame ∈ said.written, ¬ Frame.Carries channels frame :=
    fun frame member => (reads.hands.all member).not_carries nofun
  cases resets with
  | unread reads =>
    refine ⟨fun channels => ⟨fun commanded => ?_, fun same => nomatch congrArg Prod.snd same⟩, nofun,
      fun _ _ => rfl⟩
    obtain ⟨frame, member, carries⟩ := commanded.written
    exact absurd carries (asks reads frame member)
  | @read said _ more _ reads commits =>
    obtain ⟨commanded, passed, failed⟩ := commits.attempted
    refine ⟨fun channels => Iff.trans ?_ (commanded channels), passed, failed⟩
    exact ⟨fun both => both.behind (asks reads), fun later => later.prepend said⟩

theorem follows_attempt (vehicle : Vehicle) (command : Command) (record : Record) :
    (vehicle.attempt command).Follows (fun _ _ => True) vehicle.Attempted record := by
  cases command with
  | reset =>
    apply (follows_tryReset (fun _ _ _ => trivial) fun _ _ _ _ _ _ _ _ => trivial).abides
    exact fun result said resets => ⟨said, rfl, resets.attempted⟩
  | _ =>
    apply (follows_commit fun _ _ _ _ _ => trivial).abides
    exact fun result said commits => ⟨said, rfl, commits.attempted⟩

/-- What obeying a command comes to. -/
structure Obeyed (vehicle after : Vehicle) (passed : Bool) (record : Record) : Prop where
  passed_iff : passed = true ↔ ∃ channels, record.Commanded channels
  kept (channels : ChannelOverride) : record.Commanded channels → after = { vehicle with channels }
  undone : passed = false → after = vehicle

theorem Attempted.obeyed {said : Record} {result : Vehicle × Except Fault Unit}
    (attempted : vehicle.Attempted said result) (events : List Log.Event) :
    vehicle.Obeyed result.1 result.2.isOk (said ++ Record.told events) := by
  obtain ⟨after, outcome⟩ := result
  have same (channels : ChannelOverride) : (said ++ Record.told events).Commanded channels ↔
      (after, outcome) = ({ vehicle with channels }, .ok ()) :=
    Iff.trans ⟨Record.Commanded.ahead, fun commanded => commanded.append _⟩ (attempted.commanded channels)
  refine ⟨⟨fun passed => ?_, ?_⟩, fun channels commanded => ?_, fun failed => ?_⟩
  · cases outcome with
    | error fault => cases passed
    | ok =>
      obtain ⟨channels, kept⟩ := attempted.passed rfl
      exact ⟨channels, (same channels).mpr (Prod.ext kept rfl)⟩
  · rintro ⟨channels, commanded⟩
    rw [((Prod.mk.injEq ..).mp ((same channels).mp commanded)).2]
    rfl
  · exact congrArg Prod.fst ((same channels).mp commanded)
  · cases outcome with
    | error fault => exact attempted.failed fault rfl
    | ok => cases failed

theorem Obeyed.map {after : Vehicle} {passed : Bool} {record : Record}
    (obeyed : vehicle.Obeyed after passed record) : after.map = vehicle.map := by
  cases passed with
  | false => rw [obeyed.undone rfl]
  | true =>
    obtain ⟨channels, commanded⟩ := obeyed.passed_iff.mp rfl
    rw [obeyed.kept channels commanded]

theorem follows_obey (vehicle : Vehicle) (command : Command) (record : Record) :
    (vehicle.obey command).Follows (fun _ _ => True)
      (fun said result => vehicle.Obeyed result.1 result.2 said) record := by
  rw [obey_eq]
  apply (vehicle.follows_attempt command record).bind
  intro result said attempted
  apply (follows_verdict command.label result _).abides
  intro answer told same
  obtain ⟨rfl, rfl⟩ := same
  exact ⟨_, List.append_assoc .., attempted.obeyed _⟩

/-- What cannot be placed fails before anything is asked of the port. -/
theorem ends_obey_unplaced {command : Command}
    (misplaced : ∃ update ∈ command.updates, ¬ vehicle.Places update) :
    (vehicle.obey command).Ends Record.anything
      (fun result record => result = (vehicle, false) ∧ record.written = []) [] := by
  obtain ⟨update, member, misplaced⟩ := misplaced
  have attempt : ∃ fault, vehicle.attempt command = .pure (vehicle, .error fault) := by
    have other : command ≠ .reset := by
      rintro rfl
      cases member
    cases placed : place vehicle.map vehicle.channels command.updates with
    | ok channels => exact absurd (places_of_place placed update member) misplaced
    | error fault =>
      rw [attempt_eq vehicle other, steer, placed]
      exact ⟨fault, rfl⟩
  obtain ⟨fault, failed⟩ := attempt
  rw [obey_eq, failed]
  refine @Program.Ends.ask _ _ _ _ (.report (.commandFailed command.label fault)) _ _
    ⟨(), _, trivial, rfl⟩ ?_
  intro done after told
  obtain ⟨-, rfl⟩ := told
  exact .pure ⟨rfl, by simp [Query.written]⟩

/-- What can be placed passes on an open port that takes it. -/
theorem ends_obey_placed {command : Command} {respond : Responder} {link : Link} {line : Line}
    (set : command ≠ .reset) (places : ∀ update ∈ command.updates, vehicle.Places update)
    (able : ∀ channels, channels.values.length = vehicle.channels.values.length →
      Commandable respond link channels) (idle : line.Idle link) :
    (vehicle.obey command).Ends (Line.serves respond)
      (fun result _ => ∃ channels, place vehicle.map vehicle.channels command.updates = .ok channels ∧
        result = ({ vehicle with channels }, true)) line := by
  obtain ⟨channels, placed⟩ := exists_place places
  rw [obey_eq, attempt_eq vehicle set, steer, placed]
  apply (ends_commit (able channels (length_of_place placed)) idle).bind
  intro result after ended
  obtain ⟨rfl, -⟩ := ended
  exact .pure ⟨channels, rfl, rfl⟩

theorem attentive_passes {command : Command} {channels : ChannelOverride} (set : command ≠ .reset)
    (few : vehicle.channels.values.length < 128)
    (placed : place vehicle.map vehicle.channels command.updates = .ok channels) : ∃ record,
      (vehicle.obey command).Runs Record.anything [] ({ vehicle with channels }, true) record := by
  have passes := @ends_obey_placed _ _ attentive (.new .v1) ⟨.new .v1, [], []⟩ set (places_of_place placed)
    (fun other same => attentive_commandable (same ▸ few)) ⟨rfl, rfl⟩
  obtain ⟨_, _, runs, other, again, rfl⟩ := passes.exists_runs
  obtain rfl : channels = other := Except.ok.inj (placed.symm.trans again)
  exact Line.runs_anything runs []

end Vehicle

open Vehicle in
/-- Whatever the port does, a command passes if and only if the port took the whole frame that commands
channel values and flushed it, and those are the vehicle's channels then. A command that does not pass
leaves the vehicle as it was, and one that sets a control beyond the bounds of its value, of the map or of
the channels never passes and hands nothing to the port. No command waits for ever on a port that gives
only so many bytes. -/
theorem commands_decided_by_sending (vehicle : Vehicle) (command : Command) :
    (∀ after passed record,
      (vehicle.obey command).Runs Record.anything [] (after, passed) record →
        vehicle.Obeyed after passed record) ∧
    ((∃ update ∈ command.updates, ¬ vehicle.Places update) →
      (vehicle.obey command).Ends Record.anything
        (fun result record => result = (vehicle, false) ∧ record.written = []) []) ∧
    ∀ most, (vehicle.obey command).Ends (Record.scarce most) (fun _ _ => True) [] := by
  refine ⟨fun after passed record runs => ?_, Vehicle.ends_obey_unplaced, fun most => ?_⟩
  · obtain ⟨said, rfl, obeyed⟩ := (vehicle.follows_obey command []).of_runs runs
    exact obeyed
  · exact ((vehicle.halts_obey command).ends most [] (Nat.zero_le _)).weaken fun _ _ _ => trivial

open Vehicle in
/-- Arming passes and sets the fifth channel, and setting the sticks passes on a map that swaps yaw and
throttle; a throttle below the bounds does not come to the port. -/
theorem quad_obeys :
    (∃ record, (quad.obey .arm).Runs Record.anything []
      ({ quad with channels := ⟨[1500, 1500, 1000, 1500, 1000]⟩ }, true) record ∧
      record.Commanded ⟨[1500, 1500, 1000, 1500, 1000]⟩) ∧
    (∃ record, (quad.obey (.setSticks 1100 1600 1400 1550)).Runs Record.anything []
      ({ quad with channels := ⟨[1600, 1400, 1100, 1550, 1500]⟩ }, true) record ∧
      record.Commanded ⟨[1600, 1400, 1100, 1550, 1500]⟩) ∧
    (quad.obey (.setSticks 999 1500 1500 1500)).Ends Record.anything
      (fun result record => result = (quad, false) ∧ record.written = []) [] := by
  have sent {command : Command} {channels : ChannelOverride} (set : command ≠ .reset)
      (placed : place quad.map quad.channels command.updates = .ok channels) : ∃ record,
      (quad.obey command).Runs Record.anything [] ({ quad with channels }, true) record ∧
        record.Commanded channels := by
    obtain ⟨record, runs⟩ := attentive_passes set (by decide) placed
    obtain ⟨passed_iff, kept, -⟩ := (commands_decided_by_sending quad command).1 _ _ record runs
    obtain ⟨other, commanded⟩ := passed_iff.mp rfl
    obtain rfl : channels = other := congrArg Vehicle.channels (kept other commanded)
    exact ⟨record, runs, commanded⟩
  refine ⟨sent nofun rfl, sent nofun rfl, ?_⟩
  apply (commands_decided_by_sending quad (.setSticks 999 1500 1500 1500)).2.1
  exact ⟨(.throttle, 999), by simp [Command.updates], by decide⟩

end FlightLink
