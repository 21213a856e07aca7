import FlightLink.Proofs.AnsweredCommands
import FlightLink.Proofs.CommandRecords
import FlightLink.Proofs.PortTraffic
import FlightLink.Session

/-! Channel values stay in range for the whole life of a session, whatever the port does. They are in
range when the vehicle is set up, and a command replaces them by values that were set one by one,
each after a look at its bounds. -/

namespace FlightLink

open Program (Abides)

namespace ChannelOverride

/-- Every value is one that may be sent. -/
def Sound (channels : ChannelOverride) : Prop := ∀ value ∈ channels.values, Channel.InRange value

theorem set_eq_ok_iff {override other : ChannelOverride} {index : Nat} {value : UInt16} :
    override.set index value = .ok other ↔
      (Channel.InRange value ∧ index < override.values.length) ∧
        other = ⟨override.values.set index value⟩ := by
  unfold set
  split
  next fine => simp [fine, eq_comm]
  next wrong => simp [wrong]

theorem sound_set {override other : ChannelOverride} {index : Nat} {value : UInt16}
    (sound : override.Sound) (done : override.set index value = .ok other) : other.Sound := by
  obtain ⟨⟨inRange, -⟩, rfl⟩ := set_eq_ok_iff.mp done
  intro other member
  obtain old | rfl := List.mem_or_eq_of_mem_set member
  · exact sound other old
  · exact inRange

end ChannelOverride

namespace ReceiverChannels

theorem length_pairs (payload : Bytes) : (pairs payload).length = payload.length / 2 := by
  induction payload using pairs.induct with
  | case1 low high rest ih =>
    simp only [pairs, List.length_cons, ih]
    omega
  | case2 payload short =>
    match payload with
    | [] | [_] => simp [pairs]
    | low :: high :: rest => exact absurd rfl (short low high rest)

theorem length_of_decode {payload : Bytes} {received : ReceiverChannels}
    (decoded : decode payload = .ok received) : payload.length = 2 * received.values.length := by
  unfold decode at decoded
  split at decoded
  · cases decoded
  next paired =>
    cases decoded
    simp only [length_pairs]
    omega

end ReceiverChannels

namespace Vehicle

variable {map : ChannelMap} {channels other : ChannelOverride}

theorem channel_eq_ok_iff {control : Control} {value : UInt16} {index : Nat} :
    channel map control value = .ok index ↔ map.channel? control.index = some index := by
  unfold channel
  split
  next same => simp [same]
  next none => simp [none]

theorem place_cons_iff {control : Control} {value : UInt16} {rest : List (Control × UInt16)} :
    place map channels ((control, value) :: rest) = .ok other ↔
      ∃ index next, channel map control value = .ok index ∧ channels.set index value = .ok next ∧
        place map next rest = .ok other := by
  rw [place, bind_eq_ok_iff]
  simp only [bind_eq_ok_iff, exists_and_left]

theorem length_of_place {updates : List (Control × UInt16)}
    (placed : place map channels updates = .ok other) :
    other.values.length = channels.values.length := by
  induction updates generalizing channels with
  | nil =>
    cases placed
    rfl
  | cons update rest ih =>
    obtain ⟨control, value⟩ := update
    obtain ⟨index, next, -, done, placed⟩ := place_cons_iff.mp placed
    obtain ⟨-, rfl⟩ := ChannelOverride.set_eq_ok_iff.mp done
    simpa using ih placed

theorem place_sound {updates : List (Control × UInt16)} (sound : channels.Sound)
    (placed : place map channels updates = .ok other) :
    other.Sound ∧ other.values.length = channels.values.length := by
  refine ⟨?_, length_of_place placed⟩
  induction updates generalizing channels with
  | nil =>
    cases placed
    exact sound
  | cons update rest ih =>
    obtain ⟨control, value⟩ := update
    obtain ⟨index, next, -, done, placed⟩ := place_cons_iff.mp placed
    exact ih (ChannelOverride.sound_set sound done) placed

theorem safe_sound {count : Nat} (placed : safe map count = .ok other) :
    other.Sound ∧ other.values.length = count := by
  have centred : (⟨List.replicate count Channel.centre⟩ : ChannelOverride).Sound := by
    intro value member
    obtain ⟨-, rfl⟩ := List.mem_replicate.mp member
    decide
  simpa using place_sound centred placed

/-- A frame that commands so many channels, with values in range. -/
inductive Commanding (count : Nat) : Bytes → Prop
  | channels {version : Version} {channels : ChannelOverride} {frame : Bytes} (sound : channels.Sound)
      (length : channels.values.length = count)
      (packed : Frame.pack version Code.setRawRc.number channels.encode = .ok frame) :
      Commanding count frame

/-- What a reset writes: a request for the channels, and behind the answer to it a command for as
many channels as the answer has. -/
inductive Resetting : Record → Bytes → Prop
  | ask {record version frame} (packed : Frame.pack version Code.rc.number [] = .ok frame) :
      Resetting record frame
  | command {record frame payload count} (learns : Record.Learns Code.rc.number payload record)
      (length : payload.length = 2 * count) (commands : Commanding count frame) :
      Resetting record frame

inductive Starting : Record → Bytes → Prop
  | ask {record version frame} (packed : Frame.pack version Code.rxMap.number [] = .ok frame) :
      Starting record frame
  | reset {record frame} (resets : Resetting record frame) : Starting record frame

variable {vehicle : Vehicle} {record : Record}

theorem Commits.sound {values : Except Fault ChannelOverride} {result : Vehicle × Except Fault Unit}
    (commits : vehicle.Commits values record result) (sound : vehicle.channels.Sound)
    (all : ∀ channels, values = .ok channels → channels.Sound) : result.1.channels.Sound := by
  cases commits with
  | refused | unsent => exact sound
  | sent => exact all _ rfl

theorem steer_sound (updates : List (Control × UInt16)) (sound : vehicle.channels.Sound) :
    Abides (fun _ => Commanding vehicle.channels.values.length)
      (fun result _ => result.1.channels.Sound) (vehicle.steer updates) record := by
  apply (follows_commit fun values link frame placed packed => ?_).abides
  · intro result said commits
    exact commits.sound sound fun channels placed => (place_sound sound placed).1
  · obtain ⟨inRange, length⟩ := place_sound sound placed
    exact .channels inRange length packed

theorem tryReset_sound (sound : vehicle.channels.Sound) :
    Abides Resetting (fun result _ => result.1.channels.Sound) vehicle.tryReset record := by
  apply (follows_tryReset (fun link frame packed => .ask packed) ?_).abides
  · intro result said resets
    cases resets with
    | unread => exact sound
    | read _ commits => exact commits.sound sound fun channels placed => (safe_sound placed).1
  · intro said received values link frame reads placed packed
    obtain ⟨_, payload, same, transacts, decoded⟩ := reads.rc
    cases same
    obtain ⟨inRange, length⟩ := safe_sound placed
    have learns : Record.Learns Code.rc.number payload
        (record ++ said ++ [⟨.acquire, link⟩, ⟨.isOpen, true⟩]) :=
      (transacts.learns record).append rfl rfl
    exact .command learns (ReceiverChannels.length_of_decode decoded) (.channels inRange length packed)

theorem verdict_sound {allowed : Record → Bytes → Prop}
    {attempt : Program (Vehicle × Except Fault Unit)} (command : Log.Command)
    (abides : Abides allowed (fun result _ => result.1.channels.Sound) attempt record) :
    Abides allowed (fun result _ => result.1.channels.Sound) (attempt.bind (verdict command)) record := by
  apply abides.bind
  intro result after sound
  apply (follows_verdict command result after).abides
  intro answer said told
  obtain ⟨rfl, -⟩ := told
  exact sound

theorem register_pollers (vehicle : Vehicle) (kind : Message.Kind) (hertz : Float32)
    (subscriber : Subscriber) (record : Record) :
    Abides (fun _ _ => True) (fun result _ => ∃ pollers, result.1 = { vehicle with pollers })
      (vehicle.register kind hertz subscriber) record := by
  apply (Abides.anyhow (Poller.start kind hertz subscriber) record).bind
  intro started after _
  cases started with
  | error fault => exact .pure ⟨vehicle.pollers, rfl⟩
  | ok poller => exact .ask nofun fun _ _ => .pure ⟨_, rfl⟩

theorem stopPollers_pollers (vehicle : Vehicle) (record : Record) :
    Abides (fun _ _ => True) (fun stopped _ => stopped = { vehicle with pollers := [] })
      vehicle.stopPollers record :=
  (Abides.anyhow (stopAll vehicle.pollers) record).bind fun _ _ _ => .pure rfl

theorem start_sound (options : Options) (record : Record) :
    Abides Starting (fun vehicle _ => vehicle.channels.Sound) (start options) record := by
  have unset : (⟨.initial, .initial, [], options⟩ : Vehicle).channels.Sound := nofun
  let sound : Vehicle → Record → Prop := fun vehicle _ => vehicle.channels.Sound
  apply (abides_persist sound sound unset fun vehicle before held => ?_).bind
  · intro vehicle after held
    refine .ask nofun fun _ _ => ?_
    apply (abides_persist sound sound held fun vehicle before held => ?_).bind
    · exact fun vehicle after held => .ask nofun fun _ _ => .pure held
    · apply (tryReset_sound held).weaken fun _ _ => .reset
      intro result after held
      obtain ⟨vehicle, outcome⟩ := result
      cases outcome <;> exact held
  · apply (follows_tryRegisterMap fun link frame packed => .ask packed).abides
    intro result said registers
    cases registers <;> exact held

theorem connect_sound (path : String) (options : Options) :
    Abides Starting (fun result _ => ∀ vehicle, result = .ok vehicle → vehicle.channels.Sound)
      (connect path options) [] := by
  refine .ask nofun fun _ _ => .ask nofun fun opened _ => ?_
  cases opened with
  | error reason => exact .pure nofun
  | ok =>
    refine .ask nofun fun _ _ => ?_
    apply (start_sound options _).bind
    intro vehicle after sound
    refine .pure fun other same => ?_
    cases same
    exact sound

end Vehicle

/-- What an operation may write, in a session with these channels. Commands of controls keep the
number of channels. Operations that command nothing are not constrained. -/
def Operation.Permits (channels : ChannelOverride) : Operation → Record → Bytes → Prop
  | .arm | .disarm | .setSticks .. => fun _ => Vehicle.Commanding channels.values.length
  | .reset => Vehicle.Resetting
  | _ => fun _ _ => True

namespace Session

variable {session : Session} {operation : Operation}

theorem startPoller_vehicle (session : Session) (name : String) (kind : Message.Kind)
    (hertz : Float32) (subscriber : Subscriber) (record : Record) :
    Abides (fun _ _ => True) (fun result _ => result.1.vehicle = session.vehicle)
      (session.startPoller name kind hertz subscriber) record := by
  apply (Abides.anyhow (Poller.start kind hertz subscriber) record).bind
  intro started after _
  cases started with
  | error fault => exact .pure rfl
  | ok poller => exact (Abides.anyhow _ _).bind fun _ _ _ => .pure rfl

theorem perform_sound (sound : session.vehicle.channels.Sound) (operation : Operation) :
    Abides (operation.Permits session.vehicle.channels)
      (fun result _ => result.1.vehicle.channels.Sound) (session.perform operation) [] := by
  have keeps {α : Type} (program : Program α) (next : α → Session × Operation.Result)
      (same : ∀ result, (next result).1.vehicle = session.vehicle) :
      Abides (fun _ _ => True) (fun result _ => result.1.vehicle.channels.Sound)
        (program.bind fun result => .pure (next result)) [] := by
    apply (Abides.anyhow program []).bind
    intro result after _
    exact .pure (by rwa [same])
  cases operation with
  | arm | disarm | setSticks =>
    exact (Vehicle.verdict_sound _ (Vehicle.steer_sound _ sound)).bind fun _ _ sound => .pure sound
  | reset =>
    exact (Vehicle.verdict_sound _ (Vehicle.tryReset_sound sound)).bind fun _ _ sound => .pure sound
  | register =>
    apply (session.vehicle.register_pollers _ _ _ []).bind
    intro result after same
    obtain ⟨vehicle, outcome⟩ := result
    obtain ⟨pollers, rfl⟩ := same
    exact .pure sound
  | start =>
    apply (session.startPoller_vehicle _ _ _ _ []).weaken fun _ _ => id
    intro result after same
    exact same ▸ sound
  | stopPollers =>
    apply (session.vehicle.stopPollers_pollers []).bind
    intro vehicle after same
    exact .pure (same ▸ sound)
  | read | tryRead | transact | sleep | discardInput | switch | stop | resubscribe | drop | hold | shutDown =>
    exact keeps _ _ fun _ => rfl

/-- The sessions that there may be: with a vehicle that was set up, and after any operations, each
of them under any surroundings. -/
inductive Life (options : Options) : Session → Prop
  | started {vehicle record}
      (runs : (Vehicle.start options).Runs Record.anything [] vehicle record) :
      Life options (.start vehicle)
  | connected {path vehicle record}
      (runs : (Vehicle.connect path options).Runs Record.anything [] (.ok vehicle) record) :
      Life options (.start vehicle)
  | performed {session next operation result record} (life : Life options session)
      (runs : (session.perform operation).Runs Record.anything [] (next, result) record) :
      Life options next

theorem Life.sound {options : Options} {session : Session} (life : Life options session) :
    session.vehicle.channels.Sound := by
  induction life with
  | started runs => exact (Vehicle.start_sound options []).of_runs runs
  | connected runs => exact (Vehicle.connect_sound _ options).of_runs runs _ rfl
  | performed _ runs sound => exact (perform_sound sound _).of_runs runs

end Session

/-- Whatever the port does: setting up, commands and resets write no channel value out of range. A
command of controls has as many values as the vehicle has channels, and a reset, in setting up as
later, as many as the answer has that it has just read. And the vehicle's channels are always in
range. -/
theorem channels_in_range (options : Options) :
    (Vehicle.start options).Writes Vehicle.Starting ∧
    (∀ path, (Vehicle.connect path options).Writes Vehicle.Starting) ∧
    ∀ session, Session.Life options session → session.vehicle.channels.Sound ∧
      ∀ operation, (session.perform operation).Writes (operation.Permits session.vehicle.channels) := by
  refine ⟨(Vehicle.start_sound options []).writes,
    fun path => (Vehicle.connect_sound path options).writes, fun session life => ?_⟩
  exact ⟨life.sound, fun operation => (Session.perform_sound life.sound operation).writes⟩

/-- A device with five channels and throttle on the third, which acknowledges commands. -/
def attentive : Responder := fun request reply => reply = Frame.wire .v1 (
  if request = (Frame.ofRequest 64 []).wire .v1 then ⟨Frame.answer, 0, 64, [0, 1, 3, 2, 4]⟩
  else if request = (Frame.ofRequest 105 []).wire .v1 then
    ⟨Frame.answer, 0, 105, [0xDC, 5, 0xDC, 5, 0xDC, 5, 0xDC, 5, 0xDC, 5]⟩
  else ⟨Frame.answer, 0, 200, []⟩)

def quad : Vehicle := ⟨⟨[0, 1, 3, 2, 4]⟩, ⟨[1500, 1500, 1000, 1500, 1500]⟩, [], .default⟩

theorem attentive_tells : attentive.Tells .v1 (.rc .initial) (.rc ⟨List.replicate 5 1500⟩) :=
  ⟨⟨_, rfl⟩, fun reply same => ⟨_, by decide, rfl, ⟨by decide, rfl⟩, same⟩⟩

theorem attentive_commandable {channels : ChannelOverride} (few : channels.values.length < 128) :
    Vehicle.Commandable attentive (.new .v1) channels := by
  have takes : (Link.new .v1).Takes Code.setRawRc.number channels.encode := by
    refine Link.coherent_new.takes ?_ fun _ => by decide
    rw [ChannelOverride.length_encode]
    change _ < 255
    omega
  have other {code : Code} (differs : code ≠ .setRawRc) :
      (Frame.ofRequest Code.setRawRc.number channels.encode).wire .v1 ≠
        (Frame.ofRequest code.number []).wire .v1 := by
    intro same
    have asks : (Link.new .v1).Takes code.number [] := Link.coherent_new.takes_ask code
    exact Frame.AsksFor.not_carries ⟨.v1, asks.packed⟩ differs ⟨.v1, same ▸ takes.packed⟩
  refine ⟨takes, ⟨_, rfl⟩, fun reply same => ⟨⟨Frame.answer, 0, 200, []⟩, by decide, rfl, trivial, ?_⟩⟩
  exact same.trans (congrArg _ ((if_neg (@other .rxMap nofun)).trans (if_neg (@other .rc nofun))))

theorem quad_commandable : Vehicle.Commandable attentive (.new .v1) quad.channels :=
  attentive_commandable (by decide)

theorem quad_starts :
    (Vehicle.start .default).Ends (Line.serves attentive) (fun vehicle _ => vehicle = quad)
      ⟨.new .v1, [], []⟩ := by
  have maps : attentive.Tells .v1 (.rxMap .initial) (.rxMap ⟨[0, 1, 3, 2, 4]⟩) :=
    ⟨⟨_, rfl⟩, fun reply same => ⟨_, by decide, rfl, ⟨by decide, rfl⟩, same⟩⟩
  apply (Vehicle.ends_start Link.coherent_new maps attentive_tells rfl quad_commandable ⟨rfl, rfl⟩).weaken
  intro vehicle after ended
  exact ended.1

/-- Setting the vehicle up gives values in range, and arming it sends such values. -/
theorem quad_channels_in_range : ∃ session, Session.Life .default session ∧
    session.vehicle.channels.values = [1500, 1500, 1000, 1500, 1500] ∧
    session.vehicle.channels.Sound ∧ ∃ record bytes next,
      (session.perform .arm).Reaches Record.anything [] (.ask (.write bytes) next) record ∧
        Vehicle.Commanding 5 bytes := by
  obtain ⟨vehicle, _, runs, rfl⟩ := quad_starts.exists_runs
  obtain ⟨_, runs⟩ := Line.runs_anything runs []
  have life := Session.Life.started runs
  obtain ⟨sound, writes⟩ := (channels_in_range .default).2.2 _ life
  have arms : ∃ next, ((Session.start quad).perform .arm).Reaches Record.anything []
      (.ask (.write [0x24, 0x4D, 0x3C, 10, 200, 0xDC, 5, 0xDC, 5, 0xE8, 3, 0xDC, 5, 0xE8, 3, 0x1B]) next)
      [⟨.acquire, (Link.new .v1)⟩, ⟨.isOpen, true⟩] :=
    ⟨_, @Program.Reaches.ask _ _ _ .acquire _ _ _ _ (Link.new .v1) _ ⟨trivial, rfl⟩
      (@Program.Reaches.ask _ _ _ .isOpen _ _ _ _ true _ ⟨trivial, rfl⟩ .here)⟩
  obtain ⟨next, reaches⟩ := arms
  exact ⟨_, life, rfl, sound, _, _, next, reaches, writes .arm _ _ next reaches⟩

end FlightLink
