import FlightLink.Proofs.CommandOutcome
import FlightLink.Proofs.VehicleStartup

/-! Where commands put their values. The channel map decides, whatever it looks like: a channel has the
value of the last update whose control is on it, and a channel that carries none of the controls keeps
what it had. So controls that share no channel can be commanded in any order. -/

namespace FlightLink

open Program (Abides Follows)

/-- The last frame handed to the port commands the channels. -/
def Record.CommandsLast (record : Record) (channels : ChannelOverride) : Prop :=
  ∃ frame, record.written.getLast? = some frame ∧ Frame.Carries channels frame

/-- No two of the controls are on one channel. -/
def ChannelMap.Apart (map : ChannelMap) (controls : List Control) : Prop :=
  controls.Pairwise fun control other => map.channel? control.index ≠ map.channel? other.index

def Control.sticks : List Control := [.roll, .pitch, .yaw, .throttle]

namespace Vehicle

section

variable {map : ChannelMap} {channels other : ChannelOverride} {index : Nat}

/-- The value that updates give a channel, which is that of the last one whose control is on it. -/
def assigned (map : ChannelMap) (index : Nat) : List (Control × UInt16) → Option UInt16
  | [] => none
  | (control, value) :: rest =>
    (assigned map index rest).or (if map.channel? control.index = some index then some value else none)

theorem assigned_append (first second : List (Control × UInt16)) :
    assigned map index (first ++ second) = (assigned map index second).or (assigned map index first) := by
  induction first with
  | nil => simp [assigned]
  | cons update first ih => rw [List.cons_append, assigned, ih, assigned, Option.or_assoc]

theorem assigned_eq_none {updates : List (Control × UInt16)}
    (others : ∀ update ∈ updates, map.channel? update.1.index ≠ some index) :
    assigned map index updates = none := by
  induction updates with
  | nil => rfl
  | cons update rest ih =>
    obtain ⟨first, behind⟩ := List.forall_mem_cons.mp others
    rw [assigned, ih behind, if_neg first]
    rfl

theorem assigned_comm {first second : List (Control × UInt16)}
    (apart : ∀ update ∈ first, ∀ other ∈ second,
      map.channel? update.1.index ≠ map.channel? other.1.index) :
    assigned map index (first ++ second) = assigned map index (second ++ first) := by
  rw [assigned_append, assigned_append]
  by_cases on : ∃ update ∈ first, map.channel? update.1.index = some index
  · obtain ⟨update, member, on⟩ := on
    have none : assigned map index second = none :=
      assigned_eq_none fun other behind => on ▸ (apart update member other behind).symm
    simp [none]
  · have none : assigned map index first = none :=
      assigned_eq_none fun update member same => on ⟨update, member, same⟩
    simp [none]

theorem place_values {updates : List (Control × UInt16)}
    (placed : place map channels updates = .ok other) (index : Nat) :
    other.values[index]? = (assigned map index updates).or channels.values[index]? := by
  induction updates generalizing channels with
  | nil =>
    cases placed
    rfl
  | cons first rest ih =>
    obtain ⟨control, value⟩ := first
    obtain ⟨spot, next, found, done, placed⟩ := place_cons_iff.mp placed
    obtain ⟨⟨-, inside⟩, rfl⟩ := ChannelOverride.set_eq_ok_iff.mp done
    rw [ih placed, assigned, channel_eq_ok_iff.mp found, Option.or_assoc]
    by_cases same : spot = index
    · subst same
      simp [inside]
    · simp [same]

theorem value_of_place {earlier later : List (Control × UInt16)} {control : Control} {value : UInt16}
    (placed : place map channels (earlier ++ (control, value) :: later) = .ok other)
    (behind : ∀ update ∈ later, map.channel? update.1.index ≠ map.channel? control.index) :
    ((map.channel? control.index).bind fun index => other.values[index]?) = some value := by
  obtain ⟨-, index, on, -⟩ := places_of_place placed (control, value) (by simp)
  rw [on] at behind ⊢
  simp [place_values placed, assigned_append, assigned, on, assigned_eq_none behind]

theorem place_others {updates : List (Control × UInt16)} (placed : place map channels updates = .ok other)
    (others : ∀ update ∈ updates, map.channel? update.1.index ≠ some index) :
    other.values[index]? = channels.values[index]? := by
  rw [place_values placed, assigned_eq_none others]
  rfl

end

variable {vehicle after : Vehicle}

def value? (vehicle : Vehicle) (control : Control) : Option UInt16 :=
  (vehicle.map.channel? control.index).bind fun index => vehicle.channels.values[index]?

def Command.Makes (vehicle after : Vehicle) : Command → Prop
  | .reset => ∃ count, after.Centred count
  | command => place vehicle.map vehicle.channels command.updates = .ok after.channels

structure Passes (vehicle : Vehicle) (command : Command) (after : Vehicle) (said : Record) : Prop where
  map : after.map = vehicle.map
  sent : said.CommandsLast after.channels
  makes : command.Makes vehicle after

theorem Commands.last {channels : ChannelOverride} {said : Record}
    (commands : Commands channels said (.ok ())) (before : Record) : (before ++ said).CommandsLast channels := by
  obtain ⟨frame, carries, single⟩ := commands.written_of_ok
  exact ⟨frame, by simp [single], carries⟩

theorem Commits.of_ok {values : Except Fault ChannelOverride} {said : Record}
    (commits : vehicle.Commits values said (after, .ok ())) :
    values = .ok after.channels ∧ after.map = vehicle.map ∧ Commands after.channels said (.ok ()) := by
  generalize same : (after, Except.ok ()) = result at commits
  cases commits with
  | refused | unsent => cases same
  | sent commands =>
    cases same
    exact ⟨rfl, rfl, commands⟩

theorem follows_passes (vehicle : Vehicle) (command : Command) (record : Record) :
    (vehicle.attempt command).Follows (fun _ _ => True)
      (fun said result => result.2 = .ok () → vehicle.Passes command result.1 said) record := by
  cases command with
  | reset =>
    apply (follows_tryReset (fun _ _ _ => trivial) fun _ _ _ _ _ _ _ _ => trivial).abides
    rintro ⟨after, outcome⟩ said resets
    refine ⟨said, rfl, fun passed => ?_⟩
    cases passed
    obtain ⟨map, asking, commanding, _, count, rfl, -, -, centred, commands⟩ := resets.centred
    exact ⟨map, commands.last asking, count, centred⟩
  | _ =>
    apply (follows_commit fun _ _ _ _ _ => trivial).abides
    rintro ⟨after, outcome⟩ said commits
    refine ⟨said, rfl, fun passed => ?_⟩
    cases passed
    obtain ⟨placed, map, commands⟩ := commits.of_ok
    exact ⟨map, commands.last [], placed⟩

theorem follows_obey_passes (vehicle : Vehicle) (command : Command) (record : Record) :
    (vehicle.obey command).Follows (fun _ _ => True)
      (fun said result => result.2 = true → vehicle.Passes command result.1 said) record := by
  rw [obey_eq]
  apply (vehicle.follows_passes command record).bind
  intro result said passes
  apply (follows_verdict command.label result _).abides
  intro answer told same
  obtain ⟨rfl, rfl⟩ := same
  refine ⟨_, List.append_assoc .., fun passed => ?_⟩
  obtain ⟨after, outcome⟩ := result
  cases outcome with
  | error => cases passed
  | ok => simpa [Record.told] using passes rfl

theorem passes_of_runs {command : Command} {record : Record}
    (runs : (vehicle.obey command).Runs Record.anything [] (after, true) record) :
    vehicle.Passes command after record := by
  obtain ⟨said, rfl, passes⟩ := (vehicle.follows_obey_passes command []).of_runs runs
  exact passes rfl

/-- Commands obeyed one after another, each of which passes. Between them anything may be said. -/
inductive Obeys : Vehicle → List Command → Vehicle → Record → Prop
  | none {vehicle : Vehicle} : Obeys vehicle [] vehicle []
  | next {vehicle between after : Vehicle} {command commands said more}
      (runs : (vehicle.obey command).Runs Record.anything [] (between, true) said)
      (rest : Obeys between commands after more) : Obeys vehicle (command :: commands) after (said ++ more)

variable {commands : List Command} {record : Record}

theorem Obeys.one {command : Command} (obeys : vehicle.Obeys [command] after record) :
    vehicle.Passes command after record := by
  cases obeys with
  | next runs rest =>
    cases rest
    simpa using passes_of_runs runs

theorem Obeys.map (obeys : vehicle.Obeys commands after record) : after.map = vehicle.map := by
  induction obeys with
  | none => rfl
  | next runs _ ih => rw [ih, (passes_of_runs runs).map]

theorem Obeys.last (obeys : vehicle.Obeys commands after record) (some : commands ≠ []) :
    record.CommandsLast after.channels := by
  induction obeys with
  | none => exact absurd rfl some
  | @next _ _ _ command commands said more runs rest ih =>
    cases commands with
    | nil =>
      cases rest
      simpa using (passes_of_runs runs).sent
    | cons =>
      obtain ⟨frame, last, carries⟩ := ih nofun
      exact ⟨frame, by simp [List.getLast?_append, last], carries⟩

theorem Obeys.values (obeys : vehicle.Obeys commands after record) (unreset : .reset ∉ commands)
    (index : Nat) : after.channels.values[index]? =
      (assigned vehicle.map index (commands.flatMap Command.updates)).or vehicle.channels.values[index]? := by
  induction obeys with
  | none => rfl
  | @next vehicle between _ command _ _ _ runs _ ih =>
    obtain ⟨map, -, makes⟩ := passes_of_runs runs
    have placed : place vehicle.map vehicle.channels command.updates = .ok between.channels := by
      cases command with
      | reset => exact absurd (List.mem_cons_self ..) unreset
      | _ => exact makes
    rw [ih fun later => unreset (List.mem_cons_of_mem _ later), map, place_values placed,
      List.flatMap_cons, assigned_append, Option.or_assoc]

theorem Obeys.reset (obeys : vehicle.Obeys (commands ++ [.reset]) after record) :
    ∃ count, after.Centred count := by
  generalize same : commands ++ [.reset] = all at obeys
  induction obeys generalizing commands with
  | none => simp at same
  | next runs rest ih =>
    cases commands with
    | nil =>
      obtain ⟨rfl, rfl⟩ := List.cons.inj same
      cases rest
      exact (passes_of_runs runs).makes
    | cons => exact ih (List.cons.inj same).2

theorem Obeys.comm {first second : Command} {turned : Vehicle} {turnedRecord : Record}
    (unreset : .reset ∉ [first, second])
    (apart : ∀ update ∈ first.updates, ∀ other ∈ second.updates,
      vehicle.map.channel? update.1.index ≠ vehicle.map.channel? other.1.index)
    (obeys : vehicle.Obeys [first, second] after record)
    (turns : vehicle.Obeys [second, first] turned turnedRecord) : after.channels = turned.channels := by
  have turnedUnreset : .reset ∉ [second, first] := by simpa [and_comm] using unreset
  apply congrArg ChannelOverride.mk (List.ext_getElem? fun index => ?_)
  rw [obeys.values unreset index, turns.values turnedUnreset index]
  simp only [List.flatMap_cons, List.flatMap_nil, List.append_nil]
  rw [assigned_comm apart]

/-- What commanding the sticks leaves. Throttle is set last, so that it is where the map says in any case. -/
structure SticksSet (vehicle after : Vehicle) (throttle roll pitch yaw : UInt16) : Prop where
  throttle : after.value? .throttle = some throttle
  apart : vehicle.map.Apart Control.sticks →
    after.value? .roll = some roll ∧ after.value? .pitch = some pitch ∧ after.value? .yaw = some yaw
  others : ∀ index, (∀ control ∈ Control.sticks, vehicle.map.channel? control.index ≠ some index) →
    after.channels.values[index]? = vehicle.channels.values[index]?

structure SwitchSet (vehicle after : Vehicle) (position : UInt16) : Prop where
  aux1 : after.value? .aux1 = some position
  others : ∀ index, vehicle.map.channel? Control.aux1.index ≠ some index →
    after.channels.values[index]? = vehicle.channels.values[index]?

def Command.Leaves (vehicle after : Vehicle) : Command → Prop
  | .arm => SwitchSet vehicle after 1000
  | .disarm => SwitchSet vehicle after 2000
  | .setSticks throttle roll pitch yaw => SticksSet vehicle after throttle roll pitch yaw
  | .reset => ∃ count, after.Centred count

theorem Command.sticks_of_updates {throttle roll pitch yaw : UInt16} {update : Control × UInt16}
    (member : update ∈ (setSticks throttle roll pitch yaw).updates) : update.1 ∈ Control.sticks := by
  simp only [updates, List.mem_cons, List.not_mem_nil, or_false] at member
  obtain rfl | rfl | rfl | rfl := member <;> simp [Control.sticks]

theorem Passes.leaves {command : Command} {said : Record} (passes : vehicle.Passes command after said) :
    command.Leaves vehicle after := by
  obtain ⟨map, -, makes⟩ := passes
  have switch {position : UInt16}
      (placed : place vehicle.map vehicle.channels [(.aux1, position)] = .ok after.channels) :
      SwitchSet vehicle after position := by
    refine ⟨?_, fun index other => place_others placed (by simpa using other)⟩
    rw [value?, map]
    exact @value_of_place _ _ _ [] [] _ _ placed nofun
  cases command with
  | reset => exact makes
  | arm | disarm => exact switch makes
  | setSticks throttle roll pitch yaw =>
    refine ⟨?_, fun apart => ?_, fun index others => place_others makes fun update member =>
      others update.1 (Command.sticks_of_updates member)⟩
    · rw [value?, map]
      exact @value_of_place _ _ _ [(.roll, roll), (.pitch, pitch), (.yaw, yaw)] [] _ _ makes nofun
    · simp only [value?, map]
      simp only [ChannelMap.Apart, Control.sticks, List.pairwise_cons, List.forall_mem_cons] at apart
      obtain ⟨⟨rollPitch, rollYaw, rollThrottle, -⟩, ⟨pitchYaw, pitchThrottle, -⟩, ⟨yawThrottle, -⟩, -⟩ :=
        apart
      refine ⟨?_, ?_, ?_⟩
      · apply @value_of_place _ _ _ [] _ _ _ makes
        simp [rollPitch.symm, rollYaw.symm, rollThrottle.symm]
      · apply @value_of_place _ _ _ [(.roll, roll)] _ _ _ makes
        simp [pitchYaw.symm, pitchThrottle.symm]
      · apply @value_of_place _ _ _ [(.roll, roll), (.pitch, pitch)] _ _ _ makes
        simp [yawThrottle.symm]

end Vehicle

open Vehicle in
/-- Whatever the map, the channels and the port are like: commands that pass keep the map, and what the last
of them sent are the vehicle's channels. The sticks and the arming switch are where the map says, and no
other channel changes. After any commands a reset centres all channels but throttle. If the switch is on
none of the channels of the sticks, sticks and switch may be set in any order, which leaves the same channels
and sends the same payload last. -/
theorem commands_placed_by_map (vehicle : Vehicle) :
    (∀ commands after record, commands ≠ [] → vehicle.Obeys commands after record →
      after.map = vehicle.map ∧ record.CommandsLast after.channels) ∧
    (∀ command after record, vehicle.Obeys [command] after record → command.Leaves vehicle after) ∧
    (∀ commands after record, vehicle.Obeys (commands ++ [.reset]) after record →
      ∃ count, after.Centred count) ∧
    ∀ throttle roll pitch yaw, ∀ switch ∈ [Command.arm, .disarm],
      (∀ control ∈ Control.sticks,
        vehicle.map.channel? Control.aux1.index ≠ vehicle.map.channel? control.index) →
      ∀ after turned record turnedRecord,
        vehicle.Obeys [.setSticks throttle roll pitch yaw, switch] after record →
        vehicle.Obeys [switch, .setSticks throttle roll pitch yaw] turned turnedRecord →
        after.channels = turned.channels ∧ record.CommandsLast after.channels ∧
          turnedRecord.CommandsLast after.channels := by
  refine ⟨fun commands after record some obeys => ⟨obeys.map, obeys.last some⟩,
    fun command after record obeys => obeys.one.leaves, fun commands after record => Obeys.reset, ?_⟩
  intro throttle roll pitch yaw switch member apart after turned record turnedRecord obeys turns
  have same : after.channels = turned.channels := by
    have apart (position : UInt16) (update : Control × UInt16)
        (stick : update ∈ (Command.setSticks throttle roll pitch yaw).updates) (other : Control × UInt16)
        (switch : other ∈ [(Control.aux1, position)]) :
        vehicle.map.channel? update.1.index ≠ vehicle.map.channel? other.1.index := by
      rw [List.mem_singleton.mp switch]
      exact (apart update.1 (Command.sticks_of_updates stick)).symm
    obtain rfl | rfl : switch = .arm ∨ switch = .disarm := by simpa using member
    · exact Obeys.comm (by simp) (apart armed) obeys turns
    · exact Obeys.comm (by simp) (apart disarmed) obeys turns
  exact ⟨same, obeys.last nofun, same ▸ turns.last nofun⟩

namespace Vehicle

theorem quad_resets {channels : ChannelOverride} : ∃ record,
    (({ quad with channels } : Vehicle).obey .reset).Runs Record.anything [] (quad, true) record := by
  have passes : (({ quad with channels } : Vehicle).obey .reset).Ends (Line.serves attentive)
      (fun result _ => result = (quad, true)) ⟨.new .v1, [], []⟩ := by
    rw [obey_eq]
    have placed : safe ({ quad with channels } : Vehicle).map 5 = .ok quad.channels := rfl
    apply (ends_tryReset Link.coherent_new attentive_tells placed quad_commandable ⟨rfl, rfl⟩).bind
    intro result after ended
    obtain ⟨rfl, -⟩ := ended
    exact .pure rfl
  obtain ⟨_, _, runs, rfl⟩ := passes.exists_runs
  exact Line.runs_anything runs []

end Vehicle

open Vehicle in
/-- Sticks and arming switch in both orders, on a map that swaps yaw and throttle, disarming behind that,
and a reset afterwards. -/
theorem quad_placed_by_map : ∃ record turnedRecord resetRecord, ∃ after : Vehicle,
    after = { quad with channels := ⟨[1600, 1400, 1100, 1550, 1000]⟩ } ∧
    quad.Obeys [.setSticks 1100 1600 1400 1550, .arm] after record ∧
    quad.Obeys [.arm, .setSticks 1100 1600 1400 1550] after turnedRecord ∧
    record.CommandsLast after.channels ∧ turnedRecord.CommandsLast after.channels ∧
    quad.Obeys ([.setSticks 1100 1600 1400 1550, .arm] ++ [.reset]) quad resetRecord ∧
    (∃ count, quad.Centred count) ∧
    (∃ steered said, quad.Obeys [.setSticks 1100 1600 1400 1550] steered said ∧
      (Command.setSticks 1100 1600 1400 1550).Leaves quad steered) ∧
    ∃ disarmed said, after.Obeys [.disarm] disarmed said ∧ Command.disarm.Leaves after disarmed ∧
      disarmed.channels = ⟨[1600, 1400, 1100, 1550, 2000]⟩ := by
  obtain ⟨-, one, resets, exchange⟩ := commands_placed_by_map quad
  obtain ⟨said, steers⟩ := @attentive_passes quad (.setSticks 1100 1600 1400 1550)
    ⟨[1600, 1400, 1100, 1550, 1500]⟩ nofun (by decide) rfl
  obtain ⟨more, arms⟩ := @attentive_passes { quad with channels := ⟨[1600, 1400, 1100, 1550, 1500]⟩ } .arm
    ⟨[1600, 1400, 1100, 1550, 1000]⟩ nofun (by decide) rfl
  obtain ⟨first, armsFirst⟩ := @attentive_passes quad .arm ⟨[1500, 1500, 1000, 1500, 1000]⟩
    nofun (by decide) rfl
  obtain ⟨second, steersLater⟩ := @attentive_passes { quad with channels := ⟨[1500, 1500, 1000, 1500, 1000]⟩ }
    (.setSticks 1100 1600 1400 1550) ⟨[1600, 1400, 1100, 1550, 1000]⟩ nofun (by decide) rfl
  obtain ⟨third, disarms⟩ := @attentive_passes { quad with channels := ⟨[1600, 1400, 1100, 1550, 1000]⟩ }
    .disarm ⟨[1600, 1400, 1100, 1550, 2000]⟩ nofun (by decide) rfl
  obtain ⟨reset, centres⟩ := @quad_resets ⟨[1600, 1400, 1100, 1550, 1000]⟩
  have obeys := Obeys.next steers (.next arms .none)
  have turns := Obeys.next armsFirst (.next steersLater .none)
  have all := Obeys.next steers (.next arms (.next centres .none))
  have steered := Obeys.next steers .none
  have disarmed := Obeys.next disarms .none
  obtain ⟨-, last, turnedLast⟩ := exchange 1100 1600 1400 1550 .arm (by simp) (by decide) _ _ _ _ obeys turns
  have left := (commands_placed_by_map _).2.1 _ _ _ disarmed
  exact ⟨_, _, _, _, rfl, obeys, turns, last, turnedLast, all,
    resets [.setSticks 1100 1600 1400 1550, .arm] _ _ all, ⟨_, _, steered, one _ _ _ steered⟩,
    _, _, disarmed, left, rfl⟩

end FlightLink
