import FlightLink.CommandLine
import FlightLink.Proofs.FiniteSupply
import FlightLink.Proofs.RateBounds

/-! Settings that were checked pass everywhere. The check tells the first condition that is not met, in a
fixed order, and asks of each rate what pollers ask of it. So no default stands in for the version, no wait
is empty, and every subscription gets its poller. -/

namespace FlightLink

/-- Something that settings have to meet, and what is told when they do not. -/
structure Settings.Condition where
  met : Bool
  violation : Settings.Violation

def Subscription.condition (subscription : Subscription) : Settings.Condition :=
  ⟨(Frequency.period subscription.hertz).isOk, .frequency subscription⟩

namespace Settings

/-- The conditions in the order in which they are told. Rates are asked of pollers. -/
def conditions (settings : Settings) : List Condition :=
  [⟨settings.port ≠ "", .emptyPort⟩,
    ⟨settings.baud ∈ offeredBauds, .baud⟩,
    ⟨1 ≤ settings.timeout ∧ settings.timeout ≤ 10000, .timeout⟩,
    ⟨settings.versionNumber = 1 ∨ settings.versionNumber = 2, .version⟩,
    ⟨1 ≤ settings.retryInterval ∧ settings.retryInterval ≤ 60000, .retryInterval⟩] ++
  settings.subscriptions.map Subscription.condition

theorem conditions_append (settings : Settings) (more : List Subscription) :
    conditions { settings with subscriptions := settings.subscriptions ++ more } =
      settings.conditions ++ more.map Subscription.condition := by
  simp [conditions]

def told (conditions : List Condition) : Option Violation :=
  (conditions.find? (!·.met)).map Condition.violation

theorem told_eq_none_iff {conditions : List Condition} :
    told conditions = none ↔ ∀ condition ∈ conditions, condition.met := by
  simp [told]

theorem told_eq_some_iff {conditions : List Condition} {violation : Violation} :
    told conditions = some violation ↔ ∃ before missed behind, conditions = before ++ missed :: behind ∧
      (∀ condition ∈ before, condition.met) ∧ missed.met = false ∧ missed.violation = violation := by
  simp only [told, Option.map_eq_some_iff, List.find?_eq_some_iff_append]
  constructor
  · rintro ⟨missed, ⟨unmet, before, behind, split, met⟩, same⟩
    exact ⟨before, missed, behind, split, by simpa using met, by simpa using unmet, same⟩
  · rintro ⟨before, missed, behind, split, met, unmet, same⟩
    exact ⟨missed, ⟨by simpa using unmet, before, behind, split, by simpa using met⟩, same⟩

theorem told_cons {missed met : Prop} [Decidable missed] [Decidable met] {violation : Violation}
    {conditions : List Condition} {later : Option Violation} (opposite : missed ↔ ¬ met)
    (rest : later = told conditions) :
    (if missed then some violation else later) = told (⟨met, violation⟩ :: conditions) := by
  by_cases holds : met <;> simp [told, opposite, holds, rest]

theorem told_subscriptions (subscriptions : List Subscription) :
    (subscriptions.find? (·.outOfBounds)).map .frequency =
      told (subscriptions.map Subscription.condition) := by
  have same : (!·.met) ∘ Subscription.condition = Subscription.outOfBounds := by
    funext subscription
    simp [Subscription.condition, subscription.isOk_period]
  rw [told, List.find?_map, Option.map_map, same]
  rfl

theorem violation?_eq_told (settings : Settings) : settings.violation? = told settings.conditions := by
  have version : (Version.ofNumber? settings.versionNumber).isNone ↔
      ¬ (settings.versionNumber = 1 ∨ settings.versionNumber = 2) := by
    unfold Version.ofNumber?
    split <;> simp_all
  unfold violation? conditions
  refine told_cons (by simp) ?_
  refine told_cons Iff.rfl ?_
  refine told_cons (by omega) ?_
  refine told_cons version ?_
  refine told_cons (by omega) ?_
  exact told_subscriptions settings.subscriptions

end Settings

/-! ## Subscribing -/

structure Subscription.Served (subscription : Subscription) (poller : Poller) : Prop where
  kind : poller.kind = subscription.topic.kind
  hertz : poller.hertz = subscription.hertz
  period : Frequency.period subscription.hertz = .ok poller.period

/-- The vehicle with pollers for the subscriptions, in their order, behind those that it had. -/
def Vehicle.Gains (vehicle : Vehicle) (subscriptions : List Subscription) (after : Vehicle) : Prop :=
  ∃ pollers, subscriptions.Forall₂ Subscription.Served pollers ∧
    after = { vehicle with pollers := vehicle.pollers ++ pollers }

variable {subscription : Subscription} {record : Record}

theorem Record.anything_answered (request : Request) (record : Record) :
    ∃ answer after, Record.anything request record answer after := by
  obtain ⟨answer, possible, -⟩ := request.exists_answer
  exact ⟨answer, _, possible, rfl⟩

theorem Vehicle.register_ends (vehicle : Vehicle) (taken : subscription.condition.met) :
    (vehicle.register subscription.topic.kind subscription.hertz CommandLine.display).Ends Record.anything
      (fun result _ => ∃ poller, subscription.Served poller ∧
        result = ({ vehicle with pollers := vehicle.pollers ++ [poller] }, .ok ())) record := by
  cases checked : Frequency.period subscription.hertz with
  | error fault => simp [Subscription.condition, checked, Except.isOk, Except.toBool] at taken
  | ok period =>
    simp only [Vehicle.register, Poller.start, checked]
    refine .ask (Record.anything_answered _ _) fun id _ _ => ?_
    refine .ask (Record.anything_answered _ _) fun _ _ _ => ?_
    refine .ask (Record.anything_answered _ _) fun _ _ _ => ?_
    refine .ask (Record.anything_answered _ _) fun _ _ _ => ?_
    exact .pure ⟨_, ⟨rfl, rfl, checked⟩, rfl⟩

theorem CommandLine.subscribe_ends {subscriptions : List Subscription}
    (taken : ∀ subscription ∈ subscriptions, subscription.condition.met) (vehicle : Vehicle)
    (record : Record) : (CommandLine.subscribe vehicle subscriptions).Ends Record.anything
      (fun result _ => result.2 = .ok () ∧ vehicle.Gains subscriptions result.1) record := by
  induction subscriptions generalizing vehicle record with
  | nil => exact .pure ⟨rfl, [], .nil, by simp⟩
  | cons subscription rest ih =>
    obtain ⟨here, later⟩ := List.forall_mem_cons.mp taken
    apply (vehicle.register_ends here).bind
    rintro result after ⟨poller, served, rfl⟩
    apply (ih later _ after).weaken
    rintro ⟨vehicle', outcome⟩ after ⟨passed, pollers, all, rfl⟩
    exact ⟨passed, poller :: pollers, .cons served all, by simp⟩

/-! ## What was checked

Connecting may fail or go on for ever. Registering, which is behind it, does not fail. -/

theorem CommandLine.start_registers {settings : Settings} {result : Except Failure Vehicle} {after : Record}
    (taken : ∀ subscription ∈ settings.subscriptions, subscription.condition.met)
    (runs : (CommandLine.start settings).Runs Record.anything record result after) (fault : Fault) :
    result ≠ .error (.register fault) := by
  unfold CommandLine.start at runs
  obtain ⟨-, first, -, runs⟩ := runs.of_bind
  obtain ⟨connected, middle, -, runs⟩ := runs.of_bind
  cases connected with
  | error fault => cases runs with | pure => exact nofun
  | ok vehicle =>
    obtain ⟨⟨vehicle', outcome⟩, later, subscribes, runs⟩ := runs.of_bind
    obtain ⟨rfl, -⟩ := (CommandLine.subscribe_ends taken vehicle middle).of_runs subscribes
    cases runs with | ask _ runs => cases runs with | pure => exact nofun

theorem Settings.ofText_checked {text : String} {settings : Settings}
    (read : Settings.ofText text = .ok settings) : settings.violation? = none := by
  unfold Settings.ofText at read
  split at read
  next => cases read
  next asked _ =>
    split at read
    next => cases read
    next passed =>
      cases read
      exact passed

/-- Settings that were loaded were checked, and the defaults pass as well. -/
theorem CommandLine.settings_checked {file : Option (String × Except PathFault ByteArray)}
    {settings : Settings} (loaded : CommandLine.settings file = .ok settings) :
    settings.violation? = none := by
  cases file with
  | none =>
    cases loaded
    rfl
  | some file =>
    obtain ⟨path, content⟩ := file
    cases content with
    | error fault => cases loaded
    | ok bytes =>
      simp only [CommandLine.settings, Settings.ofFile] at loaded
      cases decoded : String.fromUTF8? bytes with
      | none => simp [decoded, Except.mapError] at loaded
      | some text =>
        simp only [decoded] at loaded
        cases read : Settings.ofText text with
        | error failure => simp [read, Except.mapError] at loaded
        | ok asked =>
          rw [read] at loaded
          cases loaded
          exact Settings.ofText_checked read

namespace Settings

/-- Nothing falls back or fails with these settings. -/
structure Usable (settings : Settings) : Prop where
  version : Version.ofNumber? settings.versionNumber = some settings.options.version
  readTimeout : settings.options.readTimeout.nanoseconds ≠ 0
  retryInterval : settings.options.retryInterval.nanoseconds ≠ 0
  subscribed (vehicle : Vehicle) (record : Record) :
    (CommandLine.subscribe vehicle settings.subscriptions).Ends Record.anything
      (fun result _ => result.2 = .ok () ∧ vehicle.Gains settings.subscriptions result.1) record
  started {result : Except CommandLine.Failure Vehicle} {after : Record}
    (runs : (CommandLine.start settings).Runs Record.anything [] result after) (fault : Fault) :
    result ≠ .error (.register fault)

theorem usable_of_met {settings : Settings} (met : ∀ condition ∈ settings.conditions, condition.met) :
    settings.Usable := by
  simp only [conditions, List.forall_mem_append, List.forall_mem_cons, List.forall_mem_map,
    decide_eq_true_iff] at met
  obtain ⟨⟨-, -, ⟨waits, -⟩, version, ⟨pauses, -⟩, -⟩, taken⟩ := met
  constructor
  case version =>
    obtain one | two := version
    · simp [options, Settings.version, one, Version.ofNumber?]
    · simp [options, Settings.version, two, Version.ofNumber?]
  case readTimeout =>
    change settings.timeout * 1000000 ≠ 0
    omega
  case retryInterval =>
    change settings.retryInterval * 1000000 ≠ 0
    omega
  case subscribed => exact CommandLine.subscribe_ends taken
  case started => exact CommandLine.start_registers taken

/-- Settings pass the check where every condition is met, and otherwise the first one that is not is told.
Those that pass can be used. -/
theorem checked_pass (settings : Settings) :
    (settings.violation? = none ↔ ∀ condition ∈ settings.conditions, condition.met) ∧
    (∀ violation, settings.violation? = some violation ↔
      ∃ before missed behind, settings.conditions = before ++ missed :: behind ∧
        (∀ condition ∈ before, condition.met) ∧ missed.met = false ∧ missed.violation = violation) ∧
    (settings.violation? = none → settings.Usable) := by
  rw [violation?_eq_told]
  refine ⟨told_eq_none_iff, fun _ => told_eq_some_iff, fun none => ?_⟩
  exact usable_of_met (told_eq_none_iff.mp none)

/-- Settings at their limits. The rates are the least one above zero and the greatest. -/
def extreme : Settings :=
  { default with
    timeout := 10000
    versionNumber := 2
    retryInterval := 60000
    subscriptions := [⟨.rc, .ofBits 1⟩, ⟨.imu, 1000⟩] }

def faulty : Settings :=
  { extreme with
    subscriptions := extreme.subscriptions ++ [⟨.imu, .ofBits 0x80000000⟩, ⟨.rc, .ofBits 0x7FC00000⟩] }

theorem extreme_pass :
    extreme.Usable ∧ faulty.violation? = some (.frequency ⟨.imu, .ofBits 0x80000000⟩) := by
  obtain ⟨passed, -, usable⟩ := checked_pass extreme
  obtain ⟨-, told, -⟩ := checked_pass faulty
  have met : ∀ condition ∈ extreme.conditions, condition.met := by decide +kernel
  refine ⟨usable (passed.mpr met), (told _).mpr
    ⟨extreme.conditions, _, _, conditions_append extreme _, met, ?_, rfl⟩⟩
  decide +kernel

end Settings
end FlightLink
