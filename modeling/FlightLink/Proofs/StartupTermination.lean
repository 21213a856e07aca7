import FlightLink.Proofs.ResponderTurns
import FlightLink.Proofs.VehicleStartup

/-! Setting a vehicle up behind a device that answers badly at first. The channel map is asked for until
there is one, and is then kept for good; a reset is tried again as often as it fails. So it is the map
that decides whether setting up comes to an end. -/

namespace FlightLink

open Program (Ends)

variable {respondAt : Nat → Responder} {respond : Responder} {version : Version} {line : Line}

/-- The map puts throttle on one of so many channels. -/
def ChannelMap.Usable (map : ChannelMap) (count : Nat) : Prop :=
  ∃ throttle < count, map.channel? Control.throttle.index = some throttle

/-- The reply is a frame that tells `read` to whoever asked for the message. -/
def Frame.Tells (version : Version) (message read : Message) (reply : Bytes) : Prop :=
  ∃ answer : Frame, answer.Fits version ∧ reply = answer.wire version ∧
    answer.code = message.code.number ∧ answer.direction ≠ refusal ∧
    message.kind.decode answer.payload = .ok read

inductive Responder.Reading (respond : Responder) (version : Version) (message : Message) :
    Message × Except Fault Unit → Prop
  | told {reply read} (replied : respond ((Frame.ofRequest message.code.number []).wire version) reply)
      (tells : Frame.Tells version message read reply) : Reading respond version message (read, .ok ())
  | failed {reply fault} (replied : respond ((Frame.ofRequest message.code.number []).wire version) reply)
      (silent : ∀ read, ¬ Frame.Tells version message read reply) :
      Reading respond version message (message, .error fault)

theorem Frame.tells_wire {message read : Message} {answer : Frame} (fits : answer.Fits version)
    (tells : Tells version message read (answer.wire version)) :
    answer.direction ≠ refusal ∧ message.kind.decode answer.payload = .ok read := by
  obtain ⟨other, fitsToo, same, -, normal, decoded⟩ := tells
  have receipts := receipt_of_wire fits fitsToo same
  simp only [receipt, normal, if_false] at receipts
  split at receipts
  · cases receipts
  next upright =>
    obtain ⟨-, payload⟩ := Receipt.mk.inj receipts
    exact ⟨upright, payload ▸ decoded⟩

theorem ends_tryRead_inTurn {message : Message} (orderly : (respondAt line.turn).Orderly version)
    (idle : line.Idle (.new version)) :
    (tryRead message).Ends (Line.servesInTurn respondAt)
      (fun result after => (respondAt line.turn).Reading version message result ∧
        after.Idle (.new version) ∧ after.turn = line.turn + 1) line := by
  apply (ends_transact_inTurn (Link.coherent_new.takes_ask message.code) orderly idle []).bind
  intro result after ended
  obtain ⟨⟨reply, replied, settled⟩, left⟩ := ended
  cases settled with
  | missed other =>
    refine .pure ⟨.failed replied fun read tells => ?_, left⟩
    obtain ⟨answer, fits, same, own, -⟩ := tells
    exact other answer fits same own
  | @answered answer fits own same =>
    subst same
    by_cases refused : answer.direction = Frame.refusal
    · rw [Frame.verdict, if_pos refused]
      exact .pure ⟨.failed replied fun read tells => (Frame.tells_wire fits tells).1 refused, left⟩
    · rw [Frame.verdict, if_neg refused]
      refine .pure ⟨?_, left⟩
      unfold Message.refresh
      cases decoded : message.kind.decode answer.payload with
      | ok read => exact .told replied ⟨answer, fits, rfl, own, refused, decoded⟩
      | error fault =>
        refine .failed replied fun read tells => ?_
        rw [(Frame.tells_wire fits tells).2] at decoded
        cases decoded

/-- Channel values come in pairs of bytes and the limit is odd, so it is not met. -/
theorem Link.Coherent.takes_pairs {link : Link} {channels : ChannelOverride} (coherent : link.Coherent)
    (room : 2 * channels.values.length ≤ link.version.maxPayload) :
    link.Takes Code.setRawRc.number channels.encode := by
  have odd : link.version.maxPayload % 2 = 1 := by cases link.version <;> rfl
  refine coherent.takes ?_ fun _ => by decide
  rw [ChannelOverride.length_encode]
  omega

theorem Link.takes_command {received : ReceiverChannels} {channels : ChannelOverride} {reply : Bytes}
    (tells : Frame.Tells version Message.Kind.rc.initial (.rc received) reply)
    (length : channels.values.length = received.values.length) :
    Link.Takes (.new version) Code.setRawRc.number channels.encode := by
  obtain ⟨answer, fits, -, -, -, decoded⟩ := tells
  obtain ⟨_, same, decoded⟩ := Message.exists_rc decoded
  cases same
  apply Link.coherent_new.takes_pairs
  rw [length, ← ReceiverChannels.length_of_decode decoded]
  exact fits.1

theorem ends_sendChannels_inTurn {channels : ChannelOverride}
    (takes : Link.Takes (.new version) Code.setRawRc.number channels.encode)
    (orderly : (respondAt line.turn).Orderly version) (idle : line.Idle (.new version)) :
    (Vehicle.sendChannels channels).Ends (Line.servesInTurn respondAt)
      (fun outcome after => outcome = .ok () ∧ after.Idle (.new version) ∧ line.turn < after.turn) line := by
  obtain ⟨nothing, same⟩ := idle
  apply ends_locked_inTurn
  rw [same]
  apply (Link.ends_send_inTurn takes (orderly.responds _ _)).bind
  intro outcome sent ended
  obtain ⟨rfl, ⟨reply, responded, waiting⟩, turn, -⟩ := ended
  rw [nothing, List.nil_append] at waiting
  apply (Link.ends_receiveAnswer_inTurn (orderly.single _ _ reply responded) waiting []).bind
  intro received after ended
  obtain ⟨-, same, left, sameTurn⟩ := ended
  have later : line.turn < after.turn := by omega
  cases received.outcome with
  | error fault =>
    have reported := Nat.lt_of_lt_of_eq later (Line.turn_reported after (.unacknowledged .setRawRc fault)).symm
    exact Line.ends_report_inTurn (.pure ⟨rfl, ⟨left, same⟩, reported⟩)
  | ok => exact .pure ⟨rfl, ⟨left, same⟩, later⟩

namespace Vehicle

variable {vehicle : Vehicle}

def registering (options : Options) : Program Vehicle :=
  persist options.retryInterval .mapUnavailable tryRegisterMap ⟨.initial, .initial, [], options⟩

def resetting (options : Options) (mapped : Vehicle) : Program Vehicle :=
  persist options.retryInterval .resetUnavailable tryReset mapped

inductive Mapping (respond : Responder) (version : Version) (vehicle : Vehicle) :
    Vehicle × Except Fault Unit → Prop
  | mapped {reply map}
      (replied : respond ((Frame.ofRequest Code.rxMap.number []).wire version) reply)
      (tells : Frame.Tells version Message.Kind.rxMap.initial (.rxMap map) reply) :
      Mapping respond version vehicle ({ vehicle with map }, .ok ())
  | unread {read fault}
      (reading : respond.Reading version Message.Kind.rxMap.initial (read, .error fault)) :
      Mapping respond version vehicle (vehicle, .error fault)

theorem ends_tryRegisterMap_inTurn (orderly : (respondAt line.turn).Orderly version)
    (idle : line.Idle (.new version)) :
    vehicle.tryRegisterMap.Ends (Line.servesInTurn respondAt)
      (fun result after => vehicle.Mapping (respondAt line.turn) version result ∧
        after.Idle (.new version) ∧ line.turn < after.turn) line := by
  apply (ends_tryRead_inTurn orderly idle).bind
  intro result after ended
  obtain ⟨reading, left, turn⟩ := ended
  have later : line.turn < after.turn := by omega
  obtain ⟨read, outcome⟩ := result
  cases outcome with
  | error fault => exact .pure ⟨.unread reading, left, later⟩
  | ok =>
    cases reading with
    | told replied tells =>
      obtain ⟨answer, _, _, _, _, decoded⟩ := id tells
      obtain ⟨map, rfl, -⟩ := Message.exists_rxMap decoded
      exact .pure ⟨.mapped replied tells, left, later⟩

inductive Recentring (respond : Responder) (version : Version) (vehicle : Vehicle) :
    Vehicle × Except Fault Unit → Prop
  | unread {read fault}
      (reading : respond.Reading version Message.Kind.rc.initial (read, .error fault)) :
      Recentring respond version vehicle (vehicle, .error fault)
  | told {reply : Bytes} {received : ReceiverChannels} {result}
      (replied : respond ((Frame.ofRequest Code.rc.number []).wire version) reply)
      (tells : Frame.Tells version Message.Kind.rc.initial (.rc received) reply)
      (placed : match safe vehicle.map received.values.length with
        | .error fault => result = (vehicle, .error fault)
        | .ok channels => result = ({ vehicle with channels }, .ok ())) :
      Recentring respond version vehicle result

theorem ends_tryReset_inTurn (orderly : ∀ turn, (respondAt turn).Orderly version)
    (idle : line.Idle (.new version)) :
    vehicle.tryReset.Ends (Line.servesInTurn respondAt)
      (fun result after => vehicle.Recentring (respondAt line.turn) version result ∧
        after.Idle (.new version) ∧ line.turn < after.turn) line := by
  apply (ends_tryRead_inTurn (orderly _) idle).bind
  intro result after ended
  obtain ⟨reading, left, turn⟩ := ended
  have later : line.turn < after.turn := by omega
  obtain ⟨read, outcome⟩ := result
  cases outcome with
  | error fault => exact .pure ⟨.unread reading, left, later⟩
  | ok =>
    cases reading with
    | told replied tells =>
      obtain ⟨answer, _, _, _, _, decoded⟩ := id tells
      obtain ⟨received, rfl, -⟩ := Message.exists_rc decoded
      cases placed : safe vehicle.map received.values.length with
      | error fault =>
        simp only [placed]
        exact .pure ⟨.told replied tells (by rw [placed]), left, later⟩
      | ok channels =>
        simp only [placed]
        have takes := Link.takes_command tells (safe_sound placed).2
        apply (ends_sendChannels_inTurn takes (orderly _) left).bind
        intro outcome last ended
        obtain ⟨rfl, left, more⟩ := ended
        exact .pure ⟨.told replied tells (by rw [placed]), left, Nat.lt_trans later more⟩

section

variable {pause : Duration} {unavailable : Fault → Duration → Log.Event} {link : Link} {first : Nat}
  {attempt : Vehicle → Program (Vehicle × Except Fault Unit)}

/-- Attempts that fail in the first turns only come to an end. -/
theorem ends_persist_inTurn (first : Nat) {good : Vehicle → Prop}
    (tries : ∀ line : Line, line.Idle link → (attempt vehicle).Ends (Line.servesInTurn respondAt)
      (fun result after => (match result with
        | (other, .ok ()) => good other
        | (other, .error _) => other = vehicle ∧ line.turn < first) ∧
        after.Idle link ∧ line.turn < after.turn) line) (idle : line.Idle link) :
    (persist pause unavailable attempt vehicle).Ends (Line.servesInTurn respondAt)
      (fun other after => good other ∧ after.Idle link) line := by
  induction left : first - line.turn using Nat.strongRecOn generalizing line with
  | ind left' ih =>
    subst left
    apply Ends.iterate
    rw [Program.unfold, Program.bind_eq, Program.bind_assoc]
    apply (tries line idle).bind
    intro result after ended
    obtain ⟨other, outcome⟩ := result
    obtain ⟨met, left, later⟩ := ended
    cases outcome with
    | ok => exact .pure ⟨met, left⟩
    | error fault =>
      obtain ⟨rfl, early⟩ := met
      change Ends _ _ ((Program.report (unavailable fault pause)).bind _) _
      apply Line.ends_report_inTurn
      refine .ask ⟨(), _, rfl⟩ fun slept _ same => ?_
      cases same
      refine ih _ ?_ (left.note _) rfl
      rw [Line.turn_reported]
      omega

/-- Attempts that all fail from some turn on do not come to an end. -/
theorem not_runs_persist_inTurn (first : Nat) {result : Vehicle} {after : Line}
    (fails : ∀ line : Line, line.Idle link → first ≤ line.turn →
      (attempt vehicle).Ends (Line.servesInTurn respondAt)
        (fun result after => (∃ fault, result = (vehicle, .error fault)) ∧ after.Idle link ∧
          line.turn < after.turn) line)
    (idle : line.Idle link) (late : first ≤ line.turn) :
    ¬ (persist pause unavailable attempt vehicle).Runs (Line.servesInTurn respondAt) line result after := by
  apply Program.not_runs_iterate (fun other line => other = vehicle ∧ line.Idle link ∧ first ≤ line.turn) ?_
    ⟨rfl, idle, late⟩
  intro other before held
  obtain ⟨rfl, idle, late⟩ := held
  apply (fails before idle late).bind
  intro result after ended
  obtain ⟨⟨fault, rfl⟩, left, later⟩ := ended
  apply Line.ends_report_inTurn
  refine .ask ⟨(), _, rfl⟩ fun slept _ same => .pure ?_
  cases same
  refine ⟨other, rfl, rfl, left.note _, ?_⟩
  rw [Line.turn_reported]
  omega

end

theorem exists_safe_iff {map : ChannelMap} {count : Nat} :
    (∃ channels, safe map count = .ok channels) ↔ map.Usable count := by
  constructor
  · rintro ⟨channels, placed⟩
    obtain ⟨-, throttle, found, inside⟩ := places_of_place placed (.throttle, Channel.least) (by simp)
    exact ⟨throttle, by simpa using inside, found⟩
  · rintro ⟨throttle, inside, found⟩
    apply exists_place
    intro update member
    obtain rfl := List.mem_singleton.mp member
    exact ⟨by decide, throttle, found, by simpa using inside⟩

end Vehicle

/-- A device that sends whole frames for so many requests, whatever they say, and answers well from then
on: with a map that has throttle on one of its channels, and with values for all of them. -/
structure Settles (respondAt : Nat → Responder) (version : Version) (first count : Nat) : Prop where
  orderly (turn : Nat) : (respondAt turn).Orderly version
  maps (turn : Nat) : first ≤ turn →
    (respondAt turn).Answers version Code.rxMap.number [] fun answer =>
      answer.direction ≠ Frame.refusal ∧ (⟨answer.payload⟩ : ChannelMap).Usable count
  channels (turn : Nat) : first ≤ turn →
    (respondAt turn).Answers version Code.rc.number [] fun answer =>
      answer.direction ≠ Frame.refusal ∧ answer.payload.length = 2 * count

namespace Settles

variable {first count turn : Nat} {vehicle : Vehicle} {result : Vehicle × Except Fault Unit}

theorem mapping (settles : Settles respondAt version first count) (late : first ≤ turn)
    (mapping : vehicle.Mapping (respondAt turn) version result) :
    ∃ map : ChannelMap, map.Usable count ∧ result = ({ vehicle with map }, .ok ()) := by
  have decodes {payload : Bytes} (usable : (⟨payload⟩ : ChannelMap).Usable count) :
      Message.Kind.rxMap.decode payload = .ok (.rxMap ⟨payload⟩) := by
    obtain ⟨throttle, -, found⟩ := usable
    cases payload with
    | nil => cases found
    | cons => rfl
  cases mapping with
  | mapped replied tells =>
    obtain ⟨answer, fits, own, ⟨normal, usable⟩, rfl⟩ := (settles.maps turn late).oneFrame _ replied
    cases (decodes usable).symm.trans (Frame.tells_wire fits tells).2
    exact ⟨_, usable, rfl⟩
  | unread reading =>
    cases reading with
    | failed replied silent =>
      obtain ⟨answer, fits, own, ⟨normal, usable⟩, rfl⟩ := (settles.maps turn late).oneFrame _ replied
      exact absurd ⟨answer, fits, rfl, own, normal, decodes usable⟩ (silent _)

theorem recentring (settles : Settles respondAt version first count) (late : first ≤ turn)
    (recentring : vehicle.Recentring (respondAt turn) version result) :
    (vehicle.map.Usable count → ∃ after, result = (after, .ok ()) ∧ after.Centred count) ∧
      (¬ vehicle.map.Usable count → ∃ fault, result = (vehicle, .error fault)) := by
  have decodes {payload : Bytes} (some : 0 < count) (length : payload.length = 2 * count) :
      Message.Kind.rc.decode payload = .ok (.rc ⟨ReceiverChannels.pairs payload⟩) := by
    have whole : ¬ (payload.isEmpty ∨ payload.length % 2 ≠ 0) := by
      cases payload <;> simp at length ⊢ <;> omega
    rw [Message.Kind.decode, ReceiverChannels.decode, if_neg whole]
    rfl
  cases recentring with
  | unread reading =>
    refine ⟨fun usable => ?_, fun _ => ⟨_, rfl⟩⟩
    obtain ⟨throttle, inside, -⟩ := usable
    cases reading with
    | failed replied silent =>
      obtain ⟨answer, fits, own, ⟨normal, length⟩, rfl⟩ :=
        (settles.channels turn late).oneFrame _ replied
      exact absurd ⟨answer, fits, rfl, own, normal, decodes (Nat.zero_lt_of_lt inside) length⟩ (silent _)
  | @told _ received _ replied tells placed =>
    obtain ⟨answer, fits, own, ⟨normal, length⟩, rfl⟩ :=
      (settles.channels turn late).oneFrame _ replied
    obtain ⟨_, same, decoded⟩ := Message.exists_rc (Frame.tells_wire fits tells).2
    cases same
    have same : received.values.length = count := by
      have whole := ReceiverChannels.length_of_decode decoded
      omega
    rw [same] at placed
    constructor
    · intro usable
      obtain ⟨channels, safe⟩ := Vehicle.exists_safe_iff.mpr usable
      rw [safe] at placed
      exact ⟨_, placed, Vehicle.centred_of_safe safe⟩
    · intro unusable
      cases safe : Vehicle.safe vehicle.map count with
      | ok channels => exact absurd (Vehicle.exists_safe_iff.mp ⟨channels, safe⟩) unusable
      | error fault =>
        rw [safe] at placed
        exact ⟨fault, placed⟩

/-- A map that the device may tell: a usable one, or any that it sends early. -/
def Offers (respondAt : Nat → Responder) (version : Version) (first count : Nat) (map : ChannelMap) : Prop :=
  map.Usable count ∨ ∃ turn < first, ∃ reply,
    respondAt turn ((Frame.ofRequest Code.rxMap.number []).wire version) reply ∧
    Frame.Tells version Message.Kind.rxMap.initial (.rxMap map) reply

theorem ends_registering (settles : Settles respondAt version first count) (options : Options)
    (idle : line.Idle (.new version)) :
    (Vehicle.registering options).Ends (Line.servesInTurn respondAt)
      (fun mapped after => (∃ map, Offers respondAt version first count map ∧
        mapped = ⟨map, .initial, [], options⟩) ∧ after.Idle (.new version)) line := by
  apply Vehicle.ends_persist_inTurn first (fun line idle => ?_) idle
  apply (Vehicle.ends_tryRegisterMap_inTurn (settles.orderly _) idle).weaken
  intro result after ended
  obtain ⟨mapping, left⟩ := ended
  refine ⟨?_, left⟩
  by_cases late : first ≤ line.turn
  · obtain ⟨map, usable, rfl⟩ := settles.mapping late mapping
    exact ⟨map, .inl usable, rfl⟩
  · have early := Nat.lt_of_not_le late
    cases mapping with
    | @mapped reply map replied tells => exact ⟨map, .inr ⟨_, early, reply, replied, tells⟩, rfl⟩
    | unread => exact ⟨rfl, early⟩

theorem ends_resetting (settles : Settles respondAt version first count) (options : Options)
    (vehicle : Vehicle) (usable : vehicle.map.Usable count) (idle : line.Idle (.new version)) :
    (vehicle.resetting options).Ends (Line.servesInTurn respondAt)
      (fun reset after => (∃ count, reset.Centred count) ∧ after.Idle (.new version)) line := by
  apply Vehicle.ends_persist_inTurn first (fun line idle => ?_) idle
  apply (Vehicle.ends_tryReset_inTurn settles.orderly idle).weaken
  intro result after ended
  obtain ⟨recentring, left⟩ := ended
  refine ⟨?_, left⟩
  by_cases late : first ≤ line.turn
  · obtain ⟨reset, rfl, centred⟩ := (settles.recentring late recentring).1 usable
    exact ⟨count, centred⟩
  · have early := Nat.lt_of_not_le late
    cases recentring with
    | unread => exact ⟨rfl, early⟩
    | @told _ received _ _ _ placed =>
      split at placed
      next fault _ =>
        cases placed
        exact ⟨rfl, early⟩
      next channels safe =>
        cases placed
        exact ⟨_, Vehicle.centred_of_safe safe⟩

theorem not_runs_resetting (settles : Settles respondAt version first count) (options : Options)
    (unusable : ¬ vehicle.map.Usable count) (idle : line.Idle (.new version)) (late : first ≤ line.turn)
    {reset : Vehicle} {after : Line} :
    ¬ (vehicle.resetting options).Runs (Line.servesInTurn respondAt) line reset after := by
  refine Vehicle.not_runs_persist_inTurn first (fun line idle late => ?_) idle late
  apply (Vehicle.ends_tryReset_inTurn settles.orderly idle).weaken
  intro result after ended
  obtain ⟨recentring, left⟩ := ended
  exact ⟨(settles.recentring late recentring).2 unusable, left⟩

end Settles

/-- Setting up comes to an end unless a map without a usable throttle is taken over early. Whole frames at
first, whatever they say, and good answers from then on always give a map, and with a usable one a safe
state. But the map is not asked for again: with an unusable one, no reset passes any more. -/
theorem startup_decided_by_map {first count : Nat} (settles : Settles respondAt version first count)
    (options : Options) (idle : line.Idle (.new version)) :
    (Vehicle.registering options).Ends (Line.servesInTurn respondAt)
      (fun mapped after => (∃ map, Settles.Offers respondAt version first count map ∧
        mapped = ⟨map, .initial, [], options⟩) ∧ after.Idle (.new version)) line ∧
    (∀ mapped : Vehicle, mapped.map.Usable count →
      (mapped.resetting options).Ends (Line.servesInTurn respondAt)
        (fun vehicle after => (∃ count, vehicle.Centred count) ∧ after.Idle (.new version)) line) ∧
    (first ≤ line.turn → ∀ mapped : Vehicle, ¬ mapped.map.Usable count → ∀ vehicle after,
      ¬ (mapped.resetting options).Runs (Line.servesInTurn respondAt) line vehicle after) ∧
    ((∀ map, Settles.Offers respondAt version first count map → map.Usable count) →
      (Vehicle.start options).Ends (Line.servesInTurn respondAt)
        (fun vehicle after => (∃ count, vehicle.Centred count) ∧ after.Idle (.new version)) line) := by
  refine ⟨settles.ends_registering options idle, fun mapped usable => settles.ends_resetting options mapped usable idle,
    fun late mapped unusable vehicle after => settles.not_runs_resetting options unusable idle late,
    fun usable => ?_⟩
  apply (settles.ends_registering options idle).bind
  intro mapped after ended
  obtain ⟨⟨map, offered, rfl⟩, left⟩ := ended
  apply Line.ends_report_inTurn
  apply (settles.ends_resetting options ⟨map, .initial, [], options⟩ (usable map offered)
    (left.note _)).bind
  intro vehicle after ended
  obtain ⟨centred, left⟩ := ended
  exact Line.ends_report_inTurn (.pure ⟨centred, left.note _⟩)

/-- A device that answers anything with a map of one entry at first, and is attentive from then on. -/
def rash (turn : Nat) : Responder := fun request reply =>
  if turn = 0 then reply = Frame.wire .v1 ⟨Frame.answer, 0, 64, [0]⟩ else attentive request reply

private theorem rash_settles : Settles rash .v1 1 5 where
  orderly turn := by
    cases turn with
    | zero => exact ⟨fun _ _ => ⟨_, rfl⟩, fun _ _ reply same => .inr ⟨_, by decide, same⟩⟩
    | succ turn =>
      refine ⟨fun _ _ => ⟨_, rfl⟩, fun _ _ reply same => .inr ⟨_, ?_, same⟩⟩
      split
      · decide
      · split <;> decide
  maps turn late := by
    obtain ⟨turn, rfl⟩ := Nat.exists_eq_add_one.mpr late
    exact ⟨⟨_, rfl⟩, fun reply same =>
      ⟨_, by decide, rfl, ⟨by decide, 2, by decide, rfl⟩, same⟩⟩
  channels turn late := by
    obtain ⟨turn, rfl⟩ := Nat.exists_eq_add_one.mpr late
    exact ⟨⟨_, rfl⟩, fun reply same => ⟨_, by decide, rfl, ⟨by decide, rfl⟩, same⟩⟩

private theorem rash_maps {line : Line} (idle : line.Idle (.new .v1)) (start : line.turn = 0)
    (options : Options) :
    (Vehicle.registering options).Ends (Line.servesInTurn rash)
      (fun mapped after => mapped.map = ⟨[0]⟩ ∧ after.Idle (.new .v1) ∧ 1 ≤ after.turn) line := by
  apply Vehicle.ends_persist
  apply (Vehicle.ends_tryRegisterMap_inTurn (rash_settles.orderly _) idle).weaken
  intro result after ended
  obtain ⟨mapping, left, later⟩ := ended
  rw [start] at mapping later
  have told : Message.Kind.rxMap.decode [0] = .ok (.rxMap ⟨[0]⟩) := rfl
  cases mapping with
  | mapped replied tells =>
    cases replied
    cases told.symm.trans (Frame.tells_wire (by decide) tells).2
    exact ⟨rfl, rfl, left, later⟩
  | unread reading =>
    cases reading with
    | failed replied silent =>
      cases replied
      exact absurd ⟨_, by decide, rfl, rfl, by decide, told⟩ (silent (.rxMap ⟨[0]⟩))

private theorem unusable_short : ¬ (⟨[0]⟩ : ChannelMap).Usable 5 := by
  rintro ⟨throttle, -, found⟩
  cases found

/-- One early answer with a valid but short map, and setting up does not come to an end. -/
theorem startup_hangs_on_short_map : Settles rash .v1 1 5 ∧ ∀ vehicle after,
    ¬ (Vehicle.start .default).Runs (Line.servesInTurn rash) ⟨.new .v1, [], []⟩ vehicle after := by
  refine ⟨rash_settles, fun vehicle after runs => ?_⟩
  obtain ⟨mapped, middle, registers, rest⟩ := (show Program.Runs _
    ((Vehicle.registering .default).bind _) _ _ _ from runs).of_bind
  obtain ⟨short, idle, late⟩ := (rash_maps ⟨rfl, rfl⟩ rfl .default).of_runs registers
  cases rest with
  | ask told rest =>
    cases told
    obtain ⟨reset, last, resets, -⟩ := (show Program.Runs _
      ((mapped.resetting .default).bind _) _ _ _ from rest).of_bind
    refine rash_settles.not_runs_resetting .default ?_ (idle.note _) ?_ resets
    · rw [short]
      exact unusable_short
    · rwa [Line.turn_reported]

/-- Behind that device, once it is attentive, a vehicle with a whole map is reset and one with the short
map never is. -/
theorem rash_decided_by_map :
    (quad.resetting .default).Ends (Line.servesInTurn rash)
      (fun vehicle after => (∃ count, vehicle.Centred count) ∧ after.Idle (.new .v1))
      ⟨.new .v1, [], [.wrote [] []]⟩ ∧
    ∀ vehicle after, ¬ (Vehicle.resetting .default { quad with map := ⟨[0]⟩ }).Runs
      (Line.servesInTurn rash) ⟨.new .v1, [], [.wrote [] []]⟩ vehicle after := by
  have idle : Line.Idle (.new .v1) ⟨.new .v1, [], [.wrote [] []]⟩ := ⟨rfl, rfl⟩
  obtain ⟨-, resets, never, -⟩ := startup_decided_by_map rash_settles .default idle
  exact ⟨resets quad ⟨2, by decide, rfl⟩, never (by decide) _ unusable_short⟩

end FlightLink
