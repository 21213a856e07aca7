import FlightLink.Proofs.IntegerCodec
import FlightLink.Proofs.VehicleStartup

/-! What payloads convey. A message is decoded as a whole or not at all, and what it becomes depends on the
payload alone: readings are numbers at fixed places times a scale, maps and channels are as long as the
payload allows. Behind any exchange a message is what a frame with its code conveyed, or what it was. -/

namespace FlightLink

namespace WireInteger

variable {format : WireInteger} {buffer : Bytes} {offset : Nat} {scale : Float32}

theorem exists_decodeSingle_iff : (∃ reading, format.decodeSingle buffer offset scale = .ok reading) ↔
    offset + format.size ≤ buffer.length := by
  simp only [decodeSingle, bind_eq_ok_iff, decode_eq_ok_iff]
  constructor
  · rintro ⟨_, _, ⟨whole, -⟩, -⟩
    exact whole
  · exact fun whole => ⟨_, _, ⟨whole, rfl⟩, rfl⟩

end WireInteger

/-- The three axes stand behind each other from an offset on. -/
structure Triple.Conveyed (payload : Bytes) (offset : Nat) (scale : Float32) (triple : Triple) : Prop where
  x : WireInteger.i16.decodeSingle payload offset scale = .ok triple.x
  y : WireInteger.i16.decodeSingle payload (offset + 2) scale = .ok triple.y
  z : WireInteger.i16.decodeSingle payload (offset + 4) scale = .ok triple.z

namespace Imu

variable {payload : Bytes}

theorem triple_eq_ok_iff {offset : Nat} {scale : Float32} {axes : Triple} :
    triple payload offset scale = .ok axes ↔ axes.Conveyed payload offset scale := by
  unfold triple
  simp only [bind_eq_ok_iff]
  constructor
  · rintro ⟨x, first, y, second, z, third, same⟩
    cases same
    exact ⟨first, second, third⟩
  · exact fun conveyed => ⟨_, conveyed.x, _, conveyed.y, _, conveyed.z, rfl⟩

theorem decode_eq_ok_iff {readings : Imu} : decode payload = .ok readings ↔
    18 ≤ payload.length ∧ readings.acceleration.Conveyed payload 0 accelerationScale ∧
      readings.rate.Conveyed payload 6 rateScale := by
  by_cases short : payload.length < payloadSize
  · have failed : decode payload = .error (.shortBuffer payloadSize 0 payload.length) := by
      simp only [decode, short, if_true]
      rfl
    rw [failed]
    exact ⟨nofun, fun whole => absurd whole.1 (Nat.not_le.mpr short)⟩
  · have parts : decode payload = (do
        let acceleration ← triple payload 0 accelerationScale
        let rate ← triple payload 6 rateScale
        return ⟨acceleration, rate⟩) := by
      simp only [decode, short, if_false]
    simp only [parts, bind_eq_ok_iff, triple_eq_ok_iff]
    constructor
    · rintro ⟨acceleration, first, rate, second, same⟩
      cases same
      exact ⟨Nat.le_of_not_lt short, first, second⟩
    · exact fun ⟨_, first, second⟩ => ⟨_, first, _, second, rfl⟩

end Imu

theorem Triple.exists_conveyed {payload : Bytes} {offset : Nat} (scale : Float32)
    (whole : offset + 6 ≤ payload.length) : ∃ triple : Triple, triple.Conveyed payload offset scale := by
  have axis (place : Nat) (inside : place + 2 ≤ payload.length) :=
    (@WireInteger.exists_decodeSingle_iff .i16 payload place scale).mpr inside
  obtain ⟨x, first⟩ := axis offset (by omega)
  obtain ⟨y, second⟩ := axis (offset + 2) (by omega)
  obtain ⟨z, third⟩ := axis (offset + 4) (by omega)
  exact ⟨⟨x, y, z⟩, first, second, third⟩

namespace Altitude

theorem decode_eq_ok_iff {payload : Bytes} {estimate : Altitude} : decode payload = .ok estimate ↔
    WireInteger.i32.decodeSingle payload 0 scale = .ok estimate.metres := by
  simp only [decode, bind_eq_ok_iff]
  constructor
  · rintro ⟨metres, read, same⟩
    cases same
    exact read
  · exact fun read => ⟨_, read, rfl⟩

end Altitude

namespace ChannelMap

theorem decode_eq_ok_iff {payload : Bytes} {map : ChannelMap} :
    decode payload = .ok map ↔ 1 ≤ payload.length ∧ map.entries = payload := by
  obtain ⟨entries⟩ := map
  cases payload with
  | nil => simp [decode]
  | cons => simp [decode, eq_comm]

theorem decode_u8 {payload : Bytes} {index : Nat} (inside : index < payload.length) :
    WireInteger.u8.decode payload index = .ok (payload[index].toNat : Int) := by
  apply WireInteger.decode_eq_ok_iff.mpr ⟨inside, ?_⟩
  have byte : (payload.drop index).take 1 = [payload[index]] := by
    rw [List.drop_eq_getElem_cons inside]
    rfl
  rw [WireInteger.ofBytes_of_unsigned rfl]
  change _ = (LittleEndian.value ((payload.drop index).take 1) : Int)
  rw [byte]
  rfl

theorem entries_eq_iff {payload entries : Bytes} :
    entries = payload ↔ entries.length = payload.length ∧ ∀ index (inside : index < entries.length),
      WireInteger.u8.decode payload index = .ok (entries[index].toNat : Int) := by
  constructor
  · rintro rfl
    exact ⟨rfl, fun index inside => decode_u8 inside⟩
  · rintro ⟨length, read⟩
    apply List.ext_getElem length
    intro index first second
    have same := (read index first).symm.trans (decode_u8 second)
    simp only [Except.ok.injEq, Int.natCast_inj] at same
    exact UInt8.toNat.inj same

end ChannelMap

namespace ReceiverChannels

theorem decode_u16 {payload : Bytes} {index : Nat} (inside : index < (pairs payload).length) :
    WireInteger.u16.decode payload (2 * index) = .ok ((pairs payload)[index].toNat : Int) := by
  induction payload using pairs.induct generalizing index with
  | case1 low high rest ih =>
    cases index with
    | zero =>
      apply WireInteger.decode_eq_ok_iff.mpr ⟨by simp [WireInteger.size], ?_⟩
      have small := LittleEndian.value_pair_lt low high
      have whole : (UInt16.ofNat (LittleEndian.value [low, high])).toNat = LittleEndian.value [low, high] := by
        rw [UInt16.toNat_ofNat']
        exact Nat.mod_eq_of_lt small
      rw [WireInteger.ofBytes_of_unsigned rfl]
      exact congrArg Nat.cast whole
    | succ index =>
      have later := @ih index (by simpa [pairs] using inside)
      obtain ⟨whole, value⟩ := WireInteger.decode_eq_ok_iff.mp later
      apply WireInteger.decode_eq_ok_iff.mpr ⟨by simp only [List.length_cons]; omega, ?_⟩
      simpa [pairs, Nat.mul_succ] using value
  | case2 payload short =>
    rw [length_pairs] at inside
    obtain _ | ⟨low, _ | ⟨high, rest⟩⟩ := payload
    · simp at inside
    · simp at inside
    · exact absurd rfl (short low high rest)

theorem pairs_eq_iff {payload : Bytes} {values : List UInt16} (even : payload.length % 2 = 0) :
    values = pairs payload ↔ payload.length = 2 * values.length ∧ ∀ index (inside : index < values.length),
      WireInteger.u16.decode payload (2 * index) = .ok (values[index].toNat : Int) := by
  have length := length_pairs payload
  constructor
  · rintro rfl
    exact ⟨by omega, fun index inside => decode_u16 inside⟩
  · rintro ⟨length, read⟩
    apply List.ext_getElem (by omega)
    intro index first second
    have same := (read index first).symm.trans (decode_u16 second)
    simp only [Except.ok.injEq, Int.natCast_inj] at same
    exact UInt16.toNat.inj same

theorem decode_eq_ok_iff {payload : Bytes} {received : ReceiverChannels} : decode payload = .ok received ↔
    (0 < payload.length ∧ payload.length % 2 = 0) ∧ received.values = pairs payload := by
  obtain ⟨values⟩ := received
  unfold decode
  split
  next wrong =>
    refine ⟨nofun, fun right => ?_⟩
    obtain ⟨⟨some, even⟩, -⟩ := right
    obtain empty | odd := wrong
    · rw [List.isEmpty_iff_length_eq_zero] at empty
      omega
    · exact absurd even odd
  next right =>
    rw [not_or, List.isEmpty_iff_length_eq_zero, Decidable.not_not] at right
    have fine : 0 < payload.length ∧ payload.length % 2 = 0 := ⟨Nat.pos_of_ne_zero right.1, right.2⟩
    simp [fine, eq_comm]

end ReceiverChannels

namespace Message

/-- What a kind asks of the length of a payload. The override is never read. -/
def Kind.Fits (payload : Bytes) : Kind → Prop
  | imu => 18 ≤ payload.length
  | altitude => 4 ≤ payload.length
  | rxMap => 1 ≤ payload.length
  | rc => 0 < payload.length ∧ payload.length % 2 = 0
  | override => False

/-- What a message has is what stands in the payload: readings at their places, one entry for each byte,
one value for each pair of bytes. -/
def Conveyed (payload : Bytes) : Message → Prop
  | imu readings => readings.acceleration.Conveyed payload 0 Imu.accelerationScale ∧
      readings.rate.Conveyed payload 6 Imu.rateScale
  | altitude estimate => WireInteger.i32.decodeSingle payload 0 Altitude.scale = .ok estimate.metres
  | rxMap map => map.entries.length = payload.length ∧
      ∀ index (inside : index < map.entries.length),
        WireInteger.u8.decode payload index = .ok (map.entries[index].toNat : Int)
  | rc received => payload.length = 2 * received.values.length ∧
      ∀ index (inside : index < received.values.length),
        WireInteger.u16.decode payload (2 * index) = .ok (received.values[index].toNat : Int)
  | override _ => False

private theorem made_iff {α : Type} {make : α → Message} {kind : Kind} {part : Except Fault α} {payload : Bytes}
    {read : Message} (makes : ∀ read : Message, read.kind = kind ↔ ∃ value, make value = read)
    (parts : ∀ value, part = .ok value ↔ kind.Fits payload ∧ (make value).Conveyed payload) :
    make <$> part = .ok read ↔ kind.Fits payload ∧ read.kind = kind ∧ read.Conveyed payload := by
  rw [map_eq_ok_iff, makes]
  constructor
  · rintro ⟨value, decoded, rfl⟩
    obtain ⟨fits, conveyed⟩ := (parts value).mp decoded
    exact ⟨fits, ⟨value, rfl⟩, conveyed⟩
  · rintro ⟨fits, ⟨value, rfl⟩, conveyed⟩
    exact ⟨value, (parts value).mpr ⟨fits, conveyed⟩, rfl⟩

theorem Kind.decode_eq_ok_iff {kind : Kind} {payload : Bytes} {read : Message} :
    kind.decode payload = .ok read ↔ kind.Fits payload ∧ read.kind = kind ∧ read.Conveyed payload := by
  cases kind with
  | override => exact ⟨nofun, fun fits => fits.1.elim⟩
  | imu =>
    apply made_iff fun read => by cases read <;> simp [kind]
    exact fun readings => Imu.decode_eq_ok_iff
  | altitude =>
    apply made_iff fun read => by cases read <;> simp [kind]
    intro estimate
    refine Altitude.decode_eq_ok_iff.trans ⟨fun conveyed => ⟨?_, conveyed⟩, And.right⟩
    have whole := WireInteger.exists_decodeSingle_iff.mp ⟨_, conveyed⟩
    rwa [Nat.zero_add] at whole
  | rxMap =>
    apply made_iff fun read => by cases read <;> simp [kind]
    exact fun map => ChannelMap.decode_eq_ok_iff.trans (and_congr_right fun _ => ChannelMap.entries_eq_iff)
  | rc =>
    apply made_iff fun read => by cases read <;> simp [kind]
    exact fun received => ReceiverChannels.decode_eq_ok_iff.trans
      (and_congr_right fun fits => ReceiverChannels.pairs_eq_iff fits.2)

theorem Kind.exists_decode_iff {kind : Kind} {payload : Bytes} :
    (∃ read, kind.decode payload = .ok read) ↔ kind.Fits payload := by
  refine ⟨fun ⟨read, decoded⟩ => (decode_eq_ok_iff.mp decoded).1, fun fits => ?_⟩
  cases kind with
  | override => exact fits.elim
  | imu =>
    change 18 ≤ payload.length at fits
    obtain ⟨acceleration, first⟩ := @Triple.exists_conveyed payload 0 Imu.accelerationScale (by omega)
    obtain ⟨rate, second⟩ := @Triple.exists_conveyed payload 6 Imu.rateScale (by omega)
    exact ⟨.imu ⟨acceleration, rate⟩, decode_eq_ok_iff.mpr ⟨fits, rfl, first, second⟩⟩
  | altitude =>
    obtain ⟨metres, read⟩ :=
      (@WireInteger.exists_decodeSingle_iff .i32 payload 0 Altitude.scale).mpr (by rwa [Nat.zero_add])
    exact ⟨.altitude ⟨metres⟩, decode_eq_ok_iff.mpr ⟨fits, rfl, read⟩⟩
  | rxMap => exact ⟨.rxMap ⟨payload⟩, decode_eq_ok_iff.mpr ⟨fits, rfl, ChannelMap.entries_eq_iff.mp rfl⟩⟩
  | rc =>
    exact ⟨.rc ⟨ReceiverChannels.pairs payload⟩,
      decode_eq_ok_iff.mpr ⟨fits, rfl, (ReceiverChannels.pairs_eq_iff fits.2).mp rfl⟩⟩

variable {message : Message} {payload : Bytes}

theorem exists_refresh_iff :
    (∃ read, message.refresh payload = (read, .ok ())) ↔ message.kind.Fits payload := by
  rw [← Kind.exists_decode_iff]
  refine ⟨fun ⟨read, passed⟩ => ⟨read, refresh_eq_ok passed⟩, fun ⟨read, decoded⟩ => ⟨read, ?_⟩⟩
  rw [refresh, decoded]

theorem refresh_of_fits (fits : message.kind.Fits payload) : ∃ read : Message, read.kind = message.kind ∧
    read.Conveyed payload ∧ ∀ prior : Message, prior.kind = message.kind →
      prior.refresh payload = (read, .ok ()) := by
  obtain ⟨read, decoded⟩ := Kind.exists_decode_iff.mpr fits
  obtain ⟨-, same, conveyed⟩ := Kind.decode_eq_ok_iff.mp decoded
  refine ⟨read, same, conveyed, fun prior alike => ?_⟩
  rw [refresh, alike, decoded]

theorem refresh_of_not_fits (misfits : ¬ message.kind.Fits payload) :
    ∃ fault, message.refresh payload = (message, .error fault) := by
  cases decoded : message.kind.decode payload with
  | ok read => exact absurd (Kind.exists_decode_iff.mp ⟨read, decoded⟩) misfits
  | error fault => exact ⟨fault, by rw [refresh, decoded]⟩

end Message

theorem Reads.kept {message read : Message} {said : Record} {fault : Fault}
    (reads : Reads message said (read, .error fault)) : read = message := by
  generalize same : (read, Except.error fault) = result at reads
  cases reads with
  | failed =>
    cases same
    rfl
  | refreshed => exact (Message.refresh_eq_error same.symm).1

/-- A payload of the right length makes the same of every message of a kind, and any other leaves the
message as it was. Whatever the port does, a message that was asked for is as it was when that failed, and
when it passed it has what a frame conveyed that was received behind the request with the message's
code. -/
theorem messages_all_or_nothing (message : Message) :
    (∀ payload, (∃ read, message.refresh payload = (read, .ok ())) ↔ message.kind.Fits payload) ∧
    (∀ payload, message.kind.Fits payload → ∃ read : Message, read.kind = message.kind ∧
      read.Conveyed payload ∧ ∀ prior : Message, prior.kind = message.kind →
        prior.refresh payload = (read, .ok ())) ∧
    (∀ payload, ¬ message.kind.Fits payload → ∃ fault, message.refresh payload = (message, .error fault)) ∧
    ∀ read outcome before after,
      (tryRead message).Runs Record.anything before (read, outcome) after →
      (∀ fault, outcome = .error fault → read = message) ∧
      (outcome = .ok () → ∃ said payload, after = before ++ said ∧
        said.Learns message.code.number payload ∧
        Frame.Answered message.code.number payload said.delivered ∧
        message.refresh payload = (read, .ok ()) ∧ read.kind = message.kind ∧ read.Conveyed payload) := by
  refine ⟨fun _ => Message.exists_refresh_iff, fun _ => Message.refresh_of_fits,
    fun _ => Message.refresh_of_not_fits, fun read outcome before after runs => ?_⟩
  obtain ⟨said, rfl, reads⟩ := Reads.of_runs runs
  constructor
  · rintro fault rfl
    exact reads.kept
  · rintro rfl
    obtain ⟨payload, transacts, decoded⟩ := reads.decodes
    have learns := transacts.learns []
    have conveys := Message.Kind.decode_eq_ok_iff.mp decoded
    exact ⟨said, payload, rfl, learns, learns.frame, by rw [Message.refresh, decoded], conveys.2⟩

/-- Two channels, half a channel, and the five channels of a device that answers. -/
theorem channels_all_or_nothing :
    (∃ read : Message, read.kind = .rc ∧ read.Conveyed [0xDC, 5, 0xE8, 3] ∧
      ∀ prior : Message, prior.kind = .rc → prior.refresh [0xDC, 5, 0xE8, 3] = (read, .ok ())) ∧
    (∃ fault, (Message.rc ⟨[1500]⟩).refresh [0xDC] = (.rc ⟨[1500]⟩, .error fault)) ∧
    ∃ record payload, (tryRead (.rc .initial)).Runs Record.anything []
        (.rc ⟨List.replicate 5 1500⟩, .ok ()) record ∧
      record.Learns Code.rc.number payload ∧ Frame.Answered Code.rc.number payload record.delivered ∧
      (Message.rc ⟨List.replicate 5 1500⟩).Conveyed payload := by
  obtain ⟨-, fits, misfits, -⟩ := messages_all_or_nothing (.rc ⟨[1500]⟩)
  obtain ⟨-, -, -, received⟩ := messages_all_or_nothing (.rc .initial)
  refine ⟨fits _ ⟨by decide, rfl⟩, misfits _ (fun paired => nomatch paired.2), ?_⟩
  obtain ⟨_, _, reads, rfl, -⟩ :=
    (@ends_tryRead _ ⟨.new .v1, [], []⟩ _ _ _ Link.coherent_new attentive_tells ⟨rfl, rfl⟩).exists_runs
  obtain ⟨record, runs⟩ := Line.runs_anything reads []
  obtain ⟨said, payload, rfl, learns, answered, -, -, conveyed⟩ := (received _ _ _ _ runs).2 rfl
  exact ⟨_, payload, runs, learns, answered, conveyed⟩

end FlightLink
