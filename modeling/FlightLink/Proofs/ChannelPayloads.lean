import FlightLink.Proofs.MessageDecoding

/-! Payloads of channel values. What the host sends and what it reads have the same form, two bytes for each
channel with the lower half first, so channels that were written are read back, and a payload that was read
is what writing its channels makes. -/

namespace FlightLink

namespace Channel

/-- Both halves of each value, the lower one first. -/
def octets (values : List UInt16) : Bytes :=
  values.flatMap fun value : UInt16 => [value.toUInt8, (value >>> 8).toUInt8]

theorem bytes_eq_halves (value : UInt16) :
    LittleEndian.bytes 2 value.toNat = [value.toUInt8, (value >>> 8).toUInt8] := by
  have low : UInt8.ofNat value.toNat = value.toUInt8 := rfl
  have high : UInt8.ofNat (value.toNat / 256) = (value >>> 8).toUInt8 := by
    apply UInt8.toNat.inj
    simp [Nat.shiftRight_eq_div_pow]
  simp only [LittleEndian.bytes, low, high]

end Channel

theorem ChannelOverride.append_eq_octets (override : ChannelOverride) (buffer : Bytes) :
    override.append buffer = buffer ++ Channel.octets override.values := by
  simp only [append_eq, Channel.octets, Channel.bytes_eq_halves]

theorem Channel.octets_eq_encode (values : List UInt16) : octets values = ChannelOverride.encode ⟨values⟩ :=
  (ChannelOverride.append_eq_octets ⟨values⟩ []).symm

theorem Channel.length_octets (values : List UInt16) : (octets values).length = 2 * values.length := by
  rw [octets_eq_encode, ChannelOverride.length_encode]

namespace ReceiverChannels

theorem pairs_octets (values : List UInt16) : pairs (Channel.octets values) = values := by
  rw [Channel.octets_eq_encode, pairs_encode]

theorem octets_pairs {payload : Bytes} (even : payload.length % 2 = 0) :
    Channel.octets (pairs payload) = payload := by
  induction payload using pairs.induct with
  | case1 low high rest ih =>
    have whole : (UInt16.ofNat (LittleEndian.value [low, high])).toNat = LittleEndian.value [low, high] := by
      rw [UInt16.toNat_ofNat']
      exact Nat.mod_eq_of_lt (LittleEndian.value_pair_lt low high)
    have halves := Channel.bytes_eq_halves (UInt16.ofNat (LittleEndian.value [low, high]))
    have spelled : LittleEndian.bytes 2 (LittleEndian.value [low, high]) = [low, high] :=
      LittleEndian.bytes_value [low, high]
    rw [whole, spelled] at halves
    have later : Channel.octets (pairs rest) = rest := ih (by simp only [List.length_cons] at even; omega)
    rw [pairs, Channel.octets, List.flatMap_cons, ← halves]
    exact congrArg ([low, high] ++ ·) later
  | case2 payload short =>
    cases payload with
    | nil => rfl
    | cons low rest =>
      cases rest with
      | nil => cases even
      | cons high rest => exact absurd rfl (short low high rest)

end ReceiverChannels

/-- Writing channels keeps what a buffer has and adds two bytes for each of them, in range or not. Channels
are read back from these bytes, whatever was known before, if there are any; and whenever a payload was read,
writing the channels makes that payload. -/
theorem channels_round_trip :
    (∀ values buffer,
      (Message.override ⟨values⟩).append buffer = (buffer ++ Channel.octets values, .ok ()) ∧
      (Channel.octets values).length = 2 * values.length) ∧
    (∀ values, values ≠ [] → ∀ prior,
      (Message.rc prior).refresh (Channel.octets values) = (.rc ⟨values⟩, .ok ())) ∧
    ∀ payload prior read, (Message.rc prior).refresh payload = (read, .ok ()) →
      ∃ received, read = .rc received ∧ ∀ buffer,
        (Message.override ⟨received.values⟩).append buffer = (buffer ++ payload, .ok ()) := by
  refine ⟨fun values buffer => ⟨?_, Channel.length_octets values⟩, fun values some prior => ?_,
    fun payload prior read passed => ?_⟩
  · rw [Message.append, ChannelOverride.append_eq_octets]
  · have length := Channel.length_octets values
    have least := List.length_pos_iff.mpr some
    have decoded : ReceiverChannels.decode (Channel.octets values) = .ok ⟨values⟩ :=
      ReceiverChannels.decode_eq_ok_iff.mpr
        ⟨⟨by omega, by omega⟩, (ReceiverChannels.pairs_octets values).symm⟩
    have taken : (Message.rc prior).kind.decode (Channel.octets values) = .ok (.rc ⟨values⟩) :=
      map_eq_ok_iff.mpr ⟨_, decoded, rfl⟩
    rw [Message.refresh, taken]
  · obtain ⟨received, rfl, decoded⟩ := Message.exists_rc (Message.refresh_eq_ok passed)
    obtain ⟨⟨-, even⟩, values⟩ := ReceiverChannels.decode_eq_ok_iff.mp decoded
    refine ⟨received, rfl, fun buffer => ?_⟩
    rw [Message.append, ChannelOverride.append_eq_octets, values, ReceiverChannels.octets_pairs even]

/-- Values on both sides of the range, and a payload with a value that only one byte order tells apart. -/
theorem stray_round_trip :
    (Message.rc ⟨[1500]⟩).refresh (Channel.octets [0, 999, 65535]) = (.rc ⟨[0, 999, 65535]⟩, .ok ()) ∧
    ∃ received, Message.rc received = .rc ⟨[0x0102]⟩ ∧
      (Message.override ⟨received.values⟩).append [0xAA] = ([0xAA, 2, 1], .ok ()) := by
  obtain ⟨-, readBack, writtenBack⟩ := channels_round_trip
  obtain ⟨received, same, written⟩ := writtenBack [2, 1] ⟨[]⟩ (.rc ⟨[0x0102]⟩) rfl
  exact ⟨readBack _ (by decide) _, received, same.symm, written [0xAA]⟩

end FlightLink
