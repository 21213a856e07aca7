import FlightLink.Proofs.CommandRecords

/-! What the courses hand to the port, frame by frame. A frame tells its version, its code and its
payload, so that requests and commands cannot be mistaken for one another. -/

namespace FlightLink

namespace Frame

variable {version other : Version} {code asked : UInt16} {payload content frame : Bytes}

theorem pack_inj (packed : pack version code payload = .ok frame)
    (again : pack other asked content = .ok frame) :
    version = other ∧ code = asked ∧ payload = content := by
  obtain ⟨fits, rfl⟩ := pack_eq_ok_iff.mp packed
  obtain ⟨otherFits, same⟩ := pack_eq_ok_iff.mp again
  obtain rfl : version = other := by
    have marker := (List.cons.inj (List.cons.inj same).2).1
    cases version <;> cases other <;> first | rfl | cases marker
  have parses := @Parses.frame version [] [] _ .nil fits
  rw [same] at parses
  obtain ⟨receipts, -⟩ := parses.unique (.frame .nil otherFits)
  simp only [receipt, ofRequest] at receipts
  cases receipts
  exact ⟨rfl, rfl, rfl⟩

def AsksFor (code : Code) (frame : Bytes) : Prop := ∃ version, pack version code.number [] = .ok frame

/-- The frame commands channel values. -/
def Carries (channels : ChannelOverride) (frame : Bytes) : Prop :=
  ∃ version, pack version Code.setRawRc.number channels.encode = .ok frame

theorem AsksFor.not_carries {message : Code} {channels : ChannelOverride} (asks : AsksFor message frame)
    (other : message ≠ .setRawRc) : ¬ Carries channels frame := by
  rintro ⟨_, carried⟩
  obtain ⟨_, packed⟩ := asks
  have same := (pack_inj packed carried).2.1
  cases message <;> first | exact other rfl | cases same

end Frame

theorem ChannelOverride.length_encode (channels : ChannelOverride) :
    channels.encode.length = 2 * channels.values.length := by
  rw [encode_eq, List.length_flatMap]
  simp [List.map_const', Nat.mul_comm]

theorem ReceiverChannels.pairs_encode (channels : ChannelOverride) :
    pairs channels.encode = channels.values := by
  obtain ⟨values⟩ := channels
  rw [ChannelOverride.encode_eq]
  induction values with
  | nil => rfl
  | cons value values ih =>
    have whole : LittleEndian.value (LittleEndian.bytes 2 value.toNat) = value.toNat := by
      rw [LittleEndian.value_bytes]
      exact Nat.mod_eq_of_lt value.toNat_lt
    change UInt16.ofNat (LittleEndian.value (LittleEndian.bytes 2 value.toNat)) ::
      pairs (values.flatMap fun value => LittleEndian.bytes 2 value.toNat) = value :: values
    rw [whole, ih, UInt16.ofNat_toNat]

theorem ChannelOverride.encode_inj {channels other : ChannelOverride}
    (same : channels.encode = other.encode) : channels = other := by
  have values := congrArg ReceiverChannels.pairs same
  rw [ReceiverChannels.pairs_encode, ReceiverChannels.pairs_encode] at values
  cases channels
  cases other
  exact congrArg ChannelOverride.mk values

theorem Frame.Carries.unique {channels other : ChannelOverride} {frame : Bytes}
    (carries : Carries channels frame) (again : Carries other frame) : channels = other := by
  obtain ⟨_, packed⟩ := carries
  obtain ⟨_, repacked⟩ := again
  exact ChannelOverride.encode_inj (pack_inj packed repacked).2.2

def Query.flushes : Query → Bool
  | ⟨.flush, .ok ()⟩ => true
  | _ => false

namespace Record

variable {record more : Record} {kind : Bytes → Prop} {channels : ChannelOverride}

def Hands (kind : Bytes → Prop) (record : Record) : Prop :=
  record.written = [] ∨ ∃ frame, kind frame ∧ record.written = [frame]

theorem Hands.all (hands : record.Hands kind) {frame : Bytes} (member : frame ∈ record.written) :
    kind frame := by
  obtain nothing | ⟨only, fine, single⟩ := hands
  · rw [nothing] at member
    cases member
  · rw [single] at member
    exact List.mem_singleton.mp member ▸ fine

/-- The port took the whole of a frame that commands the channels, and flushed it. -/
inductive Commanded (channels : ChannelOverride) : Record → Prop
  | taken {before since : Record} {frame : Bytes} {written : Nat}
      (carries : Frame.Carries channels frame) (whole : frame.length ≤ written) :
      Commanded channels (before ++ ⟨.write frame, .ok written⟩ :: ⟨.flush, .ok ()⟩ :: since)

theorem Commanded.flushed (commanded : record.Commanded channels) : record.any Query.flushes = true := by
  cases commanded
  simp [Query.flushes]

theorem Commanded.written (commanded : record.Commanded channels) :
    ∃ frame ∈ record.written, Frame.Carries channels frame := by
  cases commanded with
  | taken carries => exact ⟨_, by simp [Query.written], carries⟩

theorem Commanded.prepend (commanded : more.Commanded channels) (record : Record) :
    (record ++ more).Commanded channels := by
  cases commanded with
  | taken carries whole =>
    rw [← List.append_assoc]
    exact .taken carries whole

theorem Commanded.behind (commanded : (record ++ more).Commanded channels)
    (others : ∀ frame ∈ record.written, ¬ Frame.Carries channels frame) : more.Commanded channels := by
  generalize joined : record ++ more = whole at commanded
  cases commanded with
  | @taken before since frame written carries whole =>
    obtain ⟨between, rfl, rfl⟩ | ⟨between, rfl, split⟩ := List.append_eq_append_iff.mp joined
    · exact .taken carries whole
    · cases between with
      | nil =>
        obtain rfl := split.symm
        exact @taken _ [] since frame written carries whole
      | cons query between =>
        obtain ⟨rfl, -⟩ := List.cons.inj split
        exact absurd carries (others frame (by simp [Query.written]))

private theorem not_mem_told {request : Request} {answer : request.Answer} {events : List Log.Event}
    (other : ∀ event, request ≠ .report event) : (⟨request, answer⟩ : Query) ∉ told events := by
  intro member
  obtain ⟨event, -, same⟩ := List.mem_map.mp member
  exact other event (congrArg Query.request same).symm

theorem Commanded.ahead {events : List Log.Event} (commanded : (record ++ told events).Commanded channels) :
    record.Commanded channels := by
  generalize joined : record ++ told events = whole at commanded
  cases commanded with
  | @taken before since frame written carries whole =>
    have unwritten : (⟨.write frame, .ok written⟩ : Query) ∉ told events :=
      not_mem_told fun _ same => nomatch same
    have unflushed : (⟨.flush, .ok ()⟩ : Query) ∉ told events :=
      not_mem_told fun _ same => nomatch same
    obtain ⟨between, rfl, split⟩ | ⟨between, rfl, split⟩ := List.append_eq_append_iff.mp joined
    · exact absurd (split ▸ by simp) unwritten
    · cases between with
      | nil =>
        rw [List.nil_append] at split
        exact absurd (split ▸ List.mem_cons_self ..) unwritten
      | cons query between =>
        rw [List.cons_append] at split
        obtain ⟨rfl, behind⟩ := List.cons.inj split
        cases between with
        | nil =>
          rw [List.nil_append] at behind
          exact absurd (behind ▸ List.mem_cons_self ..) unflushed
        | cons query between =>
          rw [List.cons_append] at behind
          obtain ⟨rfl, -⟩ := List.cons.inj behind
          exact .taken carries whole

theorem Commanded.append (commanded : record.Commanded channels) (more : Record) :
    (record ++ more).Commanded channels := by
  cases commanded with
  | taken carries whole =>
    rw [List.append_assoc]
    exact .taken carries whole

end Record

section Courses

variable {link : Link} {code : UInt16} {payload buffer : Bytes} {said : Record}

theorem Link.Sends.hands {outcome : Except Fault Unit} (sends : link.Sends code payload said outcome) :
    said.Hands fun frame => Frame.pack link.version code payload = .ok frame := by
  cases sends with
  | closed | oversized | unpacked => exact .inl rfl
  | unwritten _ packed | cut _ packed | unflushed _ packed | sent _ packed =>
    exact .inr ⟨_, packed, rfl⟩

theorem Link.Sends.unflushed_of_error {fault : Fault}
    (sends : link.Sends code payload said (.error fault)) : said.any Query.flushes = false := by
  cases sends <;> rfl

theorem Transacts.hands {result : Except Fault Unit × Bytes}
    (transacts : Transacts code payload buffer said result) :
    said.Hands fun frame => ∃ version, Frame.pack version code payload = .ok frame := by
  cases transacts with
  | @locked link said received exchanges =>
    have sending {sent : Record} {outcome : Except Fault Unit}
        (sends : link.Sends code payload sent outcome) :
        sent.Hands fun frame => ∃ version, Frame.pack version code payload = .ok frame := by
      obtain nothing | ⟨frame, packed, single⟩ := sends.hands
      · exact .inl nothing
      · exact .inr ⟨frame, ⟨_, packed⟩, single⟩
    cases exchanges with
    | unsent sends => simpa [Record.Hands, Query.written] using sending sends
    | answered sends awaits => simpa [Record.Hands, Query.written, awaits.mute] using sending sends

theorem Transacts.written_of_ok {content : Bytes}
    (transacts : Transacts code payload buffer said (.ok (), content)) :
    ∃ version frame, Frame.pack version code payload = .ok frame ∧ said.written = [frame] := by
  generalize same : (Except.ok (), content) = result at transacts
  cases transacts with
  | locked exchanges =>
    cases exchanges with
    | unsent => cases same
    | answered sends awaits =>
      obtain ⟨frame, written, packed, -, rfl⟩ := sends.of_ok
      exact ⟨_, frame, packed, by simp [Query.written, awaits.mute]⟩

theorem Reads.hands {message : Message} {result : Message × Except Fault Unit}
    (reads : Reads message said result) : said.Hands (Frame.AsksFor message.code) := by
  cases reads with
  | failed transacts | refreshed transacts => exact transacts.hands

theorem Reads.written_of_ok {message read : Message} (reads : Reads message said (read, .ok ())) :
    ∃ frame, Frame.AsksFor message.code frame ∧ said.written = [frame] := by
  obtain ⟨payload, transacts, -⟩ := reads.decodes
  obtain ⟨version, frame, packed, single⟩ := transacts.written_of_ok
  exact ⟨frame, ⟨version, packed⟩, single⟩

namespace Vehicle

variable {channels other : ChannelOverride} {vehicle : Vehicle}

theorem Commands.hands {outcome : Except Fault Unit} (commands : Commands channels said outcome) :
    said.Hands (Frame.Carries channels) := by
  have sending {link : Link} {sent : Record}
      (sends : link.Sends Code.setRawRc.number channels.encode sent outcome) :
      sent.Hands (Frame.Carries channels) := by
    obtain nothing | ⟨frame, packed, single⟩ := sends.hands
    · exact .inl nothing
    · exact .inr ⟨frame, ⟨_, packed⟩, single⟩
  cases commands with
  | unsent sends => simpa [Record.Hands, Query.written] using sending sends
  | sent sends awaits => simpa [Record.Hands, Query.written, awaits.mute] using sending sends

theorem Commands.commanded (commands : Commands channels said (.ok ())) : said.Commanded channels := by
  generalize same : Except.ok () = outcome at commands
  cases commands with
  | unsent => cases same
  | @sent link _ heard received sends awaits =>
    obtain ⟨frame, written, packed, whole, rfl⟩ := sends.of_ok
    exact @Record.Commanded.taken channels [⟨.acquire, link⟩, ⟨.isOpen, true⟩] _ frame written
      ⟨_, packed⟩ whole

theorem Commands.not_commanded {fault : Fault} (commands : Commands channels said (.error fault)) :
    ¬ said.Commanded other := by
  intro commanded
  have flushed := commanded.flushed
  generalize same : Except.error fault = outcome at commands
  cases commands with
  | sent => cases same
  | unsent sends =>
    cases same
    simp [Query.flushes, sends.unflushed_of_error] at flushed

/-- A command went out just when it passed, with the channel values that the vehicle has now. -/
theorem Commits.commanded_iff {values : Except Fault ChannelOverride}
    {result : Vehicle × Except Fault Unit} (commits : vehicle.Commits values said result) :
    said.Commanded channels ↔ result = ({ vehicle with channels }, .ok ()) := by
  cases commits with
  | refused =>
    exact ⟨fun commanded => absurd commanded.flushed nofun, fun same => nomatch congrArg Prod.snd same⟩
  | unsent commands =>
    exact ⟨fun commanded => absurd commanded commands.not_commanded,
      fun same => nomatch congrArg Prod.snd same⟩
  | sent commands =>
    constructor
    · intro commanded
      obtain ⟨frame, member, carries⟩ := commanded.written
      rw [carries.unique (commands.hands.all member)]
    · intro same
      obtain rfl : _ = channels := congrArg (·.1.channels) same
      exact commands.commanded

end Vehicle
end Courses
end FlightLink
