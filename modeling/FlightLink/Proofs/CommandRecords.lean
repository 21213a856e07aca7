import FlightLink.Proofs.ExchangeRecords
import FlightLink.Vehicle

/-! The courses that commands may take, whatever the port does. A command changes the vehicle's
channels or leaves the vehicle as it was, and the channel values that it sends are the ones that it
keeps. -/

namespace FlightLink

open Program (Abides Follows)

theorem Message.refresh_eq_ok {message read : Message} {payload : Bytes}
    (passed : message.refresh payload = (read, .ok ())) : message.kind.decode payload = .ok read := by
  unfold refresh at passed
  split at passed
  next decoded => cases passed; exact decoded
  next => cases passed

theorem Message.refresh_eq_error {message read : Message} {payload : Bytes} {fault : Fault}
    (failed : message.refresh payload = (read, .error fault)) :
    read = message ∧ message.kind.decode payload = .error fault := by
  unfold refresh at failed
  split at failed
  next => cases failed
  next decoded => cases failed; exact ⟨rfl, decoded⟩

theorem Reads.decodes {message read : Message} {said : Record}
    (reads : Reads message said (read, .ok ())) :
    ∃ payload, Transacts message.code.number [] [] said (.ok (), payload) ∧
      message.kind.decode payload = .ok read := by
  generalize same : (read, Except.ok ()) = result at reads
  cases reads with
  | failed => cases same
  | refreshed transacts => exact ⟨_, transacts, Message.refresh_eq_ok same.symm⟩

theorem map_eq_ok_iff {α β : Type} {make : α → β} {read : Except Fault α} {made : β} :
    make <$> read = .ok made ↔ ∃ result, read = .ok result ∧ make result = made := by
  cases read with
  | error fault => exact ⟨nofun, nofun⟩
  | ok result => simp [Functor.map, Except.map]

theorem bind_eq_ok_iff {α β : Type} {first : Except Fault α} {next : α → Except Fault β} {result : β} :
    first >>= next = .ok result ↔ ∃ value, first = .ok value ∧ next value = .ok result := by
  cases first with
  | error fault => exact ⟨nofun, nofun⟩
  | ok value => simp [bind, Except.bind]

theorem Message.exists_rc {payload : Bytes} {read : Message} (decoded : Kind.rc.decode payload = .ok read) :
    ∃ received, read = .rc received ∧ ReceiverChannels.decode payload = .ok received := by
  obtain ⟨received, taken, rfl⟩ := map_eq_ok_iff.mp decoded
  exact ⟨received, rfl, taken⟩

theorem Message.exists_rxMap {payload : Bytes} {read : Message}
    (decoded : Kind.rxMap.decode payload = .ok read) :
    ∃ map, read = .rxMap map ∧ ChannelMap.decode payload = .ok map := by
  obtain ⟨map, taken, rfl⟩ := map_eq_ok_iff.mp decoded
  exact ⟨map, rfl, taken⟩

theorem Reads.rc {read : Message} {said : Record}
    (reads : Reads Message.Kind.rc.initial said (read, .ok ())) :
    ∃ received payload, read = .rc received ∧
      Transacts Code.rc.number [] [] said (.ok (), payload) ∧
      ReceiverChannels.decode payload = .ok received := by
  obtain ⟨payload, transacts, decoded⟩ := reads.decodes
  obtain ⟨received, made, taken⟩ := Message.exists_rc decoded
  exact ⟨received, payload, made, transacts, taken⟩

theorem Reads.rxMap {read : Message} {said : Record}
    (reads : Reads Message.Kind.rxMap.initial said (read, .ok ())) :
    ∃ map payload, read = .rxMap map ∧
      Transacts Code.rxMap.number [] [] said (.ok (), payload) ∧
      ChannelMap.decode payload = .ok map := by
  obtain ⟨payload, transacts, decoded⟩ := reads.decodes
  obtain ⟨map, made, taken⟩ := Message.exists_rxMap decoded
  exact ⟨map, payload, made, transacts, taken⟩

namespace Vehicle

variable {allowed : Record → Bytes → Prop} {record : Record} {vehicle : Vehicle}

/-- The courses of sending channel values. What is heard decides nothing. -/
inductive Commands (channels : ChannelOverride) : Record → Except Fault Unit → Prop
  | unsent {link : Link} {said fault}
      (sends : link.Sends Code.setRawRc.number channels.encode said (.error fault)) :
      Commands channels (⟨.acquire, link⟩ :: (said ++ [⟨.release link, ()⟩])) (.error fault)
  | sent {link : Link} {said heard received}
      (sends : link.Sends Code.setRawRc.number channels.encode said (.ok ()))
      (awaits : Link.Awaits Code.setRawRc.number (Link.patience - 1) link [] heard received) :
      Commands channels
        (⟨.acquire, link⟩ :: (said ++ (heard ++ (Record.told (match received.outcome with
          | .error fault => [.unacknowledged .setRawRc fault]
          | .ok () => []) ++ [⟨.release received.link, ()⟩])))) (.ok ())

theorem follows_sendChannels {channels : ChannelOverride}
    (fine : ∀ (link : Link) frame,
      Frame.pack link.version Code.setRawRc.number channels.encode = .ok frame →
      allowed (record ++ [⟨.acquire, link⟩, ⟨.isOpen, true⟩]) frame) :
    (sendChannels channels).Follows allowed (Commands channels) record := by
  apply Link.abides_locked
  intro link
  apply (Link.follows_send fun frame packed => ?_).bind
  · intro outcome said sends
    cases outcome with
    | error fault => exact .pure ⟨_, by simp, .unsent sends⟩
    | ok =>
      apply (Link.follows_awaitAnswer Code.setRawRc.number (Link.patience - 1) link [] _).bind
      intro received heard awaits
      have course := Commands.sent sends awaits
      cases outcome : received.outcome with
      | error fault =>
        rw [outcome] at course
        refine .ask nofun fun done _ => ?_
        cases done
        exact .pure ⟨_, by simp [Record.told], course⟩
      | ok =>
        rw [outcome] at course
        exact .pure ⟨_, by simp [Record.told], course⟩
  · rw [List.append_assoc]
    exact fine link frame packed

inductive Commits (vehicle : Vehicle) : Except Fault ChannelOverride → Record →
    Vehicle × Except Fault Unit → Prop
  | refused {fault} : Commits vehicle (.error fault) [] (vehicle, .error fault)
  | unsent {channels said fault} (commands : Commands channels said (.error fault)) :
      Commits vehicle (.ok channels) said (vehicle, .error fault)
  | sent {channels said} (commands : Commands channels said (.ok ())) :
      Commits vehicle (.ok channels) said ({ vehicle with channels }, .ok ())

theorem follows_commit {channels : Except Fault ChannelOverride}
    (fine : ∀ values (link : Link) frame, channels = .ok values →
      Frame.pack link.version Code.setRawRc.number values.encode = .ok frame →
      allowed (record ++ [⟨.acquire, link⟩, ⟨.isOpen, true⟩]) frame) :
    (vehicle.commit channels).Follows allowed (vehicle.Commits channels) record := by
  cases channels with
  | error fault => exact .pure ⟨[], (List.append_nil _).symm, .refused⟩
  | ok values =>
    apply (follows_sendChannels fun link frame => fine values link frame rfl).bind
    intro outcome said commands
    cases outcome with
    | error fault => exact .pure ⟨said, rfl, .unsent commands⟩
    | ok => exact .pure ⟨said, rfl, .sent commands⟩

theorem Commits.of_runs {values : Except Fault ChannelOverride} {before after : Record}
    {result : Vehicle × Except Fault Unit}
    (runs : (vehicle.commit values).Runs Record.anything before result after) :
    ∃ said, after = before ++ said ∧ vehicle.Commits values said result := by
  have follows : (vehicle.commit values).Follows (fun _ _ => True) (vehicle.Commits values) before :=
    follows_commit fun _ _ _ _ _ => trivial
  exact follows.of_runs runs

inductive Resets (vehicle : Vehicle) : Record → Vehicle × Except Fault Unit → Prop
  | unread {said read fault} (reads : Reads Message.Kind.rc.initial said (read, .error fault)) :
      Resets vehicle said (vehicle, .error fault)
  | read {said received more result}
      (reads : Reads Message.Kind.rc.initial said (.rc received, .ok ()))
      (commits : vehicle.Commits (safe vehicle.map received.values.length) more result) :
      Resets vehicle (said ++ more) result

theorem follows_tryReset
    (asks : ∀ (link : Link) frame, Frame.pack link.version Code.rc.number [] = .ok frame →
      allowed (record ++ [⟨.acquire, link⟩, ⟨.isOpen, true⟩]) frame)
    (sends : ∀ said received values (link : Link) frame,
      Reads Message.Kind.rc.initial said (.rc received, .ok ()) →
      safe vehicle.map received.values.length = .ok values →
      Frame.pack link.version Code.setRawRc.number values.encode = .ok frame →
      allowed (record ++ said ++ [⟨.acquire, link⟩, ⟨.isOpen, true⟩]) frame) :
    vehicle.tryReset.Follows allowed vehicle.Resets record := by
  apply (follows_tryRead Message.Kind.rc.initial asks).bind
  intro result said reads
  obtain ⟨read, outcome⟩ := result
  cases outcome with
  | error fault => exact .pure ⟨said, rfl, .unread reads⟩
  | ok =>
    obtain ⟨received, -, rfl, -⟩ := reads.rc
    apply (follows_commit fun values link frame => sends said received values link frame reads).behind
    exact fun result more commits => .read reads commits

inductive Registers (vehicle : Vehicle) : Record → Vehicle × Except Fault Unit → Prop
  | unread {said read fault} (reads : Reads Message.Kind.rxMap.initial said (read, .error fault)) :
      Registers vehicle said (vehicle, .error fault)
  | read {said map} (reads : Reads Message.Kind.rxMap.initial said (.rxMap map, .ok ())) :
      Registers vehicle said ({ vehicle with map }, .ok ())

theorem follows_tryRegisterMap
    (asks : ∀ (link : Link) frame, Frame.pack link.version Code.rxMap.number [] = .ok frame →
      allowed (record ++ [⟨.acquire, link⟩, ⟨.isOpen, true⟩]) frame) :
    vehicle.tryRegisterMap.Follows allowed vehicle.Registers record := by
  apply (follows_tryRead Message.Kind.rxMap.initial asks).bind
  intro result said reads
  obtain ⟨read, outcome⟩ := result
  cases outcome with
  | error fault => exact .pure ⟨said, rfl, .unread reads⟩
  | ok =>
    obtain ⟨map, -, rfl, -⟩ := reads.rxMap
    exact .pure ⟨said, rfl, .read reads⟩

theorem abides_persist {pause : Duration} {unavailable : Fault → Duration → Log.Event}
    {attempt : Vehicle → Program (Vehicle × Except Fault Unit)} (again last : Vehicle → Record → Prop)
    (first : again vehicle record)
    (round : ∀ vehicle before, again vehicle before → Abides allowed
      (fun result after => match result with
        | (vehicle, .ok ()) => last vehicle after
        | (vehicle, .error fault) =>
          again vehicle (after ++ [⟨.report (unavailable fault pause), ()⟩, ⟨.sleep pause, ()⟩]))
      (attempt vehicle) before) :
    Abides allowed last (persist pause unavailable attempt vehicle) record := by
  apply Abides.iterate again last first
  · intro vehicle before held
    apply (round vehicle before held).bind
    intro result after met
    obtain ⟨vehicle, outcome⟩ := result
    cases outcome with
    | ok => exact .pure met
    | error fault =>
      refine .ask nofun fun _ _ => .ask nofun fun _ _ => .pure ?_
      rw [List.append_assoc]
      exact met
  · exact fun vehicle after held => .pure held

theorem follows_verdict (command : Log.Command) (result : Vehicle × Except Fault Unit)
    (record : Record) :
    (verdict command result).Follows allowed (fun said answer =>
      answer = (result.1, result.2.isOk) ∧ said = Record.told (match result.2 with
        | .ok () => []
        | .error fault => [.commandFailed command fault])) record := by
  obtain ⟨vehicle, outcome⟩ := result
  cases outcome with
  | ok => exact .pure ⟨[], (List.append_nil _).symm, rfl, rfl⟩
  | error fault => exact .ask nofun fun _ _ => .pure ⟨_, rfl, rfl, rfl⟩

end Vehicle
end FlightLink
