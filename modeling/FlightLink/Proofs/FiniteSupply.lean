import FlightLink.Proofs.ExchangeRecords
import FlightLink.Vehicle

/-! Surroundings that give only so many bytes, in whatever pieces and with whatever faults. Whoever
waits for an answer in them comes to an end: a reception that goes on has taken something out of the
supply. -/

namespace FlightLink

/-- Surroundings of which nothing is known but that the port gives no more than so many bytes. -/
def Record.scarce (most : Nat) : Surroundings Record := fun request before answer after =>
  Record.anything request before answer after ∧ after.delivered.length ≤ most

theorem Request.exists_answer (request : Request) :
    ∃ answer, request.Possible answer ∧ Query.delivered ⟨request, answer⟩ = [] := by
  cases request with
  | connect => exact ⟨.ok (), trivial, rfl⟩
  | isOpen | isWanted => exact ⟨true, trivial, rfl⟩
  | write => exact ⟨.ok 0, trivial, rfl⟩
  | read => exact ⟨.ok [], Nat.zero_le _, rfl⟩
  | flush | discardInput => exact ⟨.ok (), trivial, rfl⟩
  | acquire => exact ⟨.new .v1, trivial, rfl⟩
  | now => exact ⟨⟨0⟩, trivial, rfl⟩
  | enlist => exact ⟨⟨0⟩, trivial, rfl⟩
  | claim => exact ⟨none, trivial, rfl⟩
  | join => exact ⟨.finished, trivial, rfl⟩
  | release | sleep | report | launch | dismiss | count | deliver | rest => exact ⟨(), trivial, rfl⟩

namespace Program

variable {α β : Type} {most : Nat} {record : Record}

/-- Every execution comes to an end where the supply is finite. -/
structure Halts (program : Program α) : Prop where
  ends (most : Nat) (record : Record) : record.delivered.length ≤ most →
    program.Ends (Record.scarce most) (fun _ after => after.delivered.length ≤ most) record

theorem scarce_answered (request : Request) (room : record.delivered.length ≤ most) :
    ∃ answer after, Record.scarce most request record answer after := by
  obtain ⟨answer, possible, nothing⟩ := request.exists_answer
  exact ⟨answer, _, ⟨possible, rfl⟩, by simpa [nothing] using room⟩

namespace Halts

theorem pure {result : α} : (Program.pure result).Halts := ⟨fun _ _ room => .pure room⟩

theorem ask {request : Request} {next : request.Answer → Program α}
    (rest : ∀ answer, (next answer).Halts) : (Program.ask request next).Halts where
  ends most record room := by
    apply Ends.ask (scarce_answered request room)
    exact fun answer after given => (rest answer).ends most after given.2

theorem bind {program : Program α} {next : α → Program β} (first : program.Halts)
    (rest : ∀ result, (next result).Halts) : (program.bind next).Halts where
  ends most record room :=
    (first.ends most record room).bind fun result after => (rest result).ends most after

end Halts

theorem Ends.abiding {program : Program α} {allowed : Record → Bytes → Prop}
    {wanted other : α → Record → Prop} (ends : program.Ends (Record.scarce most) wanted record)
    (abides : program.Abides allowed other record) : program.Ends (Record.scarce most) other record := by
  induction ends with
  | pure =>
    cases abides with
    | pure done => exact .pure done
  | ask given _ ih =>
    cases abides with
    | ask _ rest =>
      refine .ask given fun answer after served => ?_
      obtain ⟨⟨possible, rfl⟩, -⟩ := id served
      exact ih answer _ served (rest answer possible)
  | iterate _ ih =>
    cases abides with
    | iterate again last first round rest => exact .iterate (ih (.unfold first round rest))

theorem Reaches.scarce {program final : Program α} {before after : Record}
    (reaches : Reaches Record.anything program before final after) (room : after.delivered.length ≤ most) :
    Reaches (Record.scarce most) program before final after := by
  induction reaches with
  | here => exact .here
  | ask answered later ih =>
    obtain ⟨said, rfl⟩ := later.extends
    refine .ask ⟨answered, ?_⟩ (ih room)
    rw [Record.delivered_append, List.length_append] at room
    omega
  | iterate _ ih => exact .iterate (ih room)

/-- However far a program has come, it comes to its end from there. -/
theorem Halts.reached {program final : Program α} {after : Record} {allowed : Record → Bytes → Prop}
    {wanted : α → Record → Prop} (halts : program.Halts) (abides : program.Abides allowed wanted [])
    (reaches : Reaches Record.anything program [] final after) (room : after.delivered.length ≤ most) :
    final.Ends (Record.scarce most) wanted after :=
  ((halts.ends most [] (Nat.zero_le _)).reached (reaches.scarce room)).abiding (abides.reached reaches)

end Program

private theorem awaited_of_more {version : Version} {phase next : Reception} {chunk : Bytes}
    (nothing : phase.awaited version = 0)
    (moved : phase.advance version (.ok chunk) = .more next) : next.awaited version = 1 := by
  cases phase with
  | payload fields =>
    simp only [Reception.advance, nothing, Nat.not_lt_zero, false_and, if_false] at moved
    cases moved
    rfl
  | header => cases version <;> cases nothing
  | _ => cases nothing

theorem halts_continued (version : Version) (phase : Reception) :
    (Reception.continued version phase).Halts := by
  refine ⟨fun most record room => ?_⟩
  -- A phase that goes on has got all it asked for, so the supply shrinks, or the awaited bytes
  -- change from none to some.
  induction size : 2 * (most - record.delivered.length) +
      (if phase.awaited version = 0 then 1 else 0) using Nat.strongRecOn generalizing phase record with
  | ind size ih =>
    subst size
    apply Program.Ends.iterate
    rw [Program.unfold, Program.bind_eq, Program.bind_assoc]
    apply Program.Ends.ask (Program.scarce_answered _ room)
    intro answer after given
    obtain ⟨⟨possible, rfl⟩, room⟩ := given
    cases answer with
    | error fault => exact .pure room
    | ok chunk =>
      simp only [pure, Program.bind]
      cases moved : phase.advance version (.ok chunk) with
      | done receipt => exact .pure room
      | more next =>
        have whole := Reception.whole_of_more possible moved
        refine ih _ ?_ next _ room rfl
        have longer : (record ++ [⟨.read (phase.awaited version), .ok chunk⟩] : Record).delivered.length =
            record.delivered.length + phase.awaited version := by
          simp [Query.delivered, whole]
        rw [longer] at room ⊢
        by_cases nothing : phase.awaited version = 0
        · simp [nothing, awaited_of_more nothing moved]
        · split <;> omega

theorem halts_receiveFrame (version : Version) : (receiveFrame version).Halts :=
  halts_continued version .preamble

namespace Link

theorem halts_send (link : Link) (code : UInt16) (payload : Bytes) :
    (link.send code payload).Halts := by
  refine .ask fun opened => ?_
  cases opened with
  | false => exact .pure
  | true =>
    change Program.Halts (if _ then _ else _)
    split
    · exact .pure
    · split
      next => exact .pure
      next frame _ =>
        refine .ask fun accepted => ?_
        cases accepted with
        | error fault => exact .pure
        | ok written =>
          change Program.Halts (if _ then _ else _)
          split
          · exact .pure
          · refine .ask fun flushed => ?_
            cases flushed with
            | error fault => exact .pure
            | ok => exact .ask fun _ => .pure

theorem halts_switch (link : Link) (version : Version) : (link.switch version).Halts := by
  unfold switch
  split
  · exact .ask fun _ => .pure
  · exact .pure

theorem halts_receive (link : Link) (buffer : Bytes) : (link.receive buffer).Halts := by
  refine .ask fun opened => ?_
  cases opened with
  | false => exact .pure
  | true =>
    apply (halts_receiveFrame link.version).bind
    intro receipt
    split
    · exact .ask fun _ => (halts_switch ..).bind fun _ => .pure
    · exact .pure

theorem halts_awaitAnswer (code : UInt16) (spare : Nat) (link : Link) (buffer : Bytes) :
    (awaitAnswer code spare link buffer).Halts := by
  induction spare generalizing link buffer with
  | zero => exact (halts_receive link buffer).bind fun _ => .pure
  | succ spare ih =>
    apply (halts_receive link buffer).bind
    intro received
    split
    · exact .ask fun _ => ih ..
    · exact .pure

theorem halts_exchange (link : Link) (code : UInt16) (payload buffer : Bytes) :
    (link.exchange code payload buffer).Halts := by
  apply (halts_send link code payload).bind
  intro outcome
  cases outcome with
  | error fault => exact .pure
  | ok => exact halts_awaitAnswer ..

theorem halts_locked {α : Type} {body : Link → Program (Link × α)}
    (halts : ∀ link, (body link).Halts) : (locked body).Halts :=
  .ask fun link => (halts link).bind fun _ => .ask fun _ => .pure

end Link

theorem halts_transact (code : UInt16) (payload buffer : Bytes) :
    (transact code payload buffer).Halts :=
  Link.halts_locked fun link => (link.halts_exchange code payload buffer).bind fun _ => .pure

theorem halts_tryRead (message : Message) : (tryRead message).Halts := by
  apply (halts_transact ..).bind
  intro result
  obtain ⟨outcome, payload⟩ := result
  cases outcome <;> exact .pure

namespace Vehicle

theorem halts_sendChannels (channels : ChannelOverride) : (sendChannels channels).Halts := by
  apply Link.halts_locked
  intro link
  apply (link.halts_send ..).bind
  intro outcome
  cases outcome with
  | error fault => exact .pure
  | ok =>
    apply (Link.halts_awaitAnswer ..).bind
    intro received
    cases received.outcome with
    | error fault => exact .ask fun _ => .pure
    | ok => exact .pure

theorem halts_commit (vehicle : Vehicle) (channels : Except Fault ChannelOverride) :
    (vehicle.commit channels).Halts := by
  cases channels with
  | error fault => exact .pure
  | ok channels =>
    apply (halts_sendChannels channels).bind
    intro outcome
    cases outcome <;> exact .pure

theorem halts_tryReset (vehicle : Vehicle) : vehicle.tryReset.Halts := by
  apply (halts_tryRead _).bind
  intro result
  obtain ⟨read, outcome⟩ := result
  cases outcome with
  | error fault => exact .pure
  | ok =>
    cases read with
    | rc received => exact vehicle.halts_commit _
    | _ => exact .pure

theorem halts_verdict (command : Log.Command) (result : Vehicle × Except Fault Unit) :
    (verdict command result).Halts := by
  obtain ⟨vehicle, outcome⟩ := result
  cases outcome with
  | ok => exact .pure
  | error fault => exact .ask fun _ => .pure

end Vehicle
end FlightLink
