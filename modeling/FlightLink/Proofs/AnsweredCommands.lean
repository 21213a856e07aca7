import FlightLink.Proofs.AnswerReception
import FlightLink.Proofs.ProgramRecord
import FlightLink.Vehicle

/-! Commands on a line whose device answers. From an idle line, a request for a message and a
command are each over with one answer, and the line is idle again. So each step of setting a vehicle
up passes at the first attempt. -/

namespace FlightLink

structure Line.Idle (link : Link) (line : Line) : Prop where
  nothing : line.inbound = []
  same : line.link = link

theorem Line.Idle.note {link : Link} {line : Line} (idle : line.Idle link) (act : Act) :
    (line.note act).Idle link :=
  ⟨idle.nothing, idle.same⟩

namespace Link

variable {respond : Responder} {line : Line} {link : Link} {code : UInt16} {payload : Bytes}
  {admitted : Frame → Prop}

theorem Coherent.takes_ask (coherent : link.Coherent) (code : Code) : link.Takes code.number [] := by
  apply coherent.takes
  · cases link.version <;> decide
  · cases code <;> exact fun _ => by decide

theorem ends_send_answered (takes : link.Takes code payload)
    (answers : respond.Answers link.version code payload admitted) (nothing : line.inbound = []) :
    (link.send code payload).Ends (Line.serves respond)
      (fun outcome after => outcome = .ok () ∧ ∃ answer : Frame, answer.Fits link.version ∧
        answer.code = code ∧ admitted answer ∧ after.inbound = answer.wire link.version) line := by
  apply (ends_send takes answers.responds).weaken
  intro outcome after ended
  obtain ⟨rfl, reply, responded, rfl⟩ := ended
  obtain ⟨answer, fits, own, admits, rfl⟩ := answers.oneFrame reply responded
  refine ⟨rfl, answer, fits, own, admits, ?_⟩
  change line.inbound ++ answer.wire link.version = _
  rw [nothing, List.nil_append]

theorem ends_exchange_answered (takes : link.Takes code payload)
    (answers : respond.Answers link.version code payload admitted) (nothing : line.inbound = [])
    (buffer : Bytes) :
    (link.exchange code payload buffer).Ends (Line.serves respond)
      (fun received after => (∃ answer : Frame, admitted answer ∧
        received = ⟨link, answer.verdict.1, answer.verdict.2⟩) ∧ after.inbound = []) line := by
  apply (ends_send_answered takes answers nothing).bind
  intro outcome after ended
  obtain ⟨rfl, answer, fits, own, admits, waiting⟩ := ended
  apply (ends_receiveAnswer fits own waiting buffer).weaken
  intro received after ended
  obtain ⟨rfl, took⟩ := ended
  exact ⟨⟨answer, admits, rfl⟩, took.inbound⟩

end Link

variable {respond : Responder} {line : Line} {link : Link}

theorem ends_transact_answered {code : UInt16} {payload : Bytes} {admitted : Frame → Prop}
    (takes : link.Takes code payload) (answers : respond.Answers link.version code payload admitted)
    (idle : line.Idle link) (buffer : Bytes) :
    (transact code payload buffer).Ends (Line.serves respond)
      (fun result after => (∃ answer : Frame, admitted answer ∧ result = answer.verdict) ∧
        after.Idle link) line := by
  obtain ⟨nothing, rfl⟩ := idle
  apply Line.ends_locked
  apply (Link.ends_exchange_answered takes answers nothing buffer).bind
  intro received after ended
  obtain ⟨⟨answer, admits, rfl⟩, left⟩ := ended
  exact .pure ⟨⟨answer, admits, rfl⟩, left, rfl⟩

/-- The device answers requests for the message with payloads that carry `read`. -/
def Responder.Tells (respond : Responder) (version : Version) (message read : Message) : Prop :=
  respond.Answers version message.code.number [] fun answer =>
    answer.direction ≠ Frame.refusal ∧ message.kind.decode answer.payload = .ok read

theorem ends_tryRead {message read : Message} (coherent : link.Coherent)
    (tells : respond.Tells link.version message read) (idle : line.Idle link) :
    (tryRead message).Ends (Line.serves respond)
      (fun result after => result = (read, .ok ()) ∧ after.Idle link) line := by
  apply (ends_transact_answered (coherent.takes_ask message.code) tells idle []).bind
  intro result after ended
  obtain ⟨⟨answer, ⟨normal, decoded⟩, rfl⟩, idle⟩ := ended
  rw [Frame.verdict, if_neg normal]
  refine .pure ⟨?_, idle⟩
  rw [Message.refresh, decoded]

namespace Vehicle

variable {vehicle : Vehicle}

/-- The link takes a command, and the device answers it in some way. -/
def Commandable (respond : Responder) (link : Link) (channels : ChannelOverride) : Prop :=
  link.Takes Code.setRawRc.number channels.encode ∧
    respond.Answers link.version Code.setRawRc.number channels.encode fun _ => True

theorem ends_sendChannels {channels : ChannelOverride} (able : Commandable respond link channels)
    (idle : line.Idle link) :
    (sendChannels channels).Ends (Line.serves respond)
      (fun outcome after => outcome = .ok () ∧ after.Idle link) line := by
  obtain ⟨takes, answers⟩ := able
  obtain ⟨nothing, rfl⟩ := idle
  apply Line.ends_locked
  apply (Link.ends_send_answered takes answers nothing).bind
  intro outcome after ended
  obtain ⟨rfl, answer, fits, own, -, waiting⟩ := ended
  apply (Link.ends_receiveAnswer fits own waiting []).bind
  intro received after ended
  obtain ⟨rfl, took⟩ := ended
  cases answer.verdict.1 with
  | error fault => exact Line.ends_report (.pure ⟨rfl, took.inbound, rfl⟩)
  | ok => exact .pure ⟨rfl, took.inbound, rfl⟩

theorem ends_commit {channels : ChannelOverride} (able : Commandable respond link channels)
    (idle : line.Idle link) :
    (vehicle.commit (.ok channels)).Ends (Line.serves respond)
      (fun result after => result = ({ vehicle with channels }, .ok ()) ∧ after.Idle link) line := by
  apply (ends_sendChannels able idle).bind
  intro outcome after ended
  obtain ⟨rfl, idle⟩ := ended
  exact .pure ⟨rfl, idle⟩

theorem ends_tryReset {received : ReceiverChannels} {channels : ChannelOverride}
    (coherent : link.Coherent) (tells : respond.Tells link.version (.rc .initial) (.rc received))
    (placed : safe vehicle.map received.values.length = .ok channels)
    (able : Commandable respond link channels) (idle : line.Idle link) :
    vehicle.tryReset.Ends (Line.serves respond)
      (fun result after => result = ({ vehicle with channels }, .ok ()) ∧ after.Idle link) line := by
  apply (ends_tryRead coherent tells idle).bind
  intro result after ended
  obtain ⟨rfl, idle⟩ := ended
  change (vehicle.commit (safe vehicle.map received.values.length)).Ends _ _ _
  rw [placed]
  exact ends_commit able idle

theorem ends_tryRegisterMap {map : ChannelMap} (coherent : link.Coherent)
    (tells : respond.Tells link.version (.rxMap .initial) (.rxMap map)) (idle : line.Idle link) :
    vehicle.tryRegisterMap.Ends (Line.serves respond)
      (fun result after => result = ({ vehicle with map }, .ok ()) ∧ after.Idle link) line := by
  apply (ends_tryRead coherent tells idle).bind
  intro result after ended
  obtain ⟨rfl, idle⟩ := ended
  exact .pure ⟨rfl, idle⟩

theorem ends_persist {σ : Type} {answers : Surroundings σ} {state : σ} {pause : Duration}
    {unavailable : Fault → Duration → Log.Event}
    {attempt : Vehicle → Program (Vehicle × Except Fault Unit)} {wanted : Vehicle → σ → Prop}
    (passes : (attempt vehicle).Ends answers
      (fun result after => result.2 = .ok () ∧ wanted result.1 after) state) :
    (persist pause unavailable attempt vehicle).Ends answers wanted state := by
  apply Program.Ends.iterate
  rw [Program.unfold, Program.bind_eq, Program.bind_assoc]
  apply passes.bind
  intro result after ended
  obtain ⟨vehicle, outcome⟩ := result
  obtain ⟨rfl, done⟩ := ended
  exact .pure done

theorem ends_start {options : Options} {map : ChannelMap} {received : ReceiverChannels}
    {channels : ChannelOverride} (coherent : link.Coherent)
    (maps : respond.Tells link.version (.rxMap .initial) (.rxMap map))
    (reads : respond.Tells link.version (.rc .initial) (.rc received))
    (placed : safe map received.values.length = .ok channels)
    (able : Commandable respond link channels) (idle : line.Idle link) :
    (start options).Ends (Line.serves respond)
      (fun vehicle after => vehicle = ⟨map, channels, [], options⟩ ∧ after.Idle link) line := by
  have registers : (persist options.retryInterval .mapUnavailable tryRegisterMap
      ⟨.initial, .initial, [], options⟩).Ends (Line.serves respond)
      (fun vehicle after => vehicle = ⟨map, .initial, [], options⟩ ∧ after.Idle link) line := by
    apply ends_persist
    apply (ends_tryRegisterMap coherent maps idle).weaken
    intro result after ended
    obtain ⟨rfl, idle⟩ := ended
    exact ⟨rfl, rfl, idle⟩
  apply registers.bind
  intro vehicle after ended
  obtain ⟨rfl, idle⟩ := ended
  apply Line.ends_report
  have resets (line : Line) (idle : line.Idle link) :
      (persist options.retryInterval .resetUnavailable tryReset
        ⟨map, .initial, [], options⟩).Ends (Line.serves respond)
        (fun vehicle after => vehicle = ⟨map, channels, [], options⟩ ∧ after.Idle link) line := by
    apply ends_persist
    apply (ends_tryReset coherent reads placed able idle).weaken
    intro result after ended
    obtain ⟨rfl, idle⟩ := ended
    exact ⟨rfl, rfl, idle⟩
  apply (resets _ (idle.note _)).bind
  intro vehicle after ended
  obtain ⟨rfl, idle⟩ := ended
  exact Line.ends_report (.pure ⟨rfl, idle.note _⟩)

end Vehicle

theorem Line.possible {request : Request} {answer : request.Answer} {before after : Line}
    (answered : Line.serves respond request before answer after) : request.Possible answer := by
  cases request with
  | read most =>
    obtain ⟨rfl, -⟩ := answered
    exact List.length_take_le ..
  | _ => trivial

theorem Line.runs_anything {α : Type} {program : Program α} {before after : Line} {result : α}
    (runs : program.Runs (Line.serves respond) before result after) (record : Record) :
    ∃ later, program.Runs Record.anything record result later := by
  induction runs generalizing record with
  | pure => exact ⟨record, .pure⟩
  | @ask request _ _ _ _ answer _ answered _ ih =>
    obtain ⟨later, rest⟩ := ih (record ++ [⟨request, answer⟩])
    exact ⟨later, .ask ⟨Line.possible answered, rfl⟩ rest⟩
  | iterate _ ih =>
    obtain ⟨later, round⟩ := ih record
    exact ⟨later, .iterate round⟩

end FlightLink
