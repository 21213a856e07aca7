import FlightLink.Proofs.AnswerReception
import FlightLink.Proofs.ProgramRecord

/-! The courses that sending and receiving may take, whatever the port does. A course is a record
and what comes of it. A reception that no port fault breaks off makes of its bytes what the grammar
makes of them, so an answer that was accepted was there as a frame. -/

namespace FlightLink

open Program (Abides Follows)

variable {allowed : Record → Bytes → Prop} {record : Record}

theorem Parses.of_leads {version : Version} {input rest : Bytes} {receipt : Receipt}
    (leads : Reception.Leads version .preamble input receipt rest) :
    Parses version input receipt rest := by
  obtain ⟨other, left, parses⟩ := Parses.total version input
  obtain ⟨rfl, rfl⟩ := leads.unique parses.leads
  exact parses

namespace Reception

variable {version : Version} {phase next : Reception} {chunk input : Bytes} {receipt : Receipt}

theorem whole_of_more (few : chunk.length ≤ phase.awaited version)
    (moved : phase.advance version (.ok chunk) = .more next) :
    chunk.length = phase.awaited version := by
  apply Nat.le_antisymm few
  apply Nat.le_of_not_lt
  intro short
  cases phase with
  | refusal => simp [advance, mayBeShort, complete] at moved
  | _ => simp [advance, mayBeShort, short] at moved

private theorem Leads.of_more (few : chunk.length ≤ phase.awaited version)
    (moved : phase.advance version (.ok chunk) = .more next)
    (later : Leads version next input receipt []) : Leads version phase (chunk ++ input) receipt [] := by
  have whole := whole_of_more few moved
  apply Leads.more
  · rw [← whole, List.take_left, moved]
  · rw [← whole, List.drop_left]
    exact later

private theorem Leads.of_done (few : chunk.length ≤ phase.awaited version)
    (moved : phase.advance version (.ok chunk) = .done receipt) :
    Leads version phase chunk receipt [] := by
  rw [← List.drop_of_length_le few]
  apply Leads.done
  rw [List.take_of_length_le few, moved]

end Reception

/-- The courses of receiving a frame: reads alone, up to a port fault or to what the grammar makes of
the bytes. -/
inductive TakesFrame (version : Version) : Record → Receipt → Prop
  | broken {reads fault payload} (mute : Record.written reads = []) :
      TakesFrame version reads ⟨.error (.port fault), payload⟩
  | parsed {reads receipt} (mute : Record.written reads = [])
      (parses : Parses version (Record.delivered reads) receipt []) : TakesFrame version reads receipt

theorem follows_receiveFrame (version : Version) (record : Record) :
    (receiveFrame version).Follows allowed (TakesFrame version) record := by
  apply Abides.iterate
    (fun phase after => ∃ reads : Record, after = record ++ reads ∧ reads.written = [] ∧
      ∀ input receipt, Reception.Leads version phase input receipt [] →
        Reception.Leads version .preamble (reads.delivered ++ input) receipt [])
    (fun receipt after => ∃ reads, after = record ++ reads ∧ TakesFrame version reads receipt)
  · exact ⟨[], by simp, rfl, fun _ _ => id⟩
  · intro phase before held
    obtain ⟨reads, rfl, mute, leads⟩ := held
    refine .ask nofun fun answer possible => .pure ?_
    have written : (reads ++ [⟨.read (phase.awaited version), answer⟩] : Record).written = [] := by
      simp [mute, Query.written]
    cases answer with
    | error fault => exact ⟨_, List.append_assoc .., .broken written⟩
    | ok chunk =>
      cases moved : phase.advance version (.ok chunk) with
      | more next =>
        refine ⟨_, List.append_assoc .., written, fun input receipt later => ?_⟩
        have lead := leads _ _ (.of_more possible moved later)
        simpa [Query.delivered] using lead
      | done receipt =>
        refine ⟨_, List.append_assoc .., .parsed written (.of_leads ?_)⟩
        have lead := leads _ _ (.of_done possible moved)
        simpa [Query.delivered] using lead
  · exact fun receipt after held => .pure held

namespace Link

inductive Sends (link : Link) (code : UInt16) (payload : Bytes) : Record → Except Fault Unit → Prop
  | closed : Sends link code payload [⟨.isOpen, false⟩] (.error .portClosed)
  | oversized (long : link.limit ≤ payload.length) :
      Sends link code payload [⟨.isOpen, true⟩] (.error (.payloadTooLarge payload.length link.limit))
  | unpacked {fault} (short : payload.length < link.limit)
      (failed : Frame.pack link.version code payload = .error fault) :
      Sends link code payload [⟨.isOpen, true⟩] (.error fault)
  | unwritten {frame fault} (short : payload.length < link.limit)
      (packed : Frame.pack link.version code payload = .ok frame) :
      Sends link code payload [⟨.isOpen, true⟩, ⟨.write frame, .error fault⟩] (.error (.port fault))
  | cut {frame written} (short : payload.length < link.limit)
      (packed : Frame.pack link.version code payload = .ok frame) (few : written < frame.length) :
      Sends link code payload [⟨.isOpen, true⟩, ⟨.write frame, .ok written⟩]
        (.error (.shortWrite written frame.length))
  | unflushed {frame written fault} (short : payload.length < link.limit)
      (packed : Frame.pack link.version code payload = .ok frame) (whole : frame.length ≤ written) :
      Sends link code payload
        [⟨.isOpen, true⟩, ⟨.write frame, .ok written⟩, ⟨.flush, .error fault⟩] (.error (.port fault))
  | sent {frame written} (short : payload.length < link.limit)
      (packed : Frame.pack link.version code payload = .ok frame) (whole : frame.length ≤ written) :
      Sends link code payload
        [⟨.isOpen, true⟩, ⟨.write frame, .ok written⟩, ⟨.flush, .ok ()⟩,
          ⟨.report (.sent code payload.length), ()⟩] (.ok ())

variable {link : Link} {code : UInt16} {payload buffer : Bytes}

theorem follows_send (fine : ∀ frame, Frame.pack link.version code payload = .ok frame →
      allowed (record ++ [⟨.isOpen, true⟩]) frame) :
    (link.send code payload).Follows allowed (link.Sends code payload) record := by
  refine .ask nofun fun opened _ => ?_
  cases opened with
  | false => exact .pure ⟨_, rfl, .closed⟩
  | true =>
    by_cases long : link.limit ≤ payload.length
    · simp only [long, if_true]
      exact .pure ⟨_, rfl, .oversized long⟩
    · have short := Nat.lt_of_not_le long
      simp only [long, if_false]
      cases packed : Frame.pack link.version code payload with
      | error fault => exact .pure ⟨_, rfl, .unpacked short packed⟩
      | ok frame =>
        refine .ask (fun bytes same => by cases same; exact fine frame packed) fun answer _ => ?_
        rw [List.append_assoc]
        cases answer with
        | error fault => exact .pure ⟨_, rfl, .unwritten short packed⟩
        | ok written =>
          change Abides _ _ (if written < frame.length then _ else _) _
          split
          next few => exact .pure ⟨_, rfl, .cut short packed few⟩
          next enough =>
            have whole := Nat.le_of_not_lt enough
            refine .ask nofun fun answer _ => ?_
            rw [List.append_assoc]
            cases answer with
            | error fault => exact .pure ⟨_, rfl, .unflushed short packed whole⟩
            | ok =>
              refine .ask nofun fun _ _ => ?_
              rw [List.append_assoc]
              exact .pure ⟨_, rfl, .sent short packed whole⟩

inductive Receives (link : Link) (buffer : Bytes) : Record → Received UInt16 → Prop
  | closed : Receives link buffer [⟨.isOpen, false⟩] ⟨link, .error .portClosed, buffer⟩
  | broken {reads : Record} {fault payload} (mute : reads.written = []) :
      Receives link buffer (⟨.isOpen, true⟩ :: reads) ⟨link, .error (.port fault), payload⟩
  | parsed {reads : Record} {receipt} (mute : reads.written = [])
      (parses : Parses link.version reads.delivered receipt []) :
      Receives link buffer (⟨.isOpen, true⟩ :: (reads ++ Record.told (link.remarks receipt)))
        (link.received receipt)

theorem follows_switch (link : Link) (version : Version) (record : Record) :
    (link.switch version).Follows allowed (fun said switched => switched = link.setVersion version ∧ said =
      Record.told (if version ≠ link.version then [.switched link.version version] else [])) record := by
  unfold switch
  split
  · exact .ask nofun fun _ _ => .pure ⟨_, rfl, rfl, rfl⟩
  · exact .pure ⟨[], (List.append_nil _).symm, rfl, rfl⟩

theorem follows_receive (link : Link) (buffer : Bytes) (record : Record) :
    (link.receive buffer).Follows allowed (link.Receives buffer) record := by
  refine .ask nofun fun opened _ => ?_
  cases opened with
  | false => exact .pure ⟨_, rfl, .closed⟩
  | true =>
    apply (follows_receiveFrame link.version _).bind
    intro receipt reads taken
    cases taken with
    | broken mute => exact .pure ⟨_, List.append_assoc .., .broken mute⟩
    | parsed mute parses =>
      have course := @Receives.parsed link buffer reads receipt mute parses
      obtain ⟨code, payload⟩ := receipt
      cases code with
      | ok code => exact .pure ⟨_, by simp [remarks, Record.told], course⟩
      | error fault =>
        cases fault with
        | versionMismatch expected announced =>
          refine .ask (fun bytes same => by cases same) fun done _ => ?_
          cases done
          apply (follows_switch link announced _).bind
          intro switched said changed
          obtain ⟨rfl, rfl⟩ := changed
          exact .pure ⟨_, by simp [remarks, Record.told], course⟩
        | _ => exact .pure ⟨_, by simp [remarks, Record.told], course⟩

/-- The courses of waiting for the answer to `code`, with that many answers to others to spare. -/
inductive Awaits (code : UInt16) : Nat → Link → Bytes → Record → Received Unit → Prop
  | taken {spare link buffer said received} (receives : Receives link buffer said received)
      (own : staleCode? code received.outcome = none) :
      Awaits code spare link buffer said (asAnswer code received)
  | spent {link buffer said received stale} (receives : Receives link buffer said received)
      (late : staleCode? code received.outcome = some stale) :
      Awaits code 0 link buffer said (asAnswer code received)
  | dropped {spare link buffer said received stale more result}
      (receives : Receives link buffer said received)
      (late : staleCode? code received.outcome = some stale)
      (later : Awaits code spare received.link received.payload more result) :
      Awaits code (spare + 1) link buffer (said ++ ⟨.report (.dropped stale code), ()⟩ :: more) result

theorem follows_awaitAnswer (code : UInt16) (spare : Nat) (link : Link) (buffer : Bytes)
    (record : Record) :
    (awaitAnswer code spare link buffer).Follows allowed (Awaits code spare link buffer) record := by
  induction spare generalizing link buffer record with
  | zero =>
    apply (follows_receive link buffer record).bind
    intro received said receives
    cases seen : staleCode? code received.outcome with
    | none => exact .pure ⟨said, rfl, .taken receives seen⟩
    | some stale => exact .pure ⟨said, rfl, .spent receives seen⟩
  | succ spare ih =>
    apply (follows_receive link buffer record).bind
    intro received said receives
    cases seen : staleCode? code received.outcome with
    | none => exact .pure ⟨said, rfl, .taken receives seen⟩
    | some stale =>
      refine .ask nofun fun _ _ => ?_
      rw [List.append_assoc]
      apply (ih received.link received.payload _).behind
      intro result more later
      rw [List.append_assoc]
      exact .dropped receives seen later

/-- Late answers to other requests, each read by itself, and then the answer to `code`. -/
inductive Heard (version : Version) (code : UInt16) (payload : Bytes) : Bytes → Prop
  | answer {input} (parses : Parses version input ⟨.ok code, payload⟩ []) :
      Heard version code payload input
  | late {input more receipt stale} (parses : Parses version input receipt [])
      (late : staleCode? code receipt.code = some stale) (later : Heard version code payload more) :
      Heard version code payload (input ++ more)

/-- A frame that comes out of a reception was in its bytes, whether it is an answer or a refusal. -/
theorem Receives.parses {said : Record} {received : Received UInt16}
    (receives : link.Receives buffer said received)
    (frame : ∃ code, received.outcome = .ok code ∨ received.outcome = .error (.rejected code)) :
    received.link = link ∧
      Parses link.version said.delivered ⟨received.outcome, received.payload⟩ [] := by
  obtain ⟨code, made⟩ := frame
  cases receives with
  | closed => simp at made
  | broken => simp at made
  | @parsed reads receipt _ parses =>
    have all : Record.delivered (⟨.isOpen, true⟩ :: (reads ++ Record.told (link.remarks receipt))) =
        reads.delivered := by
      simp [Query.delivered]
    rw [all]
    refine ⟨?_, parses⟩
    obtain made | made := made <;> simp only [received] at made ⊢ <;> rw [made]

theorem exists_of_staleCode? {outcome : Except Fault UInt16} {stale : UInt16}
    (late : staleCode? code outcome = some stale) :
    ∃ code, outcome = .ok code ∨ outcome = .error (.rejected code) := by
  cases outcome with
  | ok other => exact ⟨other, .inl rfl⟩
  | error fault =>
    cases fault with
    | rejected other => exact ⟨other, .inr rfl⟩
    | _ => cases late

theorem asAnswer_of_none {received : Received UInt16}
    (own : staleCode? code received.outcome = none) :
    asAnswer code received = ⟨received.link, received.outcome.map fun _ => (), received.payload⟩ := by
  rw [asAnswer, own]

theorem asAnswer_of_some {received : Received UInt16} {stale : UInt16}
    (late : staleCode? code received.outcome = some stale) :
    asAnswer code received = ⟨received.link, .error (.codeMismatch code stale), received.payload⟩ := by
  rw [asAnswer, late]

theorem Awaits.heard {spare : Nat} {said : Record} {received : Received Unit}
    (awaits : Awaits code spare link buffer said received) (passed : received.outcome = .ok ()) :
    received.link = link ∧ Heard link.version code received.payload said.delivered := by
  -- Induction on the frames that were dropped, none of which makes the link change over.
  induction awaits with
  | @taken _ link _ _ received receives own =>
    rw [asAnswer_of_none own] at passed ⊢
    cases outcome : received.outcome with
    | error fault =>
      rw [outcome] at passed
      cases passed
    | ok other =>
      obtain ⟨same, parses⟩ := receives.parses ⟨other, .inl outcome⟩
      rw [outcome] at own parses
      have answers : other = code := by simpa [staleCode?] using own
      exact ⟨same, .answer (answers ▸ parses)⟩
  | spent _ late =>
    rw [asAnswer_of_some late] at passed
    cases passed
  | dropped receives late _ ih =>
    obtain ⟨same, parses⟩ := receives.parses (exists_of_staleCode? late)
    rw [same] at ih
    obtain ⟨unchanged, heard⟩ := ih passed
    refine ⟨unchanged, ?_⟩
    rw [Record.delivered_append, Record.delivered_cons]
    exact .late parses late heard

theorem Receives.mute {said : Record} {received : Received UInt16}
    (receives : link.Receives buffer said received) : said.written = [] := by
  cases receives with
  | closed => rfl
  | broken mute => simpa [Query.written] using mute
  | parsed mute => simpa [Query.written] using mute

theorem Awaits.mute {spare : Nat} {said : Record} {received : Received Unit}
    (awaits : Awaits code spare link buffer said received) : said.written = [] := by
  induction awaits with
  | taken receives | spent receives => exact receives.mute
  | dropped receives _ _ ih => simp [receives.mute, ih, Query.written]

theorem Sends.of_ok {said : Record} (sends : link.Sends code payload said (.ok ())) :
    ∃ frame written, Frame.pack link.version code payload = .ok frame ∧ frame.length ≤ written ∧
      said = [⟨.isOpen, true⟩, ⟨.write frame, .ok written⟩, ⟨.flush, .ok ()⟩,
        ⟨.report (.sent code payload.length), ()⟩] := by
  cases sends with
  | sent _ packed whole => exact ⟨_, _, packed, whole, rfl⟩

inductive Exchanges (link : Link) (code : UInt16) (payload buffer : Bytes) :
    Record → Received Unit → Prop
  | unsent {said fault} (sends : Sends link code payload said (.error fault)) :
      Exchanges link code payload buffer said ⟨link, .error fault, buffer⟩
  | answered {said heard received} (sends : Sends link code payload said (.ok ()))
      (awaits : Awaits code (patience - 1) link buffer heard received) :
      Exchanges link code payload buffer (said ++ heard) received

theorem follows_exchange (buffer : Bytes)
    (fine : ∀ frame, Frame.pack link.version code payload = .ok frame →
      allowed (record ++ [⟨.isOpen, true⟩]) frame) :
    (link.exchange code payload buffer).Follows allowed (link.Exchanges code payload buffer) record := by
  apply (follows_send fine).bind
  intro outcome said sends
  cases outcome with
  | error fault => exact .pure ⟨said, rfl, .unsent sends⟩
  | ok =>
    apply (follows_awaitAnswer code (patience - 1) link buffer _).behind
    exact fun received heard awaits => .answered sends awaits

theorem abides_locked {α : Type} {wanted : α → Record → Prop} {body : Link → Program (Link × α)}
    (abides : ∀ link, Abides allowed
      (fun result after => wanted result.2 (after ++ [⟨.release result.1, ()⟩])) (body link)
      (record ++ [⟨.acquire, link⟩])) :
    Abides allowed wanted (locked body) record := by
  refine .ask nofun fun link _ => ?_
  apply (abides link).bind
  intro result after done
  exact .ask nofun fun _ _ => .pure done

end Link

inductive Transacts (code : UInt16) (payload buffer : Bytes) :
    Record → Except Fault Unit × Bytes → Prop
  | locked {link : Link} {said received}
      (exchanges : link.Exchanges code payload buffer said received) :
      Transacts code payload buffer (⟨.acquire, link⟩ :: (said ++ [⟨.release received.link, ()⟩]))
        (received.outcome, received.payload)

theorem follows_transact {code : UInt16} {payload : Bytes} (buffer : Bytes)
    (fine : ∀ (link : Link) frame, Frame.pack link.version code payload = .ok frame →
      allowed (record ++ [⟨.acquire, link⟩, ⟨.isOpen, true⟩]) frame) :
    (transact code payload buffer).Follows allowed (Transacts code payload buffer) record := by
  apply Link.abides_locked
  intro link
  apply (Link.follows_exchange buffer fun frame packed => ?_).bind
  · exact fun received said exchanges => .pure ⟨_, by simp, .locked exchanges⟩
  · rw [List.append_assoc]
    exact fine link frame packed

/-- The last thing written asks for `code`, and what was read since holds the answer to it. -/
inductive Record.Learns (code : UInt16) (payload : Bytes) : Record → Prop
  | answered {before since : Record} {version : Version} {request : Bytes} {written : Nat}
      (packed : Frame.pack version code [] = .ok request) (whole : request.length ≤ written)
      (mute : since.written = []) (heard : Link.Heard version code payload since.delivered) :
      Learns code payload (before ++ ⟨.write request, .ok written⟩ :: since)

theorem Record.Learns.append {code : UInt16} {payload : Bytes} {more : Record}
    (learns : record.Learns code payload) (mute : more.written = []) (deaf : more.delivered = []) :
    (record ++ more).Learns code payload := by
  cases learns with
  | answered packed whole silent heard =>
    rw [List.append_assoc, List.cons_append]
    apply Record.Learns.answered packed whole
    · rw [Record.written_append, silent, mute, List.append_nil]
    · rwa [Record.delivered_append, deaf, List.append_nil]

theorem Transacts.learns {code : UInt16} {payload buffer : Bytes} {said : Record}
    (transacts : Transacts code [] buffer said (.ok (), payload)) (record : Record) :
    (record ++ said).Learns code payload := by
  generalize same : (Except.ok (), payload) = result at transacts
  cases transacts with
  | @locked link _ received exchanges =>
    obtain ⟨passed, rfl⟩ := Prod.mk.inj same
    cases exchanges with
    | unsent => cases passed
    | @answered _ heard _ sends awaits =>
      obtain ⟨frame, written, packed, whole, rfl⟩ := sends.of_ok
      obtain ⟨-, answer⟩ := awaits.heard passed.symm
      have learns := @Record.Learns.answered code received.payload
        (record ++ [⟨.acquire, link⟩, ⟨.isOpen, true⟩])
        (⟨.flush, .ok ()⟩ :: ⟨.report (.sent code 0), ()⟩ :: (heard ++ [⟨.release received.link, ()⟩]))
        link.version frame written packed whole (by simp [Query.written, awaits.mute])
        (by simpa [Query.delivered] using answer)
      simpa using learns

inductive Reads (message : Message) : Record → Message × Except Fault Unit → Prop
  | failed {said fault payload}
      (transacts : Transacts message.code.number [] [] said (.error fault, payload)) :
      Reads message said (message, .error fault)
  | refreshed {said payload}
      (transacts : Transacts message.code.number [] [] said (.ok (), payload)) :
      Reads message said (message.refresh payload)

theorem follows_tryRead (message : Message)
    (fine : ∀ (link : Link) frame, Frame.pack link.version message.code.number [] = .ok frame →
      allowed (record ++ [⟨.acquire, link⟩, ⟨.isOpen, true⟩]) frame) :
    (tryRead message).Follows allowed (Reads message) record := by
  apply (follows_transact [] fine).bind
  intro result said transacts
  obtain ⟨outcome, payload⟩ := result
  cases outcome with
  | error fault => exact .pure ⟨said, rfl, .failed transacts⟩
  | ok => exact .pure ⟨said, rfl, .refreshed transacts⟩

theorem Reads.of_runs {message : Message} {before after : Record} {result : Message × Except Fault Unit}
    (runs : (tryRead message).Runs Record.anything before result after) :
    ∃ said, after = before ++ said ∧ Reads message said result := by
  have follows : (tryRead message).Follows (fun _ _ => True) (Reads message) before :=
    follows_tryRead message fun _ _ _ => trivial
  exact follows.of_runs runs

end FlightLink
