import FlightLink.Call
import FlightLink.Proofs.AnsweredCommands
import FlightLink.Proofs.FiniteSupply
import FlightLink.Proofs.FrameAccounting
import FlightLink.Proofs.PortTraffic

/-! Sequences of calls on a link, over a port that may do anything. What a call does falls
into two parts at most: it sends a request, and if that passed it receives. Sending writes
one frame, or nothing where it is refused; receiving writes nothing. The version is changed
by whoever switches it, and by an announcement of the other one. Each part asks for itself
whether the port is open, so a call can find it closed when its request is out already. -/

namespace FlightLink

/-- The faults that keep a request from the port. -/
inductive Fault.Withholds : Fault → Prop
  | closed : Withholds .portClosed
  | oversized {length limit : Nat} : Withholds (.payloadTooLarge length limit)
  | wide : Withholds (.unsupported .wideCode)

namespace Link

def behind {α : Type} (link : Link) : Except Fault α → Link
  | .error (.versionMismatch _ announced) => link.setVersion announced
  | _ => link

structure Posts (link : Link) (code : UInt16) (payload : Bytes) (sent : Record)
    (outcome : Except Fault Unit) : Prop where
  hands : sent.Hands fun frame =>
    Frame.pack link.version code payload = .ok frame ∧ payload.length < link.limit
  passed : outcome = .ok () ↔ ∃ frame written, Frame.pack link.version code payload = .ok frame ∧
    ⟨.write frame, .ok written⟩ ∈ sent ∧ frame.length ≤ written ∧ ⟨.flush, .ok ()⟩ ∈ sent
  withheld : (∃ fault : Fault, fault.Withholds ∧ outcome = .error fault) ↔ sent.written = []
  closed : outcome = .error .portClosed ↔ ⟨.isOpen, false⟩ ∈ sent
  oversized : ∀ length limit, outcome = .error (.payloadTooLarge length limit) ↔
    ⟨.isOpen, true⟩ ∈ sent ∧ length = payload.length ∧ limit = link.limit ∧ limit ≤ length
  wide : outcome = .error (.unsupported .wideCode) ↔ ⟨.isOpen, true⟩ ∈ sent ∧
    payload.length < link.limit ∧ link.version = .v1 ∧ 256 ≤ code.toNat
  calm : ∀ expected announced, outcome ≠ .error (.versionMismatch expected announced)

structure Listens {α : Type} (link : Link) (heard : Record)
    (received : Received α) : Prop where
  mute : heard.written = []
  behind : received.link = link.behind received.outcome
  announced : ∀ expected announced, received.outcome = .error (.versionMismatch expected announced) →
    expected = link.version ∧ announced = link.version.other ∧
      [Frame.preamble, announced.marker] <:+ heard.delivered
  granted : ∀ fault : Fault, fault.Withholds → received.outcome = .error fault → fault = .portClosed

variable {α β : Type} {link : Link} {code : UInt16} {payload buffer : Bytes} {sent heard : Record}

theorem wide_of_unpacked {fault : Fault} (coherent : link.Coherent) (short : payload.length < link.limit)
    (failed : Frame.pack link.version code payload = .error fault) :
    fault = .unsupported .wideCode ∧ link.version = .v1 ∧ 256 ≤ code.toNat := by
  have room : ¬ link.version.maxPayload < payload.length :=
    Nat.not_lt.mpr (Nat.le_of_lt (Nat.lt_of_lt_of_eq short coherent))
  rw [Frame.pack, if_neg room] at failed
  split at failed
  next wide =>
    cases failed
    exact ⟨rfl, wide⟩
  next => cases failed

private theorem narrow_of_packed {frame : Bytes}
    (packed : Frame.pack link.version code payload = .ok frame) :
    ¬ (link.version = .v1 ∧ 256 ≤ code.toNat) := by
  obtain ⟨fits, -⟩ := Frame.pack_eq_ok_iff.mp packed
  exact fun wide => absurd (fits.2 wide.1) (Nat.not_lt.mpr wide.2)

theorem Sends.posts {outcome : Except Fault Unit} (coherent : link.Coherent)
    (sends : link.Sends code payload sent outcome) : link.Posts code payload sent outcome where
  hands := by
    cases sends with
    | closed | oversized | unpacked => exact .inl rfl
    | unwritten short packed | cut short packed | unflushed short packed | sent short packed =>
      exact .inr ⟨_, ⟨packed, short⟩, rfl⟩
  passed := by
    constructor
    · rintro rfl
      obtain ⟨frame, written, packed, whole, rfl⟩ := sends.of_ok
      exact ⟨frame, written, packed, by simp, whole, by simp⟩
    · intro held
      obtain ⟨_, _, _, _, _, flushed⟩ := held
      cases outcome with
      | ok => rfl
      | error fault =>
        have unflushed := List.any_eq_false.mp sends.unflushed_of_error _ flushed
        exact absurd rfl unflushed
  withheld := by
    cases sends with
    | closed => exact ⟨fun _ => rfl, fun _ => ⟨_, .closed, rfl⟩⟩
    | oversized => exact ⟨fun _ => rfl, fun _ => ⟨_, .oversized, rfl⟩⟩
    | unpacked short failed =>
      obtain ⟨rfl, -⟩ := wide_of_unpacked coherent short failed
      exact ⟨fun _ => rfl, fun _ => ⟨_, .wide, rfl⟩⟩
    | _ =>
      refine ⟨fun held => ?_, nofun⟩
      obtain ⟨_, withholds, same⟩ := held
      cases same <;> cases withholds
  closed := by
    cases sends with
    | closed => exact ⟨fun _ => List.mem_cons_self .., fun _ => rfl⟩
    | unpacked short failed =>
      obtain ⟨rfl, -⟩ := wide_of_unpacked coherent short failed
      exact ⟨nofun, nofun⟩
    | _ => exact ⟨nofun, nofun⟩
  oversized length limit := by
    have small (short : payload.length < link.limit) :
        ¬ (⟨.isOpen, true⟩ ∈ sent ∧ length = payload.length ∧ limit = link.limit ∧ limit ≤ length) := by
      rintro ⟨-, rfl, rfl, long⟩
      exact absurd short (Nat.not_lt.mpr long)
    cases sends with
    | closed => exact ⟨nofun, fun held => nomatch held.1⟩
    | oversized long =>
      constructor
      · intro same
        cases same
        exact ⟨List.mem_cons_self .., rfl, rfl, long⟩
      · rintro ⟨-, rfl, rfl, -⟩
        rfl
    | unpacked short failed =>
      obtain ⟨rfl, -⟩ := wide_of_unpacked coherent short failed
      exact ⟨nofun, fun held => absurd held (small short)⟩
    | unwritten short | cut short | unflushed short | sent short =>
      exact ⟨nofun, fun held => absurd held (small short)⟩
  wide := by
    cases sends with
    | closed => exact ⟨nofun, fun held => nomatch held.1⟩
    | oversized long => exact ⟨nofun, fun held => absurd held.2.1 (Nat.not_lt.mpr long)⟩
    | unpacked short failed =>
      obtain ⟨rfl, wide⟩ := wide_of_unpacked coherent short failed
      exact ⟨fun _ => ⟨List.mem_cons_self .., short, wide⟩, fun _ => rfl⟩
    | unwritten _ packed | cut _ packed | unflushed _ packed | sent _ packed =>
      exact ⟨nofun, fun held => absurd held.2.2 (narrow_of_packed packed)⟩
  calm expected announced := by
    cases sends with
    | unpacked short failed =>
      obtain ⟨rfl, -⟩ := wide_of_unpacked coherent short failed
      exact nofun
    | _ => exact nofun

private theorem behind_map (outcome : Except Fault α) (made : α → β) :
    link.behind (outcome.map made) = link.behind outcome := by
  cases outcome with
  | ok => rfl
  | error fault => cases fault <;> rfl

theorem error_of_map {outcome : Except Fault α} {made : α → β} {fault : Fault}
    (same : outcome.map made = .error fault) : outcome = .error fault := by
  cases outcome with
  | ok => cases same
  | error => exact congrArg _ (Except.error.inj same)

theorem Listens.map {received : Received α} (listens : link.Listens heard received)
    (made : α → β) :
    link.Listens heard ⟨received.link, received.outcome.map made, received.payload⟩ where
  mute := listens.mute
  behind := listens.behind.trans (behind_map ..).symm
  announced expected announced same := listens.announced expected announced (error_of_map same)
  granted fault withholds same := listens.granted fault withholds (error_of_map same)

private theorem granted_of_parses {version : Version} {input rest : Bytes} {receipt : Receipt}
    {fault : Fault} (parses : Parses version input receipt rest) (withholds : fault.Withholds) :
    receipt.code ≠ .error fault := by
  intro same
  have possible := parses.accounts.nothingElse
  rw [same] at possible
  cases withholds <;> simp at possible

theorem Receives.listens {received : Received UInt16} (receives : link.Receives buffer heard received) :
    link.Listens heard received := by
  cases receives with
  | closed =>
    refine ⟨rfl, rfl, nofun, fun fault _ same => ?_⟩
    exact (Except.error.inj same).symm
  | broken mute =>
    refine ⟨by simpa [Query.written] using mute, rfl, nofun, fun fault withholds same => ?_⟩
    cases same
    cases withholds
  | @parsed reads receipt mute parses =>
    have accounts := parses.accounts
    refine ⟨by simpa [Query.written] using mute, ?_, fun expected announced same => ?_,
      fun fault withholds same => ?_⟩
    · simp only [received, Link.behind]
      split <;> simp_all
    · obtain ⟨rfl, rfl, noise, -, split⟩ := (accounts.foreign expected announced []).mp ⟨same, rfl⟩
      refine ⟨rfl, rfl, noise, ?_⟩
      simp [Query.delivered, split]
    · exact absurd same (granted_of_parses parses withholds)

theorem Receives.of_closed {received : Received UInt16} (receives : link.Receives buffer heard received)
    (closed : received.outcome = .error .portClosed) :
    heard = [⟨.isOpen, false⟩] ∧ received = ⟨link, .error .portClosed, buffer⟩ := by
  cases receives with
  | closed => exact ⟨rfl, rfl⟩
  | broken => cases closed
  | parsed _ parses => exact absurd closed (granted_of_parses parses .closed)

theorem Receives.atOnce {received : Received UInt16} (receives : link.Receives buffer heard received)
    (first : heard.head? = some ⟨.isOpen, false⟩) :
    heard = [⟨.isOpen, false⟩] ∧ received = ⟨link, .error .portClosed, buffer⟩ := by
  cases receives with
  | closed => exact ⟨rfl, rfl⟩
  | broken | parsed => cases first

/-- Answers to others were received and dropped, and the last of them is what the buffer holds. -/
inductive Drops (link : Link) (code : UInt16) : Bytes → Record → Bytes → Prop
  | nil {old} : Drops link code old [] old
  | cons {old said received stale more last} (receives : link.Receives old said received)
      (late : staleCode? code received.outcome = some stale)
      (later : Drops link code received.payload more last) :
      Drops link code old (said ++ ⟨.report (.dropped stale code), ()⟩ :: more) last

theorem Awaits.listens {spare : Nat} {received : Received Unit}
    (awaits : Awaits code spare link buffer heard received) : link.Listens heard received := by
  induction awaits with
  | taken receives own =>
    rw [asAnswer_of_none own]
    exact receives.listens.map _
  | spent receives late =>
    obtain ⟨code, frame⟩ := exists_of_staleCode? late
    obtain ⟨same, -⟩ := receives.parses ⟨code, frame⟩
    rw [asAnswer_of_some late]
    refine ⟨receives.listens.mute, same, nofun, fun fault withholds same => ?_⟩
    cases same
    cases withholds
  | @dropped _ link buffer said received stale more result receives late later ih =>
    obtain ⟨code, frame⟩ := exists_of_staleCode? late
    obtain ⟨same, -⟩ := receives.parses ⟨code, frame⟩
    rw [same] at ih
    refine ⟨by simp [receives.listens.mute, ih.mute, Query.written], ih.behind,
      fun expected announced made => ?_, ih.granted⟩
    obtain ⟨first, second, suffix⟩ := ih.announced expected announced made
    refine ⟨first, second, suffix.trans ?_⟩
    simp [Query.delivered]

theorem Awaits.of_closed {spare : Nat} {received : Received Unit}
    (awaits : Awaits code spare link buffer heard received)
    (closed : received.outcome = .error .portClosed) :
    ∃ dropped, heard = dropped ++ [⟨.isOpen, false⟩] ∧ received.link = link ∧
      link.Drops code buffer dropped received.payload := by
  induction awaits with
  | taken receives own =>
    rw [asAnswer_of_none own] at closed ⊢
    obtain ⟨rfl, rfl⟩ := receives.of_closed (error_of_map closed)
    exact ⟨[], rfl, rfl, .nil⟩
  | spent receives late =>
    rw [asAnswer_of_some late] at closed
    cases closed
  | dropped receives late later ih =>
    obtain ⟨_, frame⟩ := exists_of_staleCode? late
    obtain ⟨same, -⟩ := receives.parses ⟨_, frame⟩
    obtain ⟨dropped, rfl, unchanged, drops⟩ := ih closed
    rw [same] at unchanged drops
    exact ⟨_, by simp, unchanged, .cons receives late drops⟩

theorem Awaits.atOnce {spare : Nat} {received : Received Unit}
    (awaits : Awaits code spare link buffer heard received)
    (first : heard.head? = some ⟨.isOpen, false⟩) :
    heard = [⟨.isOpen, false⟩] ∧ received = ⟨link, .error .portClosed, buffer⟩ := by
  cases awaits with
  | taken receives own =>
    obtain ⟨rfl, rfl⟩ := receives.atOnce first
    exact ⟨rfl, rfl⟩
  | spent receives late =>
    obtain ⟨rfl, rfl⟩ := receives.atOnce first
    cases late
  | dropped receives late =>
    cases receives with
    | closed => cases late
    | broken | parsed => cases first

inductive Requests (link : Link) (code : UInt16) (payload : Bytes) : Record → Received UInt16 → Prop
  | unsent {said fault} (sends : Sends link code payload said (.error fault)) :
      Requests link code payload said ⟨link, .error fault, []⟩
  | answered {said heard received} (sends : Sends link code payload said (.ok ()))
      (receives : Receives link [] heard received) : Requests link code payload (said ++ heard) received

theorem follows_request (link : Link) (code : UInt16) (payload : Bytes) (record : Record) :
    (link.request code payload).Follows (fun _ _ => True) (link.Requests code payload) record := by
  apply (follows_send fun _ _ => trivial).bind
  intro outcome said sends
  cases outcome with
  | error fault => exact .pure ⟨said, rfl, .unsent sends⟩
  | ok =>
    apply (follows_receive link [] _).behind
    exact fun received heard receives => .answered sends receives

end Link

namespace Call

open Program (Runs)

/-- The request that a call sends. -/
def request? : Call → Option (UInt16 × Bytes)
  | send code payload | request code payload | exchange code payload => some (code, payload)
  | _ => none

def behind (link : Link) (outcome : Except Fault Reply) : Call → Link
  | switch version => link.setVersion version
  | _ => link.behind outcome

/-- What a call said before it found the port closed, and the buffer that it leaves then. -/
inductive Shut (link : Link) (buffer : Bytes) : Call → Record → Bytes → Prop
  | atOnce {call} : Shut link buffer call [] buffer
  | request {code payload sent} (posts : link.Posts code payload sent (.ok ())) :
      Shut link buffer (.request code payload) sent buffer
  | receiveAnswer {code heard last} (drops : link.Drops code buffer heard last) :
      Shut link buffer (.receiveAnswer code) heard last
  | exchange {code payload sent heard last} (posts : link.Posts code payload sent (.ok ()))
      (drops : link.Drops code buffer heard last) :
      Shut link buffer (.exchange code payload) (sent ++ heard) last

/-- The discipline of a call: what it said to the port, and what it came back with. -/
structure Keeps (link : Link) (buffer : Bytes) (call : Call) (said : Record) (called : Called) :
    Prop where
  limit : called.link.Coherent
  behind : called.link = call.behind link called.outcome
  announced : ∀ expected announced, called.outcome = .error (.versionMismatch expected announced) →
    expected = link.version ∧ announced = link.version.other ∧
      [Frame.preamble, announced.marker] <:+ said.delivered
  /-- What was heard comes behind a request that passed, and there alone. -/
  sends : ∀ code payload, call.request? = some (code, payload) → ∃ sent heard outcome,
    said = sent ++ heard ∧ heard.written = [] ∧ link.Posts code payload sent outcome ∧
    (∀ fault, outcome = .error fault → heard = [] ∧ called = ⟨link, buffer, .error fault⟩) ∧
    (call = .send code payload →
      heard = [] ∧ called = ⟨link, buffer, outcome.map fun _ => .done⟩)
  mute : call.request? = none → said.written = []
  /-- A payload that is too long or a code that is too wide keeps the request from the port. -/
  refused : ∀ fault : Fault, fault.Withholds → fault ≠ .portClosed → called.outcome = .error fault →
    said = [⟨.isOpen, true⟩] ∧ called.link = link ∧ called.buffer = buffer
  /-- A port that is closed from the start keeps everything as it was. -/
  atOnce : said.head? = some ⟨.isOpen, false⟩ →
    said = [⟨.isOpen, false⟩] ∧ called = ⟨link, buffer, .error .portClosed⟩
  shut : called.outcome = .error .portClosed → called.link = link ∧
    ∃ before, said = before ++ [⟨.isOpen, false⟩] ∧ call.Shut link buffer before called.buffer

/-- The calls of a sequence, one by one: what each of them said, and what it came back with. -/
inductive Sequence : Link → Bytes → List Call → Record → List Called → Prop
  | nil {link buffer} : Sequence link buffer [] [] []
  | cons {link buffer call calls said more called results}
      (keeps : Keeps link buffer call said called)
      (later : Sequence called.link called.buffer calls more results) :
      Sequence link buffer (call :: calls) (said ++ more) (called :: results)

variable {link : Link} {code : UInt16} {payload buffer last : Bytes} {call : Call}
  {said sent heard : Record} {received : Received Reply}

private theorem coherent_behind {α : Type} (coherent : link.Coherent) (outcome : Except Fault α) :
    (link.behind outcome).Coherent := by
  unfold Link.behind
  split
  · exact link.coherent_setVersion
  · exact coherent

private theorem keeps_of_listens (coherent : link.Coherent) (silent : call.request? = none)
    (passes : call.behind link received.outcome = link.behind received.outcome)
    (listens : link.Listens said received)
    (atOnce : said.head? = some ⟨.isOpen, false⟩ →
      said = [⟨.isOpen, false⟩] ∧ received.outcome = .error .portClosed ∧ last = buffer)
    (shut : received.outcome = .error .portClosed →
      ∃ before, said = before ++ [⟨.isOpen, false⟩] ∧ call.Shut link buffer before last) :
    Keeps link buffer call said ⟨received.link, last, received.outcome⟩ where
  limit := listens.behind ▸ coherent_behind coherent _
  behind := listens.behind.trans passes.symm
  announced := listens.announced
  sends code payload same := by
    rw [silent] at same
    cases same
  mute _ := listens.mute
  refused fault withholds other same := absurd (listens.granted fault withholds same) other
  atOnce first := by
    obtain ⟨only, outcome, rfl⟩ := atOnce first
    refine ⟨only, ?_⟩
    rw [listens.behind, outcome]
    rfl
  shut same := by
    have outcome : received.outcome = .error .portClosed := same
    refine ⟨?_, shut outcome⟩
    change received.link = link
    rw [listens.behind, outcome]
    rfl

private theorem behind_of_request (asks : call.request? = some (code, payload))
    (outcome : Except Fault Reply) : call.behind link outcome = link.behind outcome := by
  cases call with
  | switch => cases asks
  | _ => rfl

private theorem link_of_calm {outcome : Except Fault Reply}
    (calm : ∀ expected announced, outcome ≠ .error (.versionMismatch expected announced)) :
    link.behind outcome = link := by
  cases outcome with
  | ok => rfl
  | error fault =>
    cases fault with
    | versionMismatch => exact absurd rfl (calm _ _)
    | _ => rfl

private theorem keeps_of_unsent {fault : Fault} (coherent : link.Coherent)
    (asks : call.request? = some (code, payload)) (sends : link.Sends code payload said (.error fault)) :
    Keeps link buffer call said ⟨link, buffer, .error fault⟩ where
  limit := coherent
  behind := by
    rw [behind_of_request asks, link_of_calm]
    intro expected announced same
    exact (sends.posts coherent).calm expected announced (congrArg _ (Except.error.inj same))
  announced expected announced same :=
    absurd (congrArg _ (Except.error.inj same)) ((sends.posts coherent).calm expected announced)
  sends code payload same := by
    obtain ⟨rfl, rfl⟩ := Prod.mk.inj (Option.some.inj (asks.symm.trans same))
    refine ⟨said, [], _, (List.append_nil _).symm, rfl, sends.posts coherent, ?_, fun _ => ⟨rfl, rfl⟩⟩
    intro other same
    exact ⟨rfl, by rw [Except.error.inj same]⟩
  mute silent := by
    rw [asks] at silent
    cases silent
  refused fault withholds other same := by
    obtain rfl := Except.error.inj same
    refine ⟨?_, rfl, rfl⟩
    cases sends with
    | closed => exact absurd rfl other
    | oversized | unpacked => rfl
    | unwritten | cut | unflushed => cases withholds
  atOnce first := by
    cases sends with
    | closed => exact ⟨rfl, rfl⟩
    | oversized | unpacked | unwritten | cut | unflushed => cases first
  shut same := by
    obtain rfl := Except.error.inj same
    refine ⟨rfl, [], ?_, .atOnce⟩
    generalize failed : Except.error Fault.portClosed = outcome at sends
    cases sends with
    | closed => rfl
    | unpacked short refused =>
      cases failed
      cases (Link.wide_of_unpacked coherent short refused).1
    | _ => cases failed

private theorem keeps_of_sent (coherent : link.Coherent) (sends : link.Sends code payload said (.ok ())) :
    Keeps link buffer (.send code payload) said ⟨link, buffer, .ok .done⟩ where
  limit := coherent
  behind := rfl
  announced := nofun
  sends code payload same := by
    obtain ⟨rfl, rfl⟩ := Prod.mk.inj (Option.some.inj same)
    exact ⟨said, [], _, (List.append_nil _).symm, rfl, sends.posts coherent, nofun, fun _ => ⟨rfl, rfl⟩⟩
  mute := nofun
  refused := nofun
  atOnce first := by
    obtain ⟨_, _, -, -, rfl⟩ := sends.of_ok
    cases first
  shut := nofun

private theorem keeps_of_answered (coherent : link.Coherent) (asks : call.request? = some (code, payload))
    (waits : ∀ code payload, call ≠ .send code payload)
    (sends : link.Sends code payload sent (.ok ())) (listens : link.Listens heard received)
    (shut : received.outcome = .error .portClosed →
      ∃ before, heard = before ++ [⟨.isOpen, false⟩] ∧ call.Shut link buffer (sent ++ before) last) :
    Keeps link buffer call (sent ++ heard) ⟨received.link, last, received.outcome⟩ where
  limit := listens.behind ▸ coherent_behind coherent _
  behind := listens.behind.trans (behind_of_request asks _).symm
  announced expected announced same := by
    obtain ⟨first, second, suffix⟩ := listens.announced expected announced same
    refine ⟨first, second, suffix.trans ?_⟩
    rw [Record.delivered_append]
    exact List.suffix_append ..
  sends code payload same := by
    obtain ⟨rfl, rfl⟩ := Prod.mk.inj (Option.some.inj (asks.symm.trans same))
    exact ⟨sent, heard, _, rfl, listens.mute, sends.posts coherent, nofun,
      fun send => absurd send (waits _ _)⟩
  mute silent := by
    rw [asks] at silent
    cases silent
  refused fault withholds other same := absurd (listens.granted fault withholds same) other
  atOnce first := by
    obtain ⟨_, _, -, -, rfl⟩ := sends.of_ok
    cases first
  shut same := by
    have outcome : received.outcome = .error .portClosed := same
    obtain ⟨before, rfl, found⟩ := shut outcome
    refine ⟨?_, sent ++ before, (List.append_assoc ..).symm, found⟩
    change received.link = link
    rw [listens.behind, outcome]
    rfl

/-- What one call does. -/
theorem follows_perform (coherent : link.Coherent) (buffer : Bytes) (call : Call) (record : Record) :
    (call.perform link buffer).Follows (fun _ _ => True) (Keeps link buffer call) record := by
  cases call with
  | send code payload =>
    apply (Link.follows_send fun _ _ => trivial).bind
    intro outcome said sends
    cases outcome with
    | error fault => exact .pure ⟨said, rfl, keeps_of_unsent coherent rfl sends⟩
    | ok => exact .pure ⟨said, rfl, keeps_of_sent coherent sends⟩
  | receive =>
    apply (Link.follows_receive link [] record).bind
    intro received said receives
    refine .pure ⟨said, rfl, keeps_of_listens coherent rfl rfl (receives.listens.map _) ?_ ?_⟩
    · intro first
      obtain ⟨rfl, rfl⟩ := receives.atOnce first
      exact ⟨rfl, rfl, rfl⟩
    · intro closed
      obtain ⟨rfl, rfl⟩ := receives.of_closed (Link.error_of_map closed)
      exact ⟨[], rfl, .atOnce⟩
  | receiveInto =>
    apply (Link.follows_receive link buffer record).bind
    intro received said receives
    refine .pure ⟨said, rfl, keeps_of_listens coherent rfl rfl (receives.listens.map _) ?_ ?_⟩
    · intro first
      obtain ⟨rfl, rfl⟩ := receives.atOnce first
      exact ⟨rfl, rfl, rfl⟩
    · intro closed
      obtain ⟨rfl, rfl⟩ := receives.of_closed (Link.error_of_map closed)
      exact ⟨[], rfl, .atOnce⟩
  | request code payload =>
    apply (Link.follows_request link code payload record).bind
    intro received said requests
    cases requests with
    | unsent sends => exact .pure ⟨said, rfl, keeps_of_unsent coherent rfl sends⟩
    | answered sends receives =>
      refine .pure ⟨_, rfl, keeps_of_answered coherent rfl (by simp) sends (receives.listens.map _) ?_⟩
      intro closed
      obtain ⟨rfl, rfl⟩ := receives.of_closed (Link.error_of_map closed)
      exact ⟨[], rfl, by simpa using .request (sends.posts coherent)⟩
  | receiveAnswer code =>
    apply (Link.follows_awaitAnswer code (Link.patience - 1) link buffer record).bind
    intro received said awaits
    refine .pure ⟨said, rfl, keeps_of_listens coherent rfl rfl (awaits.listens.map _) ?_ ?_⟩
    · intro first
      obtain ⟨rfl, rfl⟩ := awaits.atOnce first
      exact ⟨rfl, rfl, rfl⟩
    · intro closed
      obtain ⟨dropped, rfl, -, drops⟩ := awaits.of_closed (Link.error_of_map closed)
      exact ⟨dropped, rfl, .receiveAnswer drops⟩
  | exchange code payload =>
    apply (Link.follows_exchange buffer fun _ _ => trivial).bind
    intro received said exchanges
    cases exchanges with
    | unsent sends => exact .pure ⟨said, rfl, keeps_of_unsent coherent rfl sends⟩
    | answered sends awaits =>
      refine .pure ⟨_, rfl, keeps_of_answered coherent rfl (by simp) sends (awaits.listens.map _) ?_⟩
      intro closed
      obtain ⟨dropped, rfl, -, drops⟩ := awaits.of_closed (Link.error_of_map closed)
      exact ⟨dropped, rfl, .exchange (sends.posts coherent) drops⟩
  | discardInput =>
    refine .ask nofun fun outcome _ => ?_
    cases outcome with
    | ok =>
      have listens : link.Listens [⟨.discardInput, .ok ()⟩] ⟨link, .ok Reply.done, buffer⟩ :=
        ⟨rfl, rfl, nofun, nofun⟩
      exact .pure ⟨_, rfl, keeps_of_listens coherent rfl rfl listens nofun nofun⟩
    | error fault =>
      have listens : link.Listens (α := Reply) [⟨.discardInput, .error fault⟩]
          ⟨link, .error (.port fault), buffer⟩ := by
        refine ⟨rfl, rfl, nofun, fun other withholds same => ?_⟩
        obtain rfl := Except.error.inj same
        cases withholds
      exact .pure ⟨_, rfl, keeps_of_listens coherent rfl rfl listens nofun nofun⟩
  | switch version =>
    apply (Link.follows_switch link version record).bind
    intro switched said changed
    obtain ⟨rfl, rfl⟩ := changed
    refine .pure ⟨_, rfl, link.coherent_setVersion, rfl, nofun, nofun, fun _ => Record.written_told,
      nofun, ?_, nofun⟩
    intro first
    split at first <;> cases first

theorem follows_performAll (coherent : link.Coherent) (buffer : Bytes) (calls : List Call) (record : Record) :
    (performAll link buffer calls).Follows (fun _ _ => True) (Sequence link buffer calls) record := by
  induction calls generalizing link buffer record with
  | nil => exact .pure ⟨[], (List.append_nil _).symm, .nil⟩
  | cons call calls ih =>
    apply (follows_perform coherent buffer call record).bind
    intro called said keeps
    apply (ih keeps.limit called.buffer _).bind
    intro results more later
    exact .pure ⟨said ++ more, List.append_assoc .., .cons keeps later⟩

private theorem halts_perform (link : Link) (buffer : Bytes) (call : Call) :
    (call.perform link buffer).Halts := by
  cases call with
  | send code payload => exact (link.halts_send code payload).bind fun _ => .pure
  | receive => exact (link.halts_receive []).bind fun _ => .pure
  | receiveInto => exact (link.halts_receive buffer).bind fun _ => .pure
  | request code payload =>
    have halts : (link.request code payload).Halts := by
      apply (link.halts_send code payload).bind
      intro outcome
      cases outcome with
      | error fault => exact .pure
      | ok => exact link.halts_receive []
    exact halts.bind fun _ => .pure
  | receiveAnswer code => exact (Link.halts_awaitAnswer ..).bind fun _ => .pure
  | exchange code payload => exact (link.halts_exchange code payload buffer).bind fun _ => .pure
  | discardInput => exact .ask fun _ => .pure
  | switch version => exact (link.halts_switch version).bind fun _ => .pure

theorem halts_performAll (link : Link) (buffer : Bytes) (calls : List Call) :
    (performAll link buffer calls).Halts := by
  induction calls generalizing link buffer with
  | nil => exact .pure
  | cons call calls ih =>
    apply (halts_perform link buffer call).bind
    intro called
    exact (ih called.link called.buffer).bind fun _ => .pure

/-- Whatever the port does, as long as it gives no more than so many bytes: every sequence
of calls comes to an end, and every call in it keeps the discipline. -/
theorem ends_performAll (version : Version) (buffer : Bytes) (calls : List Call) (most : Nat) :
    (performAll (.new version) buffer calls).Ends (Record.scarce most)
      (fun results said => Sequence (.new version) buffer calls said results) [] := by
  have ends := (halts_performAll (.new version) buffer calls).ends most [] (Nat.zero_le _)
  have keeping := ends.abiding (follows_performAll Link.coherent_new buffer calls [])
  apply keeping.weaken
  intro results after held
  obtain ⟨said, rfl, sequence⟩ := held
  exact sequence

/-- A port that closes behind the request, and one that closes behind a late answer: both calls say that
it was closed, but the request is out, and the buffer holds the late answer. -/
theorem closed_too_late :
    (∃ said, ((Call.exchange 109 []).perform (.new .v1) [7]).Runs Record.anything []
      ⟨.new .v1, [7], .error .portClosed⟩ said ∧ said.written = [[0x24, 0x4D, 0x3C, 0, 109, 109]]) ∧
    ∃ said, ((Call.receiveAnswer 109).perform (.new .v1) [7]).Runs Record.anything []
      ⟨.new .v1, [1], .error .portClosed⟩ said := by
  constructor
  · exact ⟨_, @Runs.ask _ _ _ .isOpen _ _ _ _ true _ ⟨trivial, rfl⟩
      (@Runs.ask _ _ _ (.write [0x24, 0x4D, 0x3C, 0, 109, 109]) _ _ _ _ (.ok 6) _ ⟨trivial, rfl⟩
        (@Runs.ask _ _ _ .flush _ _ _ _ (.ok ()) _ ⟨trivial, rfl⟩
          (@Runs.ask _ _ _ (.report (.sent 109 0)) _ _ _ _ () _ ⟨trivial, rfl⟩
            (@Runs.ask _ _ _ .isOpen _ _ _ _ false _ ⟨trivial, rfl⟩ .pure)))), rfl⟩
  · have late : Frame.Fits .v1 ⟨Frame.answer, 0, 42, [1]⟩ := by decide
    have parses := @Parses.frame .v1 [] [] _ .nil late
    obtain ⟨_, _, runs, rfl, -⟩ := (@Link.ends_receive Responder.silent (.new .v1)
      ⟨.new .v1, _, []⟩ _ _ parses [7]).exists_runs
    obtain ⟨said, runs⟩ := Line.runs_anything runs []
    have shut : Runs Record.anything (Link.awaitAnswer 109 6 (.new .v1) [1])
        (said ++ [⟨.report (.dropped 42 109), ()⟩]) ⟨.new .v1, .error .portClosed, [1]⟩ _ :=
      @Runs.ask _ _ _ .isOpen _ _ _ _ false _ ⟨trivial, rfl⟩ .pure
    have waits : Runs Record.anything (Link.receiveAnswer (.new .v1) 109 [7]) []
        ⟨.new .v1, .error .portClosed, [1]⟩ _ :=
      runs.bind (@Runs.ask _ _ _ (.report (.dropped 42 109)) _ _ _ _ () _ ⟨trivial, rfl⟩ shut)
    exact ⟨_, waits.bind .pure⟩

end Call
end FlightLink
