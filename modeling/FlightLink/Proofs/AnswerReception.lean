import FlightLink.Proofs.FrameReception

/-! Receiving over a link, up to the answer of a request. `Answered` says what
waiting for an answer comes to on given input: the first frame that answers the
request decides, or the first failure, or the last frame that there is patience for. -/

namespace FlightLink

namespace Frame

def receipt (frame : Frame) : Receipt :=
  if frame.direction = refusal then ⟨.error (.rejected frame.code), []⟩
  else ⟨.ok frame.code, frame.payload⟩

/-- What a transaction makes of its answer. -/
def verdict (frame : Frame) : Except Fault Unit × Bytes :=
  if frame.direction = refusal then (.error (.rejected frame.code), []) else (.ok (), frame.payload)

def wires (version : Version) (frames : List Frame) : Bytes :=
  frames.flatMap (·.wire version)

@[simp] theorem wires_nil {version : Version} : wires version [] = [] := rfl

@[simp] theorem wires_cons {version : Version} {frame : Frame} {frames : List Frame} :
    wires version (frame :: frames) = frame.wire version ++ wires version frames := rfl

@[simp] theorem wires_append {version : Version} {frames more : List Frame} :
    wires version (frames ++ more) = wires version frames ++ wires version more :=
  List.flatMap_append

end Frame

theorem Parses.frame {version : Version} {noise rest : Bytes} {frame : Frame} (skipped : Noise noise)
    (fits : frame.Fits version) :
    Parses version (noise ++ (frame.wire version ++ rest)) frame.receipt rest := by
  by_cases refusal : frame.direction = Frame.refusal
  · have parses := @Parses.refused version noise (frame.payload ++ ([frame.checksum version] ++ rest))
      _ skipped (Frame.fits_fields fits) refusal
    have drained : (frame.payload ++ ([frame.checksum version] ++ rest)).drop
        ((frame.fields version).length + 1) = rest := by
      rw [← List.append_assoc]
      exact List.drop_left' (by simp [Frame.fields])
    rw [drained] at parses
    rw [Frame.receipt, if_pos refusal, Frame.wire, Frame.header_eq_bytes]
    have code : (frame.fields version).code = frame.code := rfl
    simpa [code] using parses
  · rw [Frame.receipt, if_neg refusal]
    exact .accepted skipped fits refusal

namespace Line

def told (line : Line) (events : List Log.Event) : Line :=
  { line with history := line.history ++ events.map .reported }

end Line

namespace Link

def received (link : Link) (receipt : Receipt) : Received UInt16 :=
  ⟨match receipt.code with
    | .error (.versionMismatch _ announced) => link.setVersion announced
    | _ => link,
    receipt.code, receipt.payload⟩

def remarks (link : Link) (receipt : Receipt) : List Log.Event :=
  match receipt.code with
  | .error (.versionMismatch expected announced) =>
    .mismatch expected announced ::
      if announced ≠ link.version then [.switched link.version announced] else []
  | _ => []

variable {respond : Responder} {link : Link} {line : Line} {receipt : Receipt} {rest : Bytes}

private theorem ends_switch {version : Version} :
    (link.switch version).Ends (Line.serves respond)
      (fun result after => result = link.setVersion version ∧ after =
        line.told (if version ≠ link.version then [.switched link.version version] else [])) line := by
  unfold switch
  by_cases same : version = link.version
  · simp only [same, ne_eq, not_true_eq_false, if_false]
    exact .pure ⟨rfl, by simp [Line.told]⟩
  · simp only [same, ne_eq, not_false_eq_true, if_true]
    apply Line.ends_report
    exact .pure ⟨rfl, rfl⟩

theorem ends_receive (parses : Parses link.version line.inbound receipt rest) (buffer : Bytes) :
    (link.receive buffer).Ends (Line.serves respond)
      (fun result after => result = link.received receipt ∧
        ∃ middle, line.Took rest middle ∧ after = middle.told (link.remarks receipt)) line := by
  apply Line.ends_isOpen
  apply (Parses.ends parses).bind
  intro result middle ended
  obtain ⟨rfl, took⟩ := ended
  have untold : middle = middle.told [] := by simp [Line.told]
  obtain ⟨code, payload⟩ := result
  cases code with
  | ok code => exact .pure ⟨rfl, middle, took, untold⟩
  | error fault =>
    cases fault with
    | versionMismatch expected announced =>
      apply Line.ends_report
      apply ends_switch.bind
      intro switched after ended
      obtain ⟨rfl, rfl⟩ := ended
      refine .pure ⟨rfl, middle, took, ?_⟩
      simp [Line.told, Line.note, remarks]
    | _ => exact .pure ⟨rfl, middle, took, untold⟩

/-- What waiting for the answer to `code` comes to on some input, with that many
answers to others to spare, and the bytes that are left. -/
inductive Answered (code : UInt16) : Nat → Link → Bytes → Received Unit → Bytes → Prop
  | taken {spare link input receipt rest} (parses : Parses link.version input receipt rest)
      (own : staleCode? code receipt.code = none) :
      Answered code spare link input (asAnswer code (link.received receipt)) rest
  | spent {link input receipt rest stale} (parses : Parses link.version input receipt rest)
      (late : staleCode? code receipt.code = some stale) :
      Answered code 0 link input (asAnswer code (link.received receipt)) rest
  | dropped {spare link input receipt middle stale result rest}
      (parses : Parses link.version input receipt middle)
      (late : staleCode? code receipt.code = some stale)
      (later : Answered code spare link middle result rest) :
      Answered code (spare + 1) link input result rest

variable {code : UInt16} {spare : Nat} {result : Received Unit}

private theorem received_stale {stale : UInt16} (late : staleCode? code receipt.code = some stale) :
    (link.received receipt).link = link := by
  obtain ⟨outcome, payload⟩ := receipt
  cases outcome with
  | ok => rfl
  | error fault =>
    cases fault with
    | versionMismatch => cases late
    | _ => rfl

private theorem staleCode?_receipt {frame : Frame} :
    staleCode? code frame.receipt.code = if frame.code = code then none else some frame.code := by
  unfold Frame.receipt
  split <;> rfl

private theorem asAnswer_receipt {frame : Frame} (own : frame.code = code) :
    asAnswer code (link.received frame.receipt) = ⟨link, frame.verdict.1, frame.verdict.2⟩ := by
  have unstale : staleCode? code (link.received frame.receipt).outcome = none :=
    staleCode?_receipt.trans (if_pos own)
  rw [asAnswer, unstale, Frame.receipt, Frame.verdict]
  by_cases refusal : frame.direction = Frame.refusal
  · simp only [if_pos refusal]
    rfl
  · simp only [if_neg refusal]
    rfl

theorem Answered.ends (answered : Answered code spare link line.inbound result rest)
    (buffer : Bytes) :
    (awaitAnswer code spare link buffer).Ends (Line.serves respond)
      (fun received after => received = result ∧ after.inbound = rest) line := by
  generalize waiting : line.inbound = input at answered
  induction answered generalizing line buffer with
  | @taken spare link input receipt rest parses own =>
    subst waiting
    cases spare with
    | zero =>
      apply (ends_receive parses buffer).bind
      intro received after ended
      obtain ⟨rfl, middle, took, rfl⟩ := ended
      exact .pure ⟨rfl, took.inbound⟩
    | succ spare =>
      apply (ends_receive parses buffer).bind
      intro received after ended
      obtain ⟨rfl, middle, took, rfl⟩ := ended
      have outcome : (link.received receipt).outcome = receipt.code := rfl
      rw [outcome, own]
      exact .pure ⟨rfl, took.inbound⟩
  | spent parses late =>
    subst waiting
    apply (ends_receive parses buffer).bind
    intro received after ended
    obtain ⟨rfl, middle, took, rfl⟩ := ended
    exact .pure ⟨rfl, took.inbound⟩
  | @dropped spare link input receipt middle stale result rest parses late _ ih =>
    subst waiting
    apply (ends_receive parses buffer).bind
    intro received after ended
    obtain ⟨rfl, read, took, rfl⟩ := ended
    have outcome : (link.received receipt).outcome = receipt.code := rfl
    rw [outcome, late, received_stale late]
    apply Line.ends_report
    have left : ((read.told (link.remarks receipt)).note
      (.reported (.dropped stale code))).inbound = middle := took.inbound
    exact ih _ left

theorem Answered.frame {noise : Bytes} {frame : Frame} (skipped : Noise noise)
    (fits : frame.Fits link.version) (own : frame.code = code) :
    Answered code spare link (noise ++ (frame.wire link.version ++ rest))
      ⟨link, frame.verdict.1, frame.verdict.2⟩ rest := by
  have answered : Answered code spare link (noise ++ (frame.wire link.version ++ rest))
      (asAnswer code (link.received frame.receipt)) rest :=
    .taken (.frame skipped fits) (staleCode?_receipt.trans (if_pos own))
  rwa [asAnswer_receipt own] at answered

theorem Answered.unique {other : Received Unit} {left : Bytes} {input : Bytes}
    (first : Answered code spare link input result rest)
    (second : Answered code spare link input other left) : other = result ∧ left = rest := by
  induction first with
  | taken parses own =>
    cases second with
    | taken again => obtain ⟨rfl, rfl⟩ := parses.unique again; exact ⟨rfl, rfl⟩
    | spent again late | dropped again late =>
      obtain ⟨rfl, rfl⟩ := parses.unique again
      rw [own] at late
      cases late
  | spent parses late =>
    cases second with
    | taken again | spent again => obtain ⟨rfl, rfl⟩ := parses.unique again; exact ⟨rfl, rfl⟩
  | dropped parses late _ ih =>
    cases second with
    | taken again own =>
      obtain ⟨rfl, rfl⟩ := parses.unique again
      rw [late] at own
      cases own
    | dropped again _ later =>
      obtain ⟨rfl, rfl⟩ := parses.unique again
      exact ih later

theorem Answered.consumes {input : Bytes} (answered : Answered code spare link input result rest) :
    ∃ taken, input = taken ++ rest ∧ (input ≠ [] → taken ≠ []) := by
  induction answered with
  | taken parses | spent parses => exact parses.consumes
  | dropped parses _ _ ih =>
    obtain ⟨first, rfl, some⟩ := parses.consumes
    obtain ⟨second, rfl, _⟩ := ih
    refine ⟨first ++ second, (List.append_assoc ..).symm, fun input => ?_⟩
    exact List.append_ne_nil_of_left_ne_nil (some input) _

theorem Answered.coherent {input : Bytes} (answered : Answered code spare link input result rest)
    (coherent : link.Coherent) : result.link.Coherent := by
  have kept (receipt : Receipt) : (asAnswer code (link.received receipt)).link.Coherent := by
    have same : (asAnswer code (link.received receipt)).link = (link.received receipt).link := by
      unfold asAnswer
      split <;> rfl
    rw [same]
    unfold received
    split
    · exact coherent_setVersion link
    · exact coherent
  induction answered with
  | taken | spent => exact kept _
  | dropped _ _ _ ih => exact ih coherent kept

theorem Answered.total (code : UInt16) (spare : Nat) (link : Link) (input : Bytes) :
    ∃ result rest, Answered code spare link input result rest := by
  induction spare generalizing input with
  | zero =>
    obtain ⟨receipt, rest, parses⟩ := Parses.total link.version input
    cases seen : staleCode? code receipt.code with
    | none => exact ⟨_, _, .taken parses seen⟩
    | some stale => exact ⟨_, _, .spent parses seen⟩
  | succ spare ih =>
    obtain ⟨receipt, rest, parses⟩ := Parses.total link.version input
    cases seen : staleCode? code receipt.code with
    | none => exact ⟨_, _, .taken parses seen⟩
    | some stale =>
      obtain ⟨result, last, later⟩ := ih rest
      exact ⟨_, _, .dropped parses seen later⟩

theorem Answered.past {before : List Frame} {input : Bytes}
    (fit : ∀ earlier ∈ before, earlier.Fits link.version)
    (others : ∀ earlier ∈ before, earlier.code ≠ code)
    (later : Answered code spare link input result rest) :
    Answered code (spare + before.length) link (Frame.wires link.version before ++ input) result rest := by
  induction before with
  | nil => exact later
  | cons earlier before ih =>
    have parses := @Parses.frame link.version [] (Frame.wires link.version before ++ input) earlier .nil
      (fit earlier (by simp))
    have late : staleCode? code earlier.receipt.code = some earlier.code :=
      staleCode?_receipt.trans (if_neg (others earlier (by simp)))
    rw [Frame.wires_cons, List.append_assoc]
    apply Answered.dropped parses late
    apply ih
    · exact fun frame member => fit frame (List.mem_cons_of_mem _ member)
    · exact fun frame member => others frame (List.mem_cons_of_mem _ member)

/-- The frame with the code that stands first in the input decides, as long as there
is patience for those before it. -/
theorem Answered.frames {frame : Frame} {before : List Frame}
    (fit : ∀ earlier ∈ before, earlier.Fits link.version)
    (others : ∀ earlier ∈ before, earlier.code ≠ code) (few : before.length ≤ spare)
    (fits : frame.Fits link.version) (own : frame.code = code) :
    Answered code spare link (Frame.wires link.version before ++ (frame.wire link.version ++ rest))
      ⟨link, frame.verdict.1, frame.verdict.2⟩ rest := by
  obtain ⟨spare, rfl⟩ := Nat.exists_eq_add_of_le' few
  have decides := @Answered.frame link rest code spare [] frame .nil fits own
  exact decides.past fit others

theorem Answered.exhausted {last : Frame} {before : List Frame}
    (fit : ∀ earlier ∈ before, earlier.Fits link.version)
    (others : ∀ earlier ∈ before, earlier.code ≠ code) (all : before.length = spare)
    (fits : last.Fits link.version) (other : last.code ≠ code) :
    Answered code spare link (Frame.wires link.version before ++ (last.wire link.version ++ rest))
      ⟨link, .error (.codeMismatch code last.code), last.receipt.payload⟩ rest := by
  have parses := @Parses.frame link.version [] rest last .nil fits
  have late : staleCode? code last.receipt.code = some last.code :=
    staleCode?_receipt.trans (if_neg other)
  have gives := @Answered.spent code link _ _ _ _ parses late
  have mismatch : asAnswer code (link.received last.receipt) =
      ⟨link, .error (.codeMismatch code last.code), last.receipt.payload⟩ := by
    have outcome : staleCode? code (link.received last.receipt).outcome = some last.code := late
    rw [asAnswer, outcome, received_stale late]
    rfl
  rw [mismatch] at gives
  rw [← all, ← Nat.zero_add before.length]
  exact gives.past fit others

theorem Answered.starved {frames : List Frame}
    (fit : ∀ frame ∈ frames, frame.Fits link.version)
    (others : ∀ frame ∈ frames, frame.code ≠ code) (few : frames.length ≤ spare) :
    Answered code spare link (Frame.wires link.version frames) ⟨link, .error (.shortRead 0 1), []⟩ [] := by
  obtain ⟨spare, rfl⟩ := Nat.exists_eq_add_of_le' few
  have nothing : Parses link.version [] ⟨.error (.shortRead 0 1), []⟩ [] := .cut .nil .preamble
  have gives : Answered code spare link [] ⟨link, .error (.shortRead 0 1), []⟩ [] := .taken nothing rfl
  rw [← List.append_nil (Frame.wires link.version frames)]
  exact gives.past fit others

private theorem remarks_receipt {frame : Frame} : link.remarks frame.receipt = [] := by
  by_cases refusal : frame.direction = Frame.refusal
  · rw [Frame.receipt, if_pos refusal]
    rfl
  · rw [Frame.receipt, if_neg refusal]
    rfl

theorem ends_receiveAnswer {frame : Frame} (fits : frame.Fits link.version) (own : frame.code = code)
    (waiting : line.inbound = frame.wire link.version) (buffer : Bytes) :
    (link.receiveAnswer code buffer).Ends (Line.serves respond)
      (fun received after => received = ⟨link, frame.verdict.1, frame.verdict.2⟩ ∧
        line.Took [] after) line := by
  have parses := @Parses.frame link.version [] [] frame .nil fits
  rw [List.append_nil, List.nil_append, ← waiting] at parses
  apply (ends_receive parses buffer).bind
  intro received after ended
  obtain ⟨rfl, middle, took, rfl⟩ := ended
  have unstale : staleCode? code (link.received frame.receipt).outcome = none :=
    staleCode?_receipt.trans (if_pos own)
  rw [unstale]
  refine .pure ⟨asAnswer_receipt own, ?_⟩
  rw [remarks_receipt]
  simpa [Line.told] using took

/-- Whether a link takes a request at all. Its limit itself is refused. -/
def Takes (link : Link) (code : UInt16) (payload : Bytes) : Prop :=
  payload.length < link.limit ∧ (Frame.ofRequest code payload).Fits link.version

instance (link : Link) (code : UInt16) (payload : Bytes) : Decidable (link.Takes code payload) :=
  inferInstanceAs (Decidable (_ ∧ _))

variable {payload : Bytes}

theorem Coherent.takes (coherent : link.Coherent) (short : payload.length < link.version.maxPayload)
    (narrow : link.version = .v1 → code.toNat < 256) : link.Takes code payload :=
  ⟨Nat.lt_of_lt_of_eq short coherent.symm, Nat.le_of_lt short, narrow⟩

theorem Takes.packed (takes : link.Takes code payload) :
    Frame.pack link.version code payload = .ok ((Frame.ofRequest code payload).wire link.version) :=
  Frame.pack_eq_ok_iff.mpr ⟨takes.2, rfl⟩

theorem ends_send (takes : link.Takes code payload)
    (responds : ∃ reply, respond ((Frame.ofRequest code payload).wire link.version) reply) :
    (link.send code payload).Ends (Line.serves respond)
      (fun outcome after => outcome = .ok () ∧ ∃ reply,
        respond ((Frame.ofRequest code payload).wire link.version) reply ∧
        after = ((line.exchanged ((Frame.ofRequest code payload).wire link.version) reply).note
          .flushed).told [.sent code payload.length]) line := by
  apply Line.ends_isOpen
  have room : ¬ link.limit ≤ payload.length := Nat.not_le.mpr takes.1
  simp only [Bool.not_true, Bool.false_eq_true, if_false, room, takes.packed]
  apply Line.ends_write responds
  intro reply responded
  simp only [Nat.lt_irrefl, if_false]
  apply Line.ends_flush
  apply Line.ends_report
  exact .pure ⟨rfl, reply, responded, rfl⟩

theorem ends_exchange (takes : link.Takes code payload)
    (responds : ∃ reply, respond ((Frame.ofRequest code payload).wire link.version) reply)
    (buffer : Bytes) :
    (link.exchange code payload buffer).Ends (Line.serves respond)
      (fun received after => ∃ reply,
        respond ((Frame.ofRequest code payload).wire link.version) reply ∧
        Answered code (patience - 1) link (line.inbound ++ reply) received after.inbound) line := by
  apply (ends_send takes responds).bind
  intro outcome sent ended
  obtain ⟨rfl, reply, responded, rfl⟩ := ended
  obtain ⟨result, rest, answered⟩ := Answered.total code (patience - 1) link (line.inbound ++ reply)
  apply (answered.ends buffer).weaken
  intro received after ended
  obtain ⟨rfl, rfl⟩ := ended
  exact ⟨reply, responded, answered⟩

end Link

/-- A transaction on an open line: the request goes out, and what waits then, with
the reply at its end, decides. -/
theorem ends_transact {respond : Responder} {line : Line} {code : UInt16} {payload : Bytes}
    (takes : line.link.Takes code payload)
    (responds : ∃ reply, respond ((Frame.ofRequest code payload).wire line.link.version) reply)
    (buffer : Bytes) :
    (transact code payload buffer).Ends (Line.serves respond)
      (fun result after => ∃ reply received,
        respond ((Frame.ofRequest code payload).wire line.link.version) reply ∧
        Link.Answered code (Link.patience - 1) line.link (line.inbound ++ reply) received
          after.inbound ∧
        result = (received.outcome, received.payload) ∧ after.link = received.link) line := by
  apply Line.ends_locked
  apply (Link.ends_exchange takes responds buffer).bind
  intro received after ended
  obtain ⟨reply, responded, answered⟩ := ended
  exact .pure ⟨reply, received, responded, answered, rfl, rfl⟩

end FlightLink
