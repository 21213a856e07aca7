import FlightLink.Exchange
import FlightLink.Proofs.Surroundings

/-! A line: the link, an open port without faults, and a device behind it. A read
takes what waits, up to what was asked for. A request is accepted as a whole, and
what the device sends for it waits at once. The line remembers what happened on it. -/

namespace FlightLink

inductive Act
  | wrote (request reply : Bytes)
  | flushed
  | read (bytes : Bytes)
  | reported (event : Log.Event)

/-- What a device may send for a written byte string. -/
abbrev Responder := Bytes → Bytes → Prop

/-- The device answers a request with one frame, in the version of the request and
with its code. -/
structure Responder.Answers (respond : Responder) (version : Version) (code : UInt16)
    (payload : Bytes) (admitted : Frame → Prop) : Prop where
  responds : ∃ reply, respond ((Frame.ofRequest code payload).wire version) reply
  oneFrame : ∀ reply, respond ((Frame.ofRequest code payload).wire version) reply →
    ∃ answer : Frame, answer.Fits version ∧ answer.code = code ∧ admitted answer ∧
      reply = answer.wire version

def Responder.silent : Responder := fun _ reply => reply = []

structure Line where
  link : Link
  inbound : Bytes
  history : List Act

namespace Line

def note (line : Line) (act : Act) : Line :=
  { line with history := line.history ++ [act] }

def took (line : Line) (count : Nat) : Line :=
  { line with inbound := line.inbound.drop count }.note (.read (line.inbound.take count))

def exchanged (line : Line) (request reply : Bytes) : Line :=
  { line with inbound := line.inbound ++ reply }.note (.wrote request reply)

/-- How a line answers. Requests that do not concern it may get any answer. -/
def serves (respond : Responder) : Surroundings Line
  | .isOpen, before, answer, after => answer = true ∧ after = before
  | .write bytes, before, answer, after =>
    answer = .ok bytes.length ∧ ∃ reply, respond bytes reply ∧ after = before.exchanged bytes reply
  | .flush, before, answer, after => answer = .ok () ∧ after = before.note .flushed
  | .read count, before, answer, after =>
    answer = .ok (before.inbound.take count) ∧ after = before.took count
  | .discardInput, before, answer, after =>
    answer = .ok () ∧ after = { before with inbound := [] }
  | .report event, before, _, after => after = before.note (.reported event)
  | .acquire, before, answer, after => answer = before.link ∧ after = before
  | .release link, before, _, after => after = { before with link }
  | _, before, _, after => after = before

variable {respond : Responder} {α : Type} {wanted : α → Line → Prop} {line : Line}

open Program (Ends)

theorem ends_isOpen {next : Bool → Program α} (rest : Ends (serves respond) wanted (next true) line) :
    Ends (serves respond) wanted (Program.isOpen.bind next) line :=
  .answered (fun _ _ => Iff.rfl) rest

theorem ends_flush {next : Except PortFault Unit → Program α}
    (rest : Ends (serves respond) wanted (next (.ok ())) (line.note .flushed)) :
    Ends (serves respond) wanted (Program.flush.bind next) line :=
  .answered (fun _ _ => Iff.rfl) rest

theorem ends_read {count : Nat} {next : Except PortFault Bytes → Program α}
    (rest : Ends (serves respond) wanted (next (.ok (line.inbound.take count))) (line.took count)) :
    Ends (serves respond) wanted ((Program.read count).bind next) line :=
  .answered (fun _ _ => Iff.rfl) rest

theorem ends_report {event : Log.Event} {next : Unit → Program α}
    (rest : Ends (serves respond) wanted (next ()) (line.note (.reported event))) :
    Ends (serves respond) wanted ((Program.report event).bind next) line := by
  apply Ends.ask
  · exact ⟨(), line.note (.reported event), rfl⟩
  · intro done after noted
    cases done
    subst noted
    exact rest

theorem ends_write {bytes : Bytes} {next : Except PortFault Nat → Program α}
    (responds : ∃ reply, respond bytes reply)
    (rest : ∀ reply, respond bytes reply →
      Ends (serves respond) wanted (next (.ok bytes.length)) (line.exchanged bytes reply)) :
    Ends (serves respond) wanted ((Program.write bytes).bind next) line := by
  obtain ⟨reply, responded⟩ := responds
  apply Ends.ask
  · exact ⟨.ok bytes.length, line.exchanged bytes reply, rfl, reply, responded, rfl⟩
  · intro answer after served
    obtain ⟨rfl, reply, responded, rfl⟩ := served
    exact rest reply responded

theorem ends_locked {body : Link → Program (Link × α)}
    (ends : Ends (serves respond)
      (fun result after => wanted result.2 { after with link := result.1 }) (body line.link) line) :
    Ends (serves respond) wanted (Link.locked body) line := by
  apply Ends.ask
  · exact ⟨line.link, line, rfl, rfl⟩
  · intro link before acquired
    obtain ⟨rfl, rfl⟩ := acquired
    apply ends.bind
    intro result after done
    apply Ends.ask
    · exact ⟨(), { after with link := result.1 }, rfl⟩
    · intro freed released left
      cases freed
      subst left
      exact .pure done

/-- What waited has been read as far as `rest`, in one read after another. -/
def Took (before : Line) (rest : Bytes) (after : Line) : Prop :=
  ∃ chunks : List Bytes, before.inbound = chunks.flatten ++ rest ∧
    after = ⟨before.link, rest, before.history ++ chunks.map .read⟩

theorem took_none (line : Line) : line.Took line.inbound line :=
  ⟨[], by simp, by simp⟩

theorem took_once (line : Line) (count : Nat) :
    line.Took (line.inbound.drop count) (line.took count) :=
  ⟨[line.inbound.take count], by simp, rfl⟩

theorem Took.trans {before middle after : Line} {rest last : Bytes}
    (first : before.Took rest middle) (second : middle.Took last after) :
    before.Took last after := by
  obtain ⟨chunks, split, rfl⟩ := first
  obtain ⟨more, splitMore, rfl⟩ := second
  refine ⟨chunks ++ more, ?_, ?_⟩
  · rw [split, List.flatten_append, List.append_assoc, ← splitMore]
  · simp only [List.map_append, List.append_assoc]

theorem Took.inbound {before after : Line} {rest : Bytes} (took : before.Took rest after) :
    after.inbound = rest := by
  obtain ⟨_, _, rfl⟩ := took
  rfl

end Line
end FlightLink
