import FlightLink.Proofs.ChannelPlacement
import FlightLink.Proofs.StartupTermination

/-! Whether commands fit the frames that they go out in. A receiver takes payloads up to the limit of
its version and a sender refuses the limit itself, so what can be heard need not be sendable. Channel
values come in pairs of bytes and the limits are odd, so a command for as many channels as an answer
tells is always below the limit that the answer kept to. -/

namespace FlightLink

open Program (Abides Runs)

namespace Fault

/-- The version has no room or no code for the frame. -/
def Unfit : Fault → Prop
  | payloadTooLarge .. | unsupported _ => True
  | _ => False

/-- The port is closed or does not take the frame. -/
def OfPort : Fault → Prop
  | portClosed | shortWrite .. | port _ => True
  | _ => False

theorem OfPort.fits {fault : Fault} (ofPort : fault.OfPort) : ¬ fault.Unfit := by
  cases fault <;> first | exact id | cases ofPort

end Fault

/-! A task that has the link for itself finds it as it left it. -/

def Query.left : Query → Link → Link
  | ⟨.release link, _⟩, _ => link
  | _, link => link

def Query.Finds (link : Link) : Query → Prop
  | ⟨.acquire, found⟩ => found = link
  | _ => True

namespace Record

def returned (first : Link) (record : Record) : Link :=
  record.foldl (fun link query => query.left link) first

/-- Surroundings of which nothing is known but that nobody else takes the link. -/
def alone (first : Link) : Surroundings Record := fun request before answer after =>
  anything request before answer after ∧ Query.Finds (returned first before) ⟨request, answer⟩

/-- Each time the link was taken it was as it had been given back. -/
def Alone (first : Link) (record : Record) : Prop :=
  ∀ before link since, record = before ++ ⟨.acquire, link⟩ :: since → link = returned first before

variable {first : Link} {record : Record}

theorem Alone.nil : Alone first [] := by
  intro before link since split
  cases before <;> cases split

theorem Alone.snoc {query : Query} (alone : record.Alone first) (finds : query.Finds (record.returned first)) :
    Alone first (record ++ [query]) := by
  intro before link since split
  obtain ⟨between, rfl, behind⟩ | ⟨between, rfl, behind⟩ := List.append_eq_append_iff.mp split
  · cases between with
    | nil =>
      cases behind
      rw [List.append_nil]
      exact finds
    | cons _ between => cases between <;> cases behind
  · cases between with
    | nil =>
      cases behind
      rw [List.append_nil] at finds
      exact finds
    | cons other between =>
      cases behind
      exact alone before link between rfl

end Record

theorem Program.Runs.alone {α : Type} {program : Program α} {first : Link} {before after : Record}
    {result : α} (runs : Runs (Record.alone first) program before result after)
    (kept : before.Alone first) : Runs Record.anything program before result after ∧ after.Alone first := by
  induction runs with
  | pure => exact ⟨.pure, kept⟩
  | ask answered _ ih =>
    obtain ⟨⟨possible, rfl⟩, finds⟩ := answered
    obtain ⟨rest, last⟩ := ih (kept.snoc finds)
    exact ⟨.ask ⟨possible, rfl⟩ rest, last⟩
  | iterate _ ih =>
    obtain ⟨round, last⟩ := ih kept
    exact ⟨.iterate round, last⟩

theorem Line.runs_alone {α : Type} {respond : Responder} {program : Program α} {before after : Line}
    {result : α} (runs : Runs (Line.serves respond) program before result after) {first : Link}
    {record : Record} (same : record.returned first = before.link) :
    ∃ later : Record, Runs (Record.alone first) program record result later ∧
      later.returned first = after.link := by
  induction runs generalizing record with
  | pure => exact ⟨record, .pure, same⟩
  | @ask request _ before middle _ answer _ answered _ ih =>
    have kept : (⟨request, answer⟩ : Query).left before.link = middle.link := by
      cases request with
      | isOpen | flush | read | discardInput | acquire => rw [answered.2]; rfl
      | write =>
        obtain ⟨-, _, -, rfl⟩ := answered
        rfl
      | _ => rw [answered]; rfl
    have given : Record.returned first (record ++ [⟨request, answer⟩]) = middle.link := by
      rw [← kept, ← same]
      exact List.foldl_append
    obtain ⟨later, rest, last⟩ := ih given
    refine ⟨later, .ask ⟨⟨Line.possible answered, rfl⟩, ?_⟩ rest, last⟩
    cases request with
    | acquire => exact answered.1.trans same.symm
    | _ => trivial
  | iterate _ ih =>
    obtain ⟨later, round, last⟩ := ih same
    exact ⟨later, .iterate round, last⟩

/-! What sending fails of, and how much can be heard. -/

theorem Parses.fits {version : Version} {input rest : Bytes} {receipt : Receipt} {fault : Fault}
    (parses : Parses version input receipt rest) (failed : receipt.code = .error fault) : ¬ fault.Unfit := by
  cases parses <;> cases failed <;> exact id

namespace Link

variable {link : Link} {code : UInt16} {payload buffer : Bytes} {said : Record}

theorem Sends.ofPort {fault : Fault} (sends : link.Sends code payload said (.error fault))
    (takes : link.Takes code payload) : fault.OfPort := by
  cases sends with
  | closed | unwritten | cut | unflushed => trivial
  | oversized long => exact absurd takes.1 (Nat.not_lt.mpr long)
  | unpacked _ failed =>
    rw [takes.packed] at failed
    cases failed

theorem Receives.fits {received : Received UInt16} {fault : Fault}
    (receives : link.Receives buffer said received) (failed : received.outcome = .error fault) :
    ¬ fault.Unfit := by
  cases receives with
  | closed | broken =>
    cases failed
    exact id
  | parsed _ parses => exact parses.fits failed

theorem Awaits.fits {spare : Nat} {received : Received Unit} {fault : Fault}
    (awaits : Awaits code spare link buffer said received) (failed : received.outcome = .error fault) :
    ¬ fault.Unfit := by
  induction awaits with
  | @taken _ _ _ _ received receives own =>
    rw [asAnswer_of_none own] at failed
    cases outcome : received.outcome with
    | error other =>
      simp only [outcome, Except.map, Except.error.injEq] at failed
      exact failed ▸ receives.fits outcome
    | ok =>
      rw [outcome] at failed
      cases failed
  | spent _ late =>
    rw [asAnswer_of_some late] at failed
    cases failed
    exact id
  | dropped _ _ _ ih => exact ih failed

theorem Heard.room {version : Version} {input : Bytes} (heard : Heard version code payload input) :
    payload.length ≤ version.maxPayload := by
  induction heard with
  | answer parses =>
    generalize received : (⟨.ok code, payload⟩ : Receipt) = receipt at parses
    generalize [] = rest at parses
    cases parses with
    | accepted _ fits =>
      cases received
      exact fits.1
    | corrupt | refused | foreign | cut => cases received
  | late _ _ _ ih => exact ih

end Link

section Courses

variable {said : Record}

/-- A transaction that passes gives the link back as it found it, with no more heard than it has room
for. -/
theorem Transacts.link {code : UInt16} {payload buffer content : Bytes}
    (transacts : Transacts code payload buffer said (.ok (), content)) :
    ∃ link rest, said = ⟨.acquire, link⟩ :: rest ∧ (∀ first, said.returned first = link) ∧
      content.length ≤ link.version.maxPayload := by
  generalize same : (Except.ok (), content) = result at transacts
  cases transacts with
  | @locked link said received exchanges =>
    obtain ⟨passed, rfl⟩ := Prod.mk.inj same
    cases exchanges with
    | unsent => cases passed
    | answered _ awaits =>
      obtain ⟨unchanged, heard⟩ := awaits.heard passed.symm
      refine ⟨link, _, rfl, fun first => ?_, heard.room⟩
      simp [Record.returned, Query.left, unchanged]

theorem Transacts.fits {code : Code} {buffer content : Bytes} {fault : Fault}
    (transacts : Transacts code.number [] buffer said (.error fault, content))
    (found : ∀ link rest, said = ⟨.acquire, link⟩ :: rest → link.Coherent) : ¬ fault.Unfit := by
  generalize same : (Except.error fault, content) = result at transacts
  cases transacts with
  | @locked link _ _ exchanges =>
    obtain ⟨failed, rfl⟩ := Prod.mk.inj same
    cases exchanges with
    | unsent sends =>
      cases failed
      exact (sends.ofPort ((found link _ rfl).takes_ask code)).fits
    | answered _ awaits => exact awaits.fits failed.symm

theorem Message.decode_fits {payload : Bytes} {fault : Fault}
    (failed : Kind.rc.decode payload = .error fault) : ¬ fault.Unfit := by
  cases read : ReceiverChannels.decode payload with
  | ok received =>
    rw [Kind.decode, read] at failed
    cases failed
  | error =>
    rw [Kind.decode, read] at failed
    unfold ReceiverChannels.decode at read
    split at read <;> cases read
    cases failed
    exact id

theorem Reads.fits {read : Message} {fault : Fault}
    (reads : Reads Message.Kind.rc.initial said (read, .error fault))
    (found : ∀ link rest, said = ⟨.acquire, link⟩ :: rest → link.Coherent) : ¬ fault.Unfit := by
  generalize same : (read, Except.error fault) = result at reads
  cases reads with
  | failed transacts =>
    cases same
    exact transacts.fits found
  | refreshed => exact Message.decode_fits (Message.refresh_eq_error same.symm).2

namespace Vehicle

variable {channels : ChannelOverride} {vehicle : Vehicle}

theorem Commands.ofPort {fault : Fault} (commands : Commands channels said (.error fault))
    (takes : ∀ link rest, said = ⟨.acquire, link⟩ :: rest →
      link.Takes Code.setRawRc.number channels.encode) : fault.OfPort := by
  generalize same : Except.error fault = outcome at commands
  cases commands with
  | unsent sends =>
    cases same
    exact sends.ofPort (takes _ _ rfl)
  | sent => cases same

theorem place_fits {map : ChannelMap} {updates : List (Control × UInt16)} {fault : Fault}
    (failed : place map channels updates = .error fault) : ¬ fault.Unfit := by
  induction updates generalizing channels with
  | nil => cases failed
  | cons update rest ih =>
    obtain ⟨control, value⟩ := update
    unfold place at failed
    cases found : channel map control value with
    | error =>
      rw [found] at failed
      unfold channel at found
      split at found <;> cases found
      cases failed
      exact id
    | ok index =>
      cases done : channels.set index value with
      | error =>
        simp only [found, done, bind, Except.bind] at failed
        unfold ChannelOverride.set at done
        split at done <;> cases done
        cases failed
        exact id
      | ok next =>
        simp only [found, done, bind, Except.bind] at failed
        exact ih failed

theorem Commits.fits {values : Except Fault ChannelOverride} {after : Vehicle} {fault : Fault}
    (commits : vehicle.Commits values said (after, .error fault))
    (placing : ∀ fault, values = .error fault → ¬ fault.Unfit)
    (takes : ∀ channels link rest, values = .ok channels → said = ⟨.acquire, link⟩ :: rest →
      link.Takes Code.setRawRc.number channels.encode) : ¬ fault.Unfit := by
  generalize same : (after, Except.error fault) = result at commits
  cases commits with
  | refused =>
    cases same
    exact placing _ rfl
  | @unsent channels _ _ commands =>
    cases same
    exact (commands.ofPort fun link rest => takes channels link rest rfl).fits
  | sent => cases same

end Vehicle
end Courses

namespace Vehicle

variable {vehicle : Vehicle} {first : Link}

theorem coherent_of_alone {record : Record} (coherent : first.Coherent) (alone : record.Alone first)
    (link : Link) (rest : Record) (begins : record = ⟨.acquire, link⟩ :: rest) : link.Coherent := by
  obtain rfl : link = first := alone [] link rest begins
  exact coherent

theorem commits_behind {received : ReceiverChannels} {reading record : Record} {after : Vehicle}
    {outcome : Except Fault Unit} (coherent : first.Coherent)
    (reads : Runs (Record.alone first) (tryRead Message.Kind.rc.initial) [] (.rc received, .ok ()) reading)
    (runs : Runs (Record.alone first) (vehicle.commit (safe vehicle.map received.values.length)) reading
      (after, outcome) record) :
    ∃ said, vehicle.Commits (safe vehicle.map received.values.length) said (after, outcome) ∧
      ∀ (channels : ChannelOverride) link rest, channels.values.length = received.values.length →
        said = ⟨.acquire, link⟩ :: rest → link.Takes Code.setRawRc.number channels.encode := by
  obtain ⟨reads, before⟩ := reads.alone .nil
  obtain ⟨runs, alone⟩ := runs.alone before
  obtain ⟨asked, rfl, asks⟩ := Reads.of_runs reads
  obtain ⟨said, rfl, commits⟩ := Commits.of_runs runs
  obtain ⟨_, payload, same, transacts, decoded⟩ := asks.rc
  cases same
  obtain ⟨link, rest, begins, left, room⟩ := transacts.link
  have coherent : link.Coherent := coherent_of_alone coherent before link rest begins
  refine ⟨said, commits, fun channels other more length follows => ?_⟩
  subst follows
  obtain rfl : other = link := (alone _ _ _ rfl).trans (left first)
  apply coherent.takes_pairs
  rwa [length, ← ReceiverChannels.length_of_decode decoded]

/-- A reset by a task that has the link for itself never fails for lack of room. -/
theorem tryReset_fits {after : Vehicle} {fault : Fault} {record : Record} (coherent : first.Coherent)
    (runs : Runs (Record.alone first) vehicle.tryReset [] (after, .error fault) record) : ¬ fault.Unfit := by
  obtain ⟨⟨read, outcome⟩, reading, reads, rest⟩ := runs.of_bind
  cases outcome with
  | error =>
    cases rest
    obtain ⟨reads, alone⟩ := reads.alone .nil
    obtain ⟨said, rfl, asks⟩ := Reads.of_runs reads
    exact asks.fits (coherent_of_alone coherent alone)
  | ok =>
    obtain ⟨_, -, asks⟩ := Reads.of_runs (reads.alone .nil).1
    obtain ⟨received, -, rfl, -⟩ := asks.rc
    obtain ⟨said, commits, takes⟩ := commits_behind coherent reads rest
    exact commits.fits (fun fault => place_fits) fun channels link rest placed =>
      takes channels link rest (safe_sound placed).2

theorem Commits.length {updates : List (Control × UInt16)} {said : Record}
    {result : Vehicle × Except Fault Unit}
    (commits : vehicle.Commits (place vehicle.map vehicle.channels updates) said result) :
    result.1.channels.values.length = vehicle.channels.values.length := by
  generalize placed : place vehicle.map vehicle.channels updates = values at commits
  cases commits with
  | refused | unsent => rfl
  | sent => exact length_of_place placed

theorem length_of_obey (vehicle : Vehicle) (command : Command) (record : Record) :
    Abides (fun _ _ => True) (fun result _ => (command = .reset → result.2 = false) →
      result.1.channels.values.length = vehicle.channels.values.length) (vehicle.obey command) record := by
  cases command with
  | reset =>
    apply (vehicle.follows_obey .reset record).abides
    intro result said obeyed failed
    rw [obeyed.undone (failed rfl)]
  | _ =>
    rw [obey_eq]
    apply (follows_commit fun _ _ _ _ _ => trivial).bind
    intro result said commits
    apply (follows_verdict _ result _).abides
    intro answer told same
    obtain ⟨rfl, -⟩ := same
    exact fun _ => commits.length

end Vehicle

namespace Session

/-- A session behind a reset that passed, and behind no later one that did. The command of the reset went
out in the version. -/
inductive Following (version : Version) : Session → Prop
  | reset {session : Session} {vehicle : Vehicle} {before said : Record} {frame : Bytes}
      (runs : Runs Record.anything vehicle.tryReset before (session.vehicle, .ok ()) (before ++ said))
      (written : frame ∈ said.written)
      (packed : Frame.pack version Code.setRawRc.number session.vehicle.channels.encode = .ok frame) :
      Following version session
  | performed {session next : Session} {operation : Operation} {result : Operation.Result}
      {record : Record} (following : Following version session)
      (runs : Runs Record.anything (session.perform operation) [] (next, result) record)
      (unreset : operation = .reset → result = .passed false) : Following version next

theorem Following.room {version : Version} {session : Session} (following : Following version session) :
    2 * session.vehicle.channels.values.length ≤ version.maxPayload := by
  induction following with
  | reset _ _ packed =>
    rw [← ChannelOverride.length_encode]
    exact (Frame.pack_eq_ok_iff.mp packed).1.1
  | @performed session _ operation _ _ _ runs unreset ih =>
    have keeps : Abides (fun _ _ => True) (fun result _ => (operation = .reset → result.2 = .passed false) →
        result.1.vehicle.channels.values.length = session.vehicle.channels.values.length)
        (session.perform operation) [] := by
      apply @perform_keeps fun vehicle result => (operation = .reset → result = .passed false) →
        vehicle.channels.values.length = session.vehicle.channels.values.length
      · exact fun _ _ _ => rfl
      · intro command gives
        apply (session.vehicle.length_of_obey command []).weaken fun _ _ => id
        intro result _ same failed
        refine same fun reset => ?_
        subst reset
        have asked : operation = .reset := by
          cases operation <;> first | rfl | cases gives
        exact Operation.Result.passed.inj (failed asked)
    rw [keeps.of_runs runs unreset]
    exact ih

theorem Following.fits {version : Version} {session : Session} (following : Following version session)
    {command : Vehicle.Command} (other : command ≠ .reset) {after : Vehicle} {fault : Fault} {record : Record}
    (runs : Runs Record.anything (session.vehicle.attempt command) [] (after, .error fault) record)
    (same : ∀ link, ⟨.acquire, link⟩ ∈ record → link = .new version) : ¬ fault.Unfit := by
  rw [Vehicle.attempt_eq _ other] at runs
  obtain ⟨said, rfl, commits⟩ := Vehicle.Commits.of_runs runs
  apply commits.fits fun fault => Vehicle.place_fits
  intro channels link rest placed begins
  obtain rfl : link = .new version := same link (begins ▸ List.mem_cons_self ..)
  apply Link.coherent_new.takes_pairs
  rw [Vehicle.length_of_place placed]
  exact following.room

end Session

open Vehicle in
/-- Whatever the port does: where nobody else takes the link, a reset never fails for lack of room or of a
code. Behind a read of the channels that passed, on a map that has throttle on one of them, the command
passes or fails by the port. And from a reset that passed on, whatever else is done, arming, disarming and
commanding the sticks do not fail for lack of room or of a code in the version of that reset. -/
theorem readable_channels_fit (vehicle : Vehicle) :
    (∀ version after fault record,
      Runs (Record.alone (.new version)) vehicle.tryReset [] (after, .error fault) record →
        ¬ fault.Unfit) ∧
    (∀ version received reading,
      Runs (Record.alone (.new version)) (tryRead Message.Kind.rc.initial) [] (.rc received, .ok ())
        reading → vehicle.map.Usable received.values.length → ∀ after outcome record,
        Runs (Record.alone (.new version)) (vehicle.commit (safe vehicle.map received.values.length)) reading
          (after, outcome) record →
        outcome = .ok () ∨ ∃ fault, outcome = .error fault ∧ fault.OfPort) ∧
    ∀ version session, Session.Following version session → ∀ command, command ≠ .reset →
      ∀ after fault record,
        Runs Record.anything (session.vehicle.attempt command) [] (after, .error fault) record →
        (∀ link, ⟨.acquire, link⟩ ∈ record → link = .new version) → ¬ fault.Unfit := by
  refine ⟨fun version after fault record => tryReset_fits Link.coherent_new, ?_,
    fun version session following command other after fault record => following.fits other⟩
  intro version received reading reads usable after outcome record runs
  obtain ⟨said, commits, takes⟩ := commits_behind Link.coherent_new reads runs
  obtain ⟨channels, placed⟩ := exists_safe_iff.mpr usable
  rw [placed] at commits
  cases commits with
  | unsent commands =>
    exact .inr ⟨_, rfl, commands.ofPort fun link rest => takes channels link rest (safe_sound placed).2⟩
  | sent => exact .inl rfl

/-- A closed port, a device that answers, and arming behind a reset. -/
theorem quad_fits :
    (∃ record, Runs (Record.alone (.new .v1)) quad.tryReset [] (quad, .error .portClosed) record ∧
      ¬ Fault.portClosed.Unfit) ∧
    (∃ received reading after outcome record,
      Runs (Record.alone (.new .v1)) (tryRead Message.Kind.rc.initial) [] (.rc received, .ok ()) reading ∧
      quad.map.Usable received.values.length ∧
      Runs (Record.alone (.new .v1)) (quad.commit (Vehicle.safe quad.map received.values.length)) reading
        (after, outcome) record ∧
      (outcome = .ok () ∨ ∃ fault, outcome = .error fault ∧ fault.OfPort)) ∧
    ∃ version record, Session.Following version (.start quad) ∧
      Runs Record.anything (quad.attempt .arm) [] (quad, .error .portClosed) record ∧
      ¬ Fault.portClosed.Unfit := by
  obtain ⟨resets, commands, arms⟩ := readable_channels_fit quad
  have idle : (⟨.new .v1, [], []⟩ : Line).Idle (.new .v1) := ⟨rfl, rfl⟩
  refine ⟨?_, ?_, ?_⟩
  · have runs : ∃ record, Runs (Record.alone (.new .v1)) quad.tryReset [] (quad, .error .portClosed) record :=
      ⟨_, @Runs.ask _ _ _ .acquire _ _ _ _ (Link.new .v1) _ ⟨⟨trivial, rfl⟩, rfl⟩
        (@Runs.ask _ _ _ .isOpen _ _ _ _ false _ ⟨⟨trivial, rfl⟩, trivial⟩
          (@Runs.ask _ _ _ (.release (.new .v1)) _ _ _ _ () _ ⟨⟨trivial, rfl⟩, trivial⟩ .pure))⟩
    obtain ⟨record, runs⟩ := runs
    exact ⟨record, runs, resets _ _ _ _ runs⟩
  · obtain ⟨_, line, reads, rfl, left⟩ := (ends_tryRead Link.coherent_new attentive_tells idle).exists_runs
    obtain ⟨reading, reads, same⟩ := @Line.runs_alone _ _ _ _ _ _ reads (.new .v1) [] rfl
    obtain ⟨⟨after, outcome⟩, _, sends, -⟩ :=
      (@Vehicle.ends_commit _ _ _ quad _ quad_commandable left).exists_runs
    obtain ⟨record, sends, -⟩ := Line.runs_alone sends same
    have usable : quad.map.Usable 5 := ⟨2, by decide, rfl⟩
    exact ⟨_, reading, after, outcome, record, reads, usable, sends,
      commands _ _ _ reads usable _ _ _ sends⟩
  · obtain ⟨_, _, runs, rfl, -⟩ :=
      (@Vehicle.ends_tryReset _ _ _ quad _ _ Link.coherent_new attentive_tells rfl quad_commandable
        idle).exists_runs
    obtain ⟨said, runs⟩ := Line.runs_anything runs []
    have commanded : said.Commanded quad.channels := by
      obtain ⟨_, rfl, attempted⟩ := (quad.follows_attempt .reset []).of_runs runs
      exact (attempted.commanded quad.channels).mpr rfl
    obtain ⟨frame, written, version, packed⟩ := commanded.written
    have following : Session.Following version (.start quad) := .reset runs written packed
    have closed : ∃ record, Runs Record.anything (quad.attempt .arm) [] (quad, .error .portClosed) record ∧
        ∀ link, ⟨.acquire, link⟩ ∈ record → link = .new version :=
      ⟨_, @Runs.ask _ _ _ .acquire _ _ _ _ (Link.new version) _ ⟨trivial, rfl⟩
        (@Runs.ask _ _ _ .isOpen _ _ _ _ false _ ⟨trivial, rfl⟩
          (@Runs.ask _ _ _ (.release (.new version)) _ _ _ _ () _ ⟨trivial, rfl⟩ .pure)), by
        intro link member
        simp only [List.nil_append, List.cons_append, List.mem_cons, List.not_mem_nil, or_false] at member
        obtain same | same | same := member <;> cases same
        rfl⟩
    obtain ⟨record, runs, same⟩ := closed
    exact ⟨version, record, following, runs, arms _ _ following .arm nofun _ _ _ runs same⟩

end FlightLink
