import FlightLink.Bench.Basic
import FlightLink.Proofs.CrewInterleaving
import FlightLink.Proofs.ProgramRecord

/-! Owners with their sessions, and the activities of their pollers, all at the same time. Anybody may
go on at any time, by one request, so that every order is possible, and so is any time that a request
takes. A party waits for the link, for an activity that it joins, and between two polls. The port says
anything that a port can say, and a subscriber may break down over any message. -/

namespace FlightLink

inductive Party
  | owner (index : Nat)
  | activity (id : ActivityId)
  deriving DecidableEq

/-- One run of a poller's activity, with all that it has asked. -/
structure Stint : Type 1 where
  poller : PollerId
  kind : Message.Kind
  period : Duration
  subscriber : Subscriber
  program : Program Unit
  record : Record
  ending : Option Ending

def Stint.initial (poller : PollerId) (kind : Message.Kind) (period : Duration)
    (subscriber : Subscriber) : Stint :=
  ⟨poller, kind, period, subscriber, Poller.activity poller kind period subscriber, [], none⟩

/-- What an owner sets out to do with its session. -/
inductive Errand
  | perform (operation : Operation)
  | leave

def Errand.program (session : Session) : Errand → Program Session
  | .perform operation => do return (← session.perform operation).1
  | .leave => do return { session with vehicle := ← session.vehicle.leave }

inductive Owner
  | idle (session : Session)
  | busy (session : Session) (errand : Errand) (program : Program Session)

structure Ensemble : Type 1 where
  clock : Duration
  link : Link
  holder : Option Party
  cells : List Cell
  stints : List Stint
  owners : List Owner

def Session.owned (session : Session) : List Poller :=
  session.vehicle.pollers ++ session.pollers.map (·.2)

/-- Requests that change whether a poller is wanted, or who has its activity. -/
def Request.Touches (poller : PollerId) : Request → Prop
  | .dismiss other | .claim other | .launch other _ => other = poller
  | _ => False

def Request.Launches (poller : PollerId) : Request → Prop
  | .launch other _ => other = poller
  | _ => False

theorem Request.Launches.touches {poller : PollerId} {request : Request}
    (launches : request.Launches poller) : request.Touches poller := by
  cases request <;> first | exact launches | cases launches

inductive Deed
  | passed (span : Duration)
  | began (owner : Nat) (errand : Errand)
  | finished (owner : Nat)
  | asked (party : Party) (query : Query)
  | turned (party : Party)
  | ended (activity : ActivityId) (ending : Ending)

def Deed.party? : Deed → Option Party
  | .passed _ => none
  | .began owner _ | .finished owner => some (.owner owner)
  | .asked party _ | .turned party => some party
  | .ended activity _ => some (.activity activity)

def Deed.Touches (poller : PollerId) : Deed → Prop
  | .asked _ query => query.request.Touches poller
  | _ => False

def Deed.Launches (poller : PollerId) : Deed → Prop
  | .asked _ query => query.request.Launches poller
  | _ => False

theorem Deed.Launches.touches {poller : PollerId} {deed : Deed} (launches : deed.Launches poller) :
    deed.Touches poller := by
  cases deed with
  | asked party query => exact Request.Launches.touches launches
  | _ => cases launches

/-- What becomes of an activity in some deeds. -/
structure Stint.Precedes (stint later : Stint) (index : Nat) (deeds : List Deed) : Prop where
  same : later.poller = stint.poller
  ended : stint.ending ≠ none → later = stint
  asked : ∀ query ∈ later.record,
    query ∈ stint.record ∨ .asked (.activity ⟨index⟩) query ∈ deeds

theorem Stint.Precedes.refl (stint : Stint) (index : Nat) (deeds : List Deed) :
    stint.Precedes stint index deeds := ⟨rfl, fun _ => rfl, fun _ => .inl⟩

namespace Ensemble

/-- Idle owners, whose pollers were all launched just now. -/
def start (version : Version) (sessions : List Session) (subscriber : PollerId → Subscriber) :
    Ensemble where
  clock := ⟨0⟩
  link := .new version
  holder := none
  cells := (sessions.flatMap Session.owned).map fun poller =>
    ⟨poller.kind, poller.hertz, poller.period, true, false, .zero, some ⟨poller.id.index⟩⟩
  stints := (sessions.flatMap Session.owned).map fun poller =>
    .initial poller.id poller.kind poller.period (subscriber poller.id)
  owners := sessions.map .idle

def cell? (ensemble : Ensemble) (poller : PollerId) : Option Cell := ensemble.cells[poller.index]?

def updateCell (ensemble : Ensemble) (poller : PollerId) (change : Cell → Cell) : Ensemble :=
  { ensemble with cells := ensemble.cells.modify poller.index change }

def dismissed (ensemble : Ensemble) (poller : PollerId) : Ensemble :=
  ensemble.updateCell poller fun cell => { cell with wanted := false, wakeUp := true }

def claimed (ensemble : Ensemble) (poller : PollerId) : Ensemble :=
  ensemble.updateCell poller fun cell => { cell with activity := none }

def roused (ensemble : Ensemble) (poller : PollerId) : Ensemble :=
  ensemble.updateCell poller fun cell => { cell with wakeUp := true }

def enlisted (ensemble : Ensemble) (cell : Cell) : Ensemble :=
  { ensemble with cells := ensemble.cells ++ [cell] }

def launched (ensemble : Ensemble) (poller : PollerId) (cell : Cell) (subscriber : Subscriber) :
    Ensemble :=
  { ensemble with
    cells := ensemble.cells.set poller.index
      { cell with wanted := true, activity := some ⟨ensemble.stints.length⟩ }
    stints := ensemble.stints ++ [.initial poller cell.kind cell.period subscriber] }

def setOwner (ensemble : Ensemble) (index : Nat) (owner : Owner) : Ensemble :=
  { ensemble with owners := ensemble.owners.set index owner }

def setStint (ensemble : Ensemble) (index : Nat) (stint : Stint) : Ensemble :=
  { ensemble with stints := ensemble.stints.set index stint }

/-- When a request of a party is answered, with what, and what it leaves. A rest ends at its deadline or
uses up a wake-up. Nothing is known of the rest: the port, and how long a sleep takes. -/
def serves (party : Party) : Surroundings Ensemble
  | .acquire, before, link, after =>
    before.holder = none ∧ link = before.link ∧ after = { before with holder := some party }
  | .release link, before, _, after =>
    before.holder = some party ∧ after = { before with link, holder := none }
  | .now, before, time, after => time = before.clock ∧ after = before
  | .enlist kind hertz period, before, poller, after =>
    poller = ⟨before.cells.length⟩ ∧
      after = before.enlisted ⟨kind, hertz, period, false, false, .zero, none⟩
  | .launch poller subscriber, before, _, after =>
    ∃ cell, before.cell? poller = some cell ∧ after = before.launched poller cell subscriber
  | .dismiss poller, before, _, after => after = before.dismissed poller
  | .claim poller, before, activity, after =>
    activity = (before.cell? poller).bind (·.activity) ∧ after = before.claimed poller
  | .join activity, before, ending, after =>
    (∃ stint, before.stints[activity.index]? = some stint ∧ stint.ending = some ending) ∧ after = before
  | .isWanted poller, before, wanted, after =>
    wanted = (before.cell? poller).any (·.wanted) ∧ after = before
  | .count poller tally, before, _, after =>
    after = before.updateCell poller fun cell => { cell with counts := cell.counts.add tally }
  | .rest poller deadline, before, _, after =>
    deadline ≤ before.clock ∧ after = before ∨
      (before.cell? poller).any (·.wakeUp) ∧
        after = before.updateCell poller fun cell => { cell with wakeUp := false }
  | request, before, answer, after => request.Possible answer ∧ after = before

inductive Step : Ensemble → Deed → Ensemble → Prop
  | pass {ensemble} (span : Duration) :
      Step ensemble (.passed span) { ensemble with clock := ensemble.clock + span }
  | begin {ensemble index session} (errand : Errand)
      (due : ensemble.owners[index]? = some (.idle session)) :
      Step ensemble (.began index errand)
        (ensemble.setOwner index (.busy session errand (errand.program session)))
  | finish {ensemble index session errand result}
      (due : ensemble.owners[index]? = some (.busy session errand (.pure result))) :
      Step ensemble (.finished index) (ensemble.setOwner index (.idle result))
  | ownerAsks {ensemble index session errand} {request : Request}
      {next : request.Answer → Program Session} {answer after}
      (due : ensemble.owners[index]? = some (.busy session errand (.ask request next)))
      (served : serves (.owner index) request ensemble answer after) :
      Step ensemble (.asked (.owner index) ⟨request, answer⟩)
        (after.setOwner index (.busy session errand (next answer)))
  | ownerTurns {ensemble index session errand} {ρ γ : Type} {body : ρ → Program (Progress ρ γ)}
      {start : ρ} {next : γ → Program Session}
      (due : ensemble.owners[index]? = some (.busy session errand (.iterate body start next))) :
      Step ensemble (.turned (.owner index))
        (ensemble.setOwner index (.busy session errand (Program.unfold body start next)))
  | stintAsks {ensemble index stint} {request : Request} {next : request.Answer → Program Unit}
      {answer after} (due : ensemble.stints[index]? = some stint) (underWay : stint.ending = none)
      (asks : stint.program = .ask request next)
      (served : serves (.activity ⟨index⟩) request ensemble answer after) :
      Step ensemble (.asked (.activity ⟨index⟩) ⟨request, answer⟩)
        (after.setStint index
          { stint with program := next answer, record := stint.record ++ [⟨request, answer⟩] })
  | stintTurns {ensemble index stint} {ρ γ : Type} {body : ρ → Program (Progress ρ γ)} {start : ρ}
      {next : γ → Program Unit} (due : ensemble.stints[index]? = some stint)
      (underWay : stint.ending = none) (turns : stint.program = .iterate body start next) :
      Step ensemble (.turned (.activity ⟨index⟩))
        (ensemble.setStint index { stint with program := Program.unfold body start next })
  | stintEnds {ensemble index stint} (due : ensemble.stints[index]? = some stint)
      (underWay : stint.ending = none) (past : stint.program = .pure ()) :
      Step ensemble (.ended ⟨index⟩ .finished)
        (ensemble.setStint index { stint with ending := some .finished })
  | stintCrashes {ensemble index stint subscriber ordinal message} {next : Unit → Program Unit}
      (due : ensemble.stints[index]? = some stint) (underWay : stint.ending = none)
      (delivers : stint.program = .ask (.deliver subscriber ordinal message) next) :
      Step ensemble (.ended ⟨index⟩ .crashed)
        (ensemble.setStint index { stint with ending := some .crashed })

inductive Path : Ensemble → List Deed → Ensemble → Prop
  | none {ensemble} : Path ensemble [] ensemble
  | step {first middle last deeds deed} (path : Path first deeds middle) (step : Step middle deed last) :
      Path first (deeds ++ [deed]) last

inductive Changes (before : Ensemble) : Request → Ensemble → Prop
  | lock {request} (link : Link) (holder : Option Party) :
      Changes before request { before with link, holder }
  | cell {request} (poller : PollerId) (change : Cell → Cell)
      (keeps : ∀ cell, (change cell).wanted = cell.wanted ∧ (change cell).activity = cell.activity) :
      Changes before request (before.updateCell poller change)
  | enlisted {kind hertz period} (cell : Cell) :
      Changes before (.enlist kind hertz period) (before.enlisted cell)
  | launched {poller subscriber cell} (found : before.cell? poller = some cell) :
      Changes before (.launch poller subscriber) (before.launched poller cell subscriber)
  | dismissed {poller} : Changes before (.dismiss poller) (before.dismissed poller)
  | claimed {poller} : Changes before (.claim poller) (before.claimed poller)

/-- The activity is one of the poller, and it goes on. -/
def Live (ensemble : Ensemble) (poller : PollerId) (index : Nat) : Prop :=
  ∃ stint, ensemble.stints[index]? = some stint ∧ stint.poller = poller ∧ stint.ending = none

/-- Nothing happens to a poller, but that an activity of it ends. -/
structure Spares (before : Ensemble) (poller : PollerId) (after : Ensemble) : Prop where
  cell : ∀ cell, before.cell? poller = some cell → ∃ other, after.cell? poller = some other ∧
    other.wanted = cell.wanted ∧ other.activity = cell.activity
  live : ∀ index, after.Live poller index → before.Live poller index

variable {ensemble before after : Ensemble} {party : Party} {poller other : PollerId}

section Cells

theorem cell?_updateCell {cell : Cell} (found : ensemble.cell? poller = some cell) (change : Cell → Cell) :
    (ensemble.updateCell poller change).cell? poller = some (change cell) := by
  rw [cell?] at found
  simp [cell?, updateCell, found]

theorem cell?_updateCell_of_ne (apart : other ≠ poller) (change : Cell → Cell) :
    (ensemble.updateCell other change).cell? poller = ensemble.cell? poller := by
  have indices : other.index ≠ poller.index := fun same => apart (congrArg PollerId.mk same)
  simp [cell?, updateCell, indices]

theorem updateCell_congr {cell : Cell} (found : ensemble.cell? poller = some cell)
    {first second : Cell → Cell} (same : first cell = second cell) :
    ensemble.updateCell poller first = ensemble.updateCell poller second := by
  simp only [updateCell]
  congr 1
  apply List.ext_getElem? fun index => ?_
  simp only [List.getElem?_modify]
  split
  next here =>
    subst here
    change Option.map _ (ensemble.cell? poller) = Option.map _ (ensemble.cell? poller)
    simp [found, same]
  next => rfl

theorem updateCell_of_eq {cell : Cell} (found : ensemble.cell? poller = some cell) {change : Cell → Cell}
    (same : change cell = cell) : ensemble.updateCell poller change = ensemble := by
  have still : ensemble.updateCell poller id = ensemble := by simp [updateCell]
  exact (updateCell_congr found same).trans still

theorem cell?_enlisted {cell : Cell} (found : ensemble.cell? poller = some cell) (fresh : Cell) :
    (ensemble.enlisted fresh).cell? poller = some cell := by
  have inside := (List.getElem?_eq_some_iff.mp found).1
  exact (List.getElem?_append_left inside).trans found

theorem cell?_launched_self {cell : Cell} (found : ensemble.cell? poller = some cell)
    (subscriber : Subscriber) : (ensemble.launched poller cell subscriber).cell? poller =
      some { cell with wanted := true, activity := some ⟨ensemble.stints.length⟩ } :=
  List.getElem?_set_self (List.getElem?_eq_some_iff.mp found).1

theorem cell?_launched_of_ne (apart : other ≠ poller) (cell : Cell) (subscriber : Subscriber) :
    (ensemble.launched other cell subscriber).cell? poller = ensemble.cell? poller :=
  List.getElem?_set_ne fun same => apart (congrArg PollerId.mk same)

/-! What is read of a poller's cell, when there is one. -/

variable {β : Type} {read : Cell → β} {fallback : β}

theorem elim_updateCell {change : Cell → Cell} (keeps : ∀ cell, read (change cell) = read cell) :
    ((ensemble.updateCell other change).cell? poller).elim fallback read =
      (ensemble.cell? poller).elim fallback read := by
  by_cases same : other = poller
  · subst same
    cases found : ensemble.cell? other with
    | none =>
      rw [cell?] at found
      simp [cell?, updateCell, found]
    | some cell => simp only [cell?_updateCell found, Option.elim_some, keeps]
  · rw [cell?_updateCell_of_ne same]

theorem elim_enlisted {cell : Cell} (fresh : read cell = fallback) :
    ((ensemble.enlisted cell).cell? poller).elim fallback read =
      (ensemble.cell? poller).elim fallback read := by
  by_cases inside : poller.index < ensemble.cells.length
  · exact congrArg (·.elim fallback read) (List.getElem?_append_left inside)
  · have outside := Nat.le_of_not_lt inside
    have missing : ensemble.cell? poller = none := List.getElem?_eq_none outside
    have last : (ensemble.enlisted cell).cell? poller = [cell][poller.index - ensemble.cells.length]? :=
      List.getElem?_append_right outside
    rw [missing, last]
    cases poller.index - ensemble.cells.length with
    | zero => exact fresh
    | succ => rfl

theorem elim_launched {cell : Cell} (found : ensemble.cell? other = some cell) (subscriber : Subscriber)
    (keeps : ∀ cell activity, read { cell with wanted := true, activity } = read cell) :
    ((ensemble.launched other cell subscriber).cell? poller).elim fallback read =
      (ensemble.cell? poller).elim fallback read := by
  by_cases same : other = poller
  · subst same
    rw [cell?_launched_self found, found, Option.elim_some, Option.elim_some, keeps]
  · rw [cell?_launched_of_ne same]

end Cells

theorem serves_changes {request : Request} {answer : request.Answer}
    (served : serves party request before answer after) : Changes before request after := by
  cases request with
  | acquire =>
    obtain ⟨-, -, rfl⟩ := served
    exact .lock ..
  | release link =>
    obtain ⟨-, rfl⟩ := served
    exact .lock ..
  | enlist =>
    obtain ⟨-, rfl⟩ := served
    exact .enlisted _
  | launch =>
    obtain ⟨cell, found, rfl⟩ := served
    exact .launched found
  | dismiss =>
    cases served
    exact .dismissed
  | claim =>
    obtain ⟨-, rfl⟩ := served
    exact .claimed
  | count =>
    cases served
    exact .cell _ _ fun _ => ⟨rfl, rfl⟩
  | rest =>
    obtain ⟨-, rfl⟩ | ⟨-, rfl⟩ := served
    · exact .lock ..
    · exact .cell _ _ fun _ => ⟨rfl, rfl⟩
  | _ =>
    obtain ⟨-, rfl⟩ := served
    exact .lock ..

theorem serves_possible {request : Request} {answer : request.Answer}
    (served : serves party request before answer after) : request.Possible answer := by
  cases request with
  | read => exact served.1
  | _ => trivial

theorem Changes.owners {request : Request} (changes : Changes before request after) :
    after.owners = before.owners := by
  cases changes <;> rfl

theorem Changes.stint {request : Request} (changes : Changes before request after) {index : Nat}
    {stint : Stint} (found : before.stints[index]? = some stint) :
    after.stints[index]? = some stint := by
  cases changes with
  | launched =>
    have inside := (List.getElem?_eq_some_iff.mp found).1
    exact (List.getElem?_append_left inside).trans found
  | _ => exact found

theorem live_launched {cell : Cell} {subscriber : Subscriber} {index : Nat}
    (live : (ensemble.launched other cell subscriber).Live poller index) :
    ensemble.Live poller index ∨ index = ensemble.stints.length ∧ other = poller := by
  obtain ⟨stint, found, same, underWay⟩ := live
  obtain inside | outside := Nat.lt_or_ge index ensemble.stints.length
  · exact .inl ⟨stint, (List.getElem?_append_left inside).symm.trans found, same, underWay⟩
  · have last := (List.getElem?_append_right outside).symm.trans found
    rw [List.getElem?_singleton] at last
    split at last
    · cases last
      exact .inr ⟨by omega, same⟩
    · cases last

namespace Spares

theorem of_eq (cells : after.cells = before.cells) (stints : after.stints = before.stints) :
    before.Spares poller after where
  cell cell found := ⟨cell, (congrArg (·[poller.index]?) cells).trans found, rfl, rfl⟩
  live index live := by
    obtain ⟨stint, found, own⟩ := live
    exact ⟨stint, stints ▸ found, own⟩

theorem trans {last : Ensemble} (first : before.Spares poller after) (second : after.Spares poller last) :
    before.Spares poller last where
  cell cell found := by
    obtain ⟨middle, found, wanted, activity⟩ := first.cell cell found
    obtain ⟨other, found, sameWanted, sameActivity⟩ := second.cell middle found
    exact ⟨other, found, sameWanted.trans wanted, sameActivity.trans activity⟩
  live index live := first.live index (second.live index live)

theorem setOwner (index : Nat) (owner : Owner) :
    ensemble.Spares poller (ensemble.setOwner index owner) := of_eq rfl rfl

theorem setStint {index : Nat} {stint next : Stint} (found : ensemble.stints[index]? = some stint)
    (same : next.poller = stint.poller) (underWay : stint.ending = none) :
    ensemble.Spares poller (ensemble.setStint index next) := by
  refine ⟨fun cell found => ⟨cell, found, rfl, rfl⟩, fun position live => ?_⟩
  obtain ⟨later, sought, own, runs⟩ := live
  obtain ⟨rfl, rfl⟩ | ⟨-, sought⟩ := found_of_set sought
  · exact ⟨stint, found, same.symm.trans own, underWay⟩
  · exact ⟨later, sought, own, runs⟩

end Spares

theorem Changes.spares_or {request : Request} (changes : Changes before request after)
    (poller : PollerId) : before.Spares poller after ∨
      request = .dismiss poller ∧ after = before.dismissed poller ∨
      request = .claim poller ∧ after = before.claimed poller ∨
      ∃ subscriber cell, request = .launch poller subscriber ∧ before.cell? poller = some cell ∧
        after = before.launched poller cell subscriber := by
  cases changes with
  | lock => exact .inl (.of_eq rfl rfl)
  | cell touched change keeps =>
    refine .inl ⟨fun cell found => ?_, fun _ => id⟩
    by_cases same : touched = poller
    · subst same
      exact ⟨change cell, cell?_updateCell found change, keeps cell⟩
    · exact ⟨cell, (cell?_updateCell_of_ne same change).trans found, rfl, rfl⟩
  | enlisted cell =>
    exact .inl ⟨fun other found => ⟨other, cell?_enlisted found cell, rfl, rfl⟩, fun _ => id⟩
  | @launched touched subscriber cell found =>
    by_cases same : touched = poller
    · subst same
      exact .inr (.inr (.inr ⟨subscriber, cell, rfl, found, rfl⟩))
    · refine .inl ⟨fun other found => ?_, fun index live => ?_⟩
      · exact ⟨other, (cell?_launched_of_ne same ..).trans found, rfl, rfl⟩
      · exact (live_launched live).resolve_right fun last => same last.2
  | @dismissed touched =>
    by_cases same : touched = poller
    · subst same
      exact .inr (.inl ⟨rfl, rfl⟩)
    · exact .inl ⟨fun cell found => ⟨cell, (cell?_updateCell_of_ne same _).trans found, rfl, rfl⟩,
        fun _ => id⟩
  | @claimed touched =>
    by_cases same : touched = poller
    · subst same
      exact .inr (.inr (.inl ⟨rfl, rfl⟩))
    · exact .inl ⟨fun cell found => ⟨cell, (cell?_updateCell_of_ne same _).trans found, rfl, rfl⟩,
        fun _ => id⟩

theorem Changes.spares {request : Request} (changes : Changes before request after)
    (apart : ¬ request.Touches poller) : before.Spares poller after := by
  obtain spares | ⟨rfl, -⟩ | ⟨rfl, -⟩ | ⟨subscriber, cell, rfl, -⟩ := changes.spares_or poller
  · exact spares
  · exact absurd rfl apart
  · exact absurd rfl apart
  · exact absurd rfl apart

namespace Step

variable {deed : Deed}

theorem spares_or (step : Step before deed after) (poller : PollerId) : before.Spares poller after ∨
    ∃ party query middle, deed = .asked party query ∧ Changes before query.request middle ∧
      middle.Spares poller after := by
  cases step with
  | pass => exact .inl (.of_eq rfl rfl)
  | begin | finish | ownerTurns => exact .inl (.setOwner ..)
  | ownerAsks _ served => exact .inr ⟨_, _, _, rfl, serves_changes served, .setOwner ..⟩
  | stintAsks due underWay _ served =>
    have changes := serves_changes served
    exact .inr ⟨_, _, _, rfl, changes, .setStint (changes.stint due) rfl underWay⟩
  | stintTurns due underWay | stintEnds due underWay | stintCrashes due underWay =>
    exact .inl (.setStint due rfl underWay)

theorem spares (step : Step before deed after) (apart : ¬ deed.Touches poller) :
    before.Spares poller after := by
  obtain spares | ⟨party, query, middle, rfl, changes, spares⟩ := step.spares_or poller
  · exact spares
  · exact (changes.spares apart).trans spares

theorem owner {index : Nat} (step : Step before deed after) (apart : deed.party? ≠ some (.owner index)) :
    after.owners[index]? = before.owners[index]? := by
  have elsewhere {other : Nat} (party : some (Party.owner other) ≠ some (.owner index)) : other ≠ index :=
    fun same => party (same ▸ rfl)
  cases step with
  | begin | finish | ownerTurns => exact List.getElem?_set_ne (elsewhere apart)
  | ownerAsks _ served =>
    exact (List.getElem?_set_ne (elsewhere apart)).trans
      (congrArg (·[index]?) (serves_changes served).owners)
  | stintAsks _ _ _ served => exact congrArg (·[index]?) (serves_changes served).owners
  | pass | stintTurns | stintEnds | stintCrashes => rfl

theorem stint (step : Step before deed after) {index : Nat} {stint : Stint}
    (found : before.stints[index]? = some stint) :
    ∃ later, after.stints[index]? = some later ∧ stint.Precedes later index [deed] := by
  have kept {ensemble : Ensemble} (found : ensemble.stints[index]? = some stint) {position : Nat}
      {old new : Stint} (due : ensemble.stints[position]? = some old)
      (precedes : old.Precedes new position [deed]) :
      ∃ later, (ensemble.setStint position new).stints[index]? = some later ∧
        stint.Precedes later index [deed] := by
    by_cases here : position = index
    · subst here
      cases due.symm.trans found
      exact ⟨new, List.getElem?_set_self (List.getElem?_eq_some_iff.mp due).1, precedes⟩
    · exact ⟨stint, (List.getElem?_set_ne here).trans found, .refl ..⟩
  cases step with
  | pass | begin | finish | ownerTurns => exact ⟨stint, found, .refl ..⟩
  | ownerAsks _ served => exact ⟨stint, (serves_changes served).stint found, .refl ..⟩
  | stintAsks due underWay _ served =>
    have changes := serves_changes served
    refine kept (changes.stint found) (changes.stint due)
      ⟨rfl, fun past => absurd underWay past, fun query member => ?_⟩
    obtain member | last := List.mem_append.mp member
    · exact .inl member
    · obtain rfl := List.mem_singleton.mp last
      exact .inr (List.mem_singleton_self _)
  | stintTurns due underWay | stintEnds due underWay | stintCrashes due underWay =>
    exact kept found due ⟨rfl, fun past => absurd underWay past, fun _ => .inl⟩

end Step

theorem Path.not_mem {deed : Deed} {deeds : List Deed} (path : Path before deeds after)
    (never : ∀ {earlier middle later}, Path before earlier middle → ¬ Step middle deed later) :
    deed ∉ deeds := by
  induction path with
  | none => exact List.not_mem_nil
  | step path step ih =>
    intro member
    obtain member | same := List.mem_append.mp member
    · exact ih member
    · cases List.mem_singleton.mp same
      exact never path step

/-- What every step keeps that is no deed of some kind, a path without such deeds keeps. -/
theorem Path.keeps {avoided : Deed → Prop} {kept : Ensemble → Prop} {deeds : List Deed}
    (path : Path before deeds after) (apart : ∀ deed ∈ deeds, ¬ avoided deed) (first : kept before)
    (keeps : ∀ {middle deed last}, Step middle deed last → ¬ avoided deed → kept middle → kept last) :
    kept after := by
  induction path with
  | none => exact first
  | step _ step ih =>
    have earlier := ih fun deed member => apart deed (List.mem_append_left _ member)
    exact keeps step (apart _ (List.mem_append_right _ (List.mem_singleton_self _))) earlier

theorem Path.stint {deeds : List Deed} (path : Path before deeds after) {index : Nat} {stint : Stint}
    (found : before.stints[index]? = some stint) :
    ∃ later, after.stints[index]? = some later ∧ stint.Precedes later index deeds := by
  induction path with
  | none => exact ⟨stint, found, .refl ..⟩
  | step _ step ih =>
    obtain ⟨middle, found, first⟩ := ih
    obtain ⟨later, found, second⟩ := step.stint found
    refine ⟨later, found, second.same.trans first.same, fun past => ?_, fun query member => ?_⟩
    · obtain rfl := first.ended past
      exact second.ended past
    · obtain member | last := second.asked query member
      · exact (first.asked query member).imp_right (List.mem_append_left _)
      · exact .inr (List.mem_append_right _ last)

end Ensemble
end FlightLink
