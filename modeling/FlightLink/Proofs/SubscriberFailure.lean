import FlightLink.Proofs.PollDeliveries
import FlightLink.Proofs.PollerStopping

/-! What a subscriber leaves behind that breaks down. One activity of a poller goes on at most, so that
nothing of the poller is left until it is launched again. And a message is delivered when its poll is over,
so that the activity has given the link back. -/

namespace FlightLink

open Program (Reaches Runs)

section Links

variable {α : Type} {result : α} {said : Record}

theorem Link.released_of_locked {body : Link → Program (Link × α)}
    (runs : Runs Record.anything (Link.locked body) [] result said) :
    ∃ link, said.getLast? = some ⟨.release link, ()⟩ := by
  obtain ⟨same, -⟩ | ⟨link, later, rfl, works⟩ := runs.reaches.of_ask
  · cases same
  have whole : Runs Record.anything ((body link).bind fun ended => .ask (.release ended.1) fun _ =>
      .pure ended.2) [] result later := works.runs
  obtain ⟨⟨left, kept⟩, middle, -, rest⟩ := whole.of_bind
  obtain ⟨last, rfl, gives⟩ := rest.fresh
  obtain ⟨same, -⟩ | ⟨answer, nothing, rfl, ends⟩ := gives.reaches.of_ask
  · cases same
  obtain ⟨-, rfl⟩ := ends.of_pure
  refine ⟨left, ?_⟩
  rw [← List.cons_append]
  exact List.getLast?_concat

end Links

namespace Poller

variable {id : PollerId} {kind : Message.Kind} {record : Record}

theorem Polled.released {outcome : Except Fault Unit × Bytes} (polled : Polled id kind record outcome) :
    ∃ link, record.getLast? = some ⟨.release link, ()⟩ := by
  obtain ⟨transacts⟩ := polled
  obtain ⟨link, last⟩ := Link.released_of_locked transacts
  refine ⟨link, ?_⟩
  rw [List.getLast?_append, List.getLast?_cons_cons, List.getLast?_cons, last]
  rfl

end Poller

def Deed.query? (index : Nat) : Deed → Option Query
  | .asked (.activity id) query => if id.index = index then some query else none
  | _ => none

theorem Deed.query?_eq_some_iff {deed : Deed} {index : Nat} {query : Query} :
    deed.query? index = some query ↔ deed = .asked (.activity ⟨index⟩) query := by
  unfold query?
  split
  next id other =>
    obtain ⟨position⟩ := id
    by_cases same : position = index
    · subst same
      simp
    · simp [same]
  next other => exact ⟨nofun, fun same => absurd same (other _ _)⟩

namespace Ensemble

variable {ensemble before after last : Ensemble} {deed : Deed} {deeds past : List Deed} {index : Nat}
  {stint later : Stint} {cares : Nat → Care} {poller : PollerId} {party : Party}

section Single

/-- One activity of a poller goes on at most. -/
def Single (ensemble : Ensemble) : Prop := ∀ poller first second,
  ensemble.Live poller first → ensemble.Live poller second → first = second

theorem Step.live_launched (step : Step before deed after) (silent : ∀ index, ¬ before.Live poller index)
    (live : after.Live poller index) : index = before.stints.length := by
  obtain spares | ⟨party, ⟨request, answer⟩, middle, rfl, changes, spares⟩ := step.spares_or poller
  · exact absurd (spares.live index live) (silent index)
  · have meanwhile := spares.live index live
    obtain spares | ⟨-, rfl⟩ | ⟨-, rfl⟩ | ⟨subscriber, cell, -, -, rfl⟩ := changes.spares_or poller
    · exact absurd (spares.live index meanwhile) (silent index)
    · exact absurd meanwhile (silent index)
    · exact absurd meanwhile (silent index)
    · obtain live | ⟨latest, -⟩ := Ensemble.live_launched meanwhile
      · exact absurd live (silent index)
      · exact latest

theorem Single.step (single : before.Single) (valid : before.Valid cares) (orderly : before.Orderly)
    (step : Step before deed after) : after.Single := by
  intro poller first second live liveToo
  by_cases launches : deed.Launches poller
  · have silent := (valid.stopped_of_launches orderly step launches).1.silent
    exact (step.live_launched silent live).trans (step.live_launched silent liveToo).symm
  · exact single poller first second (step.was_live launches live) (step.was_live launches liveToo)

theorem Single.path (single : before.Single) (sound : before.Sound) (path : Path before deeds after) :
    after.Single := by
  induction path with
  | none => exact single
  | step path step ih =>
    have sound := sound.path path
    obtain ⟨cares, valid⟩ := sound.valid
    exact ih.step valid sound.orderly step

theorem single_start {version : Version} {sessions : List Session} {subscriber : PollerId → Subscriber}
    (numbered : Numbered (sessions.flatMap Session.owned)) :
    (start version sessions subscriber).Single := by
  have number {poller : PollerId} {index : Nat}
      (live : (start version sessions subscriber).Live poller index) : poller = ⟨index⟩ := by
    obtain ⟨stint, found, rfl, -⟩ := live
    simp only [start, List.getElem?_map, Option.map_eq_some_iff] at found
    obtain ⟨listed, found, rfl⟩ := found
    exact numbered index listed found
  intro poller first second live liveToo
  exact PollerId.mk.inj ((number live).symm.trans (number liveToo))

end Single

section Crashed

theorem Changes.origin {request : Request} (changes : Changes before request after)
    (found : after.stints[index]? = some later) :
    before.stints[index]? = some later ∨ later.record = [] := by
  cases changes with
  | launched =>
    obtain inside | outside := Nat.lt_or_ge index before.stints.length
    · exact .inl ((List.getElem?_append_left inside).symm.trans found)
    · have last := (List.getElem?_append_right outside).symm.trans found
      rw [List.getElem?_singleton] at last
      split at last
      · cases last
        exact .inr rfl
      · cases last
  | _ => exact .inl found

theorem Step.origin (step : Step before deed after) (found : after.stints[index]? = some later) :
    (∃ stint, before.stints[index]? = some stint ∧
      later.record = stint.record ++ (deed.query? index).toList) ∨ later.record = [] := by
  have still (nothing : deed.query? index = none) (same : before.stints[index]? = some later) :
      ∃ stint, before.stints[index]? = some stint ∧
        later.record = stint.record ++ (deed.query? index).toList := by
    rw [nothing]
    exact ⟨later, same, (List.append_nil _).symm⟩
  have replaced {position : Nat} {old next : Stint} (due : before.stints[position]? = some old)
      (found : (before.setStint position next).stints[index]? = some later)
      (nothing : deed.query? index = none) (same : next.record = old.record) :
      ∃ stint, before.stints[index]? = some stint ∧
        later.record = stint.record ++ (deed.query? index).toList := by
    obtain ⟨rfl, rfl⟩ | ⟨-, found⟩ := found_of_set found
    · rw [nothing]
      exact ⟨old, due, same.trans (List.append_nil _).symm⟩
    · exact still nothing found
  cases step with
  | pass | begin | finish | ownerTurns => exact .inl (still rfl found)
  | ownerAsks _ served => exact ((serves_changes served).origin found).imp_left (still rfl)
  | @stintAsks position old request next answer middle due _ _ served =>
    obtain ⟨rfl, rfl⟩ | ⟨apart, found⟩ := found_of_set found
    · refine .inl ⟨old, due, ?_⟩
      simp [Deed.query?]
    · refine ((serves_changes served).origin found).imp_left (still ?_)
      exact if_neg apart
  | stintTurns due | stintEnds due | stintCrashes due => exact .inl (replaced due found rfl rfl)

/-- The activity gave the link back and asked for nothing since, and whoever has the link has taken it
since. -/
def GaveBack (past : List Deed) (ensemble : Ensemble) (index : Nat) : Prop :=
  ∃ earlier link later, past = earlier ++ .asked (.activity ⟨index⟩) ⟨.release link, ()⟩ :: later ∧
    (∀ query, .asked (.activity ⟨index⟩) query ∉ later) ∧
    ∀ party, ensemble.holder = some party → ∃ link, .asked party ⟨.acquire, link⟩ ∈ later

theorem Step.holder (step : Step before deed after) (holds : after.holder = some party) :
    before.holder = some party ∨ ∃ link, deed = .asked party ⟨.acquire, link⟩ := by
  have taken {taker : Party} {request : Request} {answer : request.Answer} {middle : Ensemble}
      (served : serves taker request before answer middle) (holds : middle.holder = some party) :
      before.holder = some party ∨ ∃ link, Deed.asked taker ⟨request, answer⟩ =
        .asked party ⟨.acquire, link⟩ := by
    cases request with
    | acquire =>
      obtain ⟨-, -, rfl⟩ := served
      cases holds
      exact .inr ⟨answer, rfl⟩
    | release =>
      obtain ⟨-, rfl⟩ := served
      cases holds
    | launch =>
      obtain ⟨cell, -, rfl⟩ := served
      exact .inl holds
    | dismiss | count =>
      cases served
      exact .inl holds
    | rest =>
      obtain ⟨-, rfl⟩ | ⟨-, rfl⟩ := served
      · exact .inl holds
      · exact .inl holds
    | _ =>
      obtain ⟨-, rfl⟩ := served
      exact .inl holds
  cases step with
  | ownerAsks _ served | stintAsks _ _ _ served => exact taken served holds
  | _ => exact .inl holds

theorem Step.released {link : Link} {answer : Unit}
    (step : Step before (.asked party ⟨.release link, answer⟩) after) : after.holder = none := by
  cases step with
  | ownerAsks _ served | stintAsks _ _ _ served =>
    obtain ⟨-, rfl⟩ := served
    rfl

/-- An activity that gave the link back last does not have it. -/
theorem Path.gaveBack {first : Ensemble} (path : Path first past ensemble)
    (fresh : ∀ stint ∈ first.stints, stint.record = []) (found : ensemble.stints[index]? = some stint)
    {link : Link} (last : stint.record.getLast? = some ⟨.release link, ()⟩) :
    GaveBack past ensemble index := by
  -- By the last thing in the activity's record: it is the deed that comes last, or it was there before.
  induction path generalizing stint with
  | none =>
    rw [fresh stint (List.mem_of_getElem? found)] at last
    cases last
  | @step middle after deeds deed path step ih =>
    obtain ⟨old, due, same⟩ | nothing := step.origin found
    · cases asked : deed.query? index with
      | none =>
        rw [asked] at same
        rw [same, Option.toList_none, List.append_nil] at last
        obtain ⟨earlier, link, later, rfl, silent, free⟩ := ih due last
        refine ⟨earlier, link, later ++ [deed], by simp, fun query member => ?_, fun party holds => ?_⟩
        · obtain member | here := List.mem_append.mp member
          · exact silent query member
          · cases asked.symm.trans (Deed.query?_eq_some_iff.mpr (List.mem_singleton.mp here).symm)
        · obtain holds | ⟨link, rfl⟩ := step.holder holds
          · obtain ⟨link, member⟩ := free party holds
            exact ⟨link, List.mem_append_left _ member⟩
          · exact ⟨link, List.mem_append_right _ (List.mem_singleton_self _)⟩
      | some query =>
        rw [asked] at same
        rw [same, Option.toList_some, List.getLast?_concat] at last
        cases last
        obtain rfl := Deed.query?_eq_some_iff.mp asked
        refine ⟨deeds, link, [], rfl, fun _ => List.not_mem_nil, fun party holds => ?_⟩
        cases step.released.symm.trans holds
    · rw [nothing] at last
      cases last

end Crashed
end Ensemble
end FlightLink
