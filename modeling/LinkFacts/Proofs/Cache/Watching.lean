import LinkFacts.Proofs.Cache.Ledger
import LinkFacts.Component.Page

/-!
# Subscriptions and mounts

What becomes of a subscription when it is polled, and what the operations of a page do to its store.
-/

namespace LinkFacts

open Replay (Cell Phase Stage Waker)

namespace Store

variable {store before after : Store} {demand : Demand}

/-- A subscription has a computation, which is over if the subscription is. -/
def Holds (store : Store) (watch : Watch) : Prop :=
  ∃ phase, store.phase? watch.place = some phase ∧
    (watch.done = true → ∃ outcome, phase = Cell.settledPhase outcome)

theorem Leads.begun {earlier later : FetchPhase} (leads : Leads earlier later)
    (begun : Store.started earlier = true) :
    Store.started later = true := by
  cases leads with
  | same => exact begun
  | started => rfl
  | answered _ outcome | ended _ outcome => exact started_settledPhase outcome

theorem Holds.steps {watch : Watch} (holds : before.Holds watch)
    (steps : Steps demand before after) : after.Holds watch := by
  obtain ⟨phase, found, ends⟩ := holds
  obtain ⟨later, reached, leads⟩ := steps.leads found
  refine ⟨later, reached, fun done => ?_⟩
  obtain ⟨outcome, rfl⟩ := ends done
  exact ⟨outcome, leads.of_settled⟩

private theorem Holds.quiet {watch : Watch} (holds : before.Holds watch)
    (quiet : Quiet before after) :
    after.Holds watch := by
  unfold Holds
  rw [quiet.phases]
  exact holds

section Poll

variable {watch : Watch} {waker : Waker}

private theorem Settles.spec {task : FetchTask} {later : FetchPhase} {polled : Watch}
    (settles : Settles watch task later polled) (live : watch.done = false) :
    (polled.done = true → ∃ outcome, later = Cell.settledPhase outcome) ∧
      started later = true := by
  cases settles with
  | still phase same =>
      refine ⟨fun done => ?_, phase ▸ rfl⟩
      cases (same ▸ done : watch.done = true).symm.trans live
  | ended outcome phase done => exact ⟨fun _ => ⟨outcome, phase⟩, phase ▸ started_settledPhase _⟩

/-- A computation that was polled has been started, and the subscription is over only with it. -/
theorem poll_spec (holds : store.Holds watch)
    (calm : store.phase? watch.place ≠ some .driven) (waker : Waker) :
    (store.poll watch waker).2.2.Holds (store.poll watch waker).2.1 ∧
      ∃ phase, (store.poll watch waker).2.2.phase? watch.place = some phase ∧
        started phase = true := by
  unfold Holds
  rw [place_poll store watch waker]
  obtain ⟨phase, found, ends⟩ := holds
  cases poll_cases store watch waker with
  | finished done same =>
      rw [same]
      obtain ⟨outcome, rfl⟩ := ends done
      exact ⟨⟨_, found, fun _ => ⟨outcome, rfl⟩⟩, _, found, started_settledPhase outcome⟩
  | nothing missing => cases missing.symm.trans found
  | waits driven => exact absurd driven calm
  | replayed outcome settled done quiet =>
      rw [← quiet.phases] at settled
      exact ⟨⟨_, settled, fun _ => ⟨outcome, rfl⟩⟩, _, settled, started_settledPhase outcome⟩
  | begun live _ _ settles sets | resumed live _ settles sets =>
      obtain ⟨ends, begun⟩ := settles.spec live
      exact ⟨⟨_, sets.found, ends⟩, _, sets.found, begun⟩

/-- What polling gives by the outcome, if there is one yet. -/
def answerOf : Option (Option Source) → Poll Source
  | none => .pending
  | some none => .ended
  | some (some source) => .item source

/-- The outcome that a fetch has if it is polled now. -/
def prospect? (store : Store) (task : FetchTask) : Option (Option Source) :=
  match store.provider.answer? task.gate with
  | some answer => some (sourceOf answer)
  | none => if task.deadline.any (· ≤ store.clock) then some none else none

theorem settle_fst (store : Store) (watch : Watch) (answer : Fetched) :
    (store.settle watch answer).1 = answerOf (some (sourceOf answer)) := by
  unfold settle conclude
  dsimp only
  cases sourceOf answer <;> rfl

private theorem resume_fst (store : Store) (watch : Watch) (task : FetchTask) :
    (store.resume watch task).1 = answerOf (store.prospect? task) := by
  unfold resume prospect?
  cases store.provider.answer? task.gate with
  | some answer => exact settle_fst _ watch answer
  | none =>
      dsimp only
      unfold await
      split
      · exact settle_fst _ watch _
      · rfl

/-- A poll of a fetch that waits goes on with this fetch and begins no other one. -/
theorem poll_parked {task : FetchTask} (found : store.phase? watch.place = some (.parked task))
    (live : watch.done = false) (waker : Waker) :
    (store.poll watch waker).1 = answerOf (store.prospect? task) ∧
      (store.poll watch waker).2.2.fetched = store.fetched := by
  constructor
  · obtain ⟨cell, here, phase⟩ := Option.map_eq_some_iff.mp found
    simp only [poll, live, here, Cell.approach, phase]
    exact resume_fst _ watch task
  · cases poll_cases store watch waker with
    | finished done => cases live.symm.trans done
    | nothing missing => cases missing.symm.trans found
    | waits driven quiet => cases driven.symm.trans found
    | replayed outcome settled => cases outcome <;> cases settled.symm.trans found
    | begun _ idle => cases idle.symm.trans found
    | resumed _ _ _ sets => exact sets.grows.fetched

/-- Whoever subscribes to a link whose fetch waits goes on with this fetch. -/
theorem poll_watch_parked {cache : Nat} {link : Link} {task : FetchTask}
    (found : store.entry? cache link = some (.parked task)) (waker : Waker) :
    ((store.watch cache link).2.poll (store.watch cache link).1 waker).1 =
        answerOf (store.prospect? task) ∧
      ((store.watch cache link).2.poll (store.watch cache link).1 waker).2.2.fetched =
        store.fetched := by
  obtain ⟨place, held, there⟩ := Option.bind_eq_some_iff.mp found
  have watched : store.watch cache link = store.subscribe place := by
    simp only [watch, entry, held]
  rw [watched]
  have parked : (store.subscribe place).2.phase? place = some (.parked task) := by
    rw [(quiet_subscribe place).phases, there]
  exact poll_parked parked rfl waker

end Poll

theorem holds_watch {cache : Nat} {link : Link} (inside : cache < store.caches.length)
    (indexed : Indexed store.phase? store.placeOf?) :
    (store.watch cache link).2.Holds (store.watch cache link).1 := by
  have steps : Steps .nothing store (store.watch cache link).2 := steps_watch inside
  obtain ⟨phase, found, -⟩ := (steps.indexed indexed).placed cache link _ (placeOf?_watch inside)
  exact ⟨phase, found, fun done => by cases done⟩

end Store

namespace Page

open Store

variable {page : Page} {demand : Demand}

private theorem quiet_dispatch (page : Page) (mount : Mount) (source : Source) :
    Quiet page.store (page.dispatch mount source).store := by
  unfold dispatch
  split
  · unfold presentFacts
    split
    · exact quiet_log rfl
    · split
      · exact .refl _
      · exact quiet_log rfl
  · exact quiet_log rfl

theorem quiet_poll (page : Page) (mount : Mount) (waker : Waker) :
    Quiet (page.store.poll mount.watch waker).2.2 (page.poll mount waker).2.2.store := by
  unfold poll
  dsimp only
  split
  · exact .refl _
  · exact quiet_dispatch { page with store := (page.store.poll mount.watch waker).2.2 } mount _
  · exact .refl _

theorem watch_poll (page : Page) (mount : Mount) (waker : Waker) :
    (page.poll mount waker).2.1.watch = (page.store.poll mount.watch waker).2.1 := by
  unfold poll
  dsimp only
  split <;> rfl

theorem steps_poll (page : Page) (mount : Mount) (waker : Waker) :
    Steps (.poll mount.watch.place) page.store (page.poll mount waker).2.2.store :=
  .tail (.single (step_poll page.store mount.watch waker)) (.quiet (quiet_poll page mount waker))

theorem place_poll (page : Page) (mount : Mount) (waker : Waker) :
    (page.poll mount waker).2.1.watch.place = mount.watch.place := by
  rw [watch_poll, Store.place_poll]

/-- A computation that a mount waits for has been started once the mount was polled. -/
theorem poll_spec {mount : Mount} (holds : page.store.Holds mount.watch)
    (calm : page.store.phase? mount.watch.place ≠ some .driven) (waker : Waker) :
    (page.poll mount waker).2.2.store.Holds (page.poll mount waker).2.1.watch ∧
      ∃ phase, (page.poll mount waker).2.2.store.phase? mount.watch.place = some phase ∧
        started phase = true := by
  obtain ⟨held, begun⟩ := Store.poll_spec holds calm waker
  have quiet := quiet_poll page mount waker
  rw [watch_poll, quiet.phases]
  exact ⟨held.quiet quiet, begun⟩

/-- To collect a mount is to poll it once or twice and to let go of it. -/
theorem steps_collect (page : Page) (mount : Mount) :
    Steps (.poll mount.watch.place) (page.poll mount .silent).2.2.store
      (page.collect mount).2.store := by
  unfold collect
  dsimp only
  split
  · exact .single (.quiet (quiet_unwatch _))
  · exact .single (.quiet (quiet_unwatch _))
  · have again := steps_poll (page.poll mount .silent).2.2 (page.poll mount .silent).2.1 .silent
    rw [place_poll] at again
    exact again.tail (.quiet (quiet_unwatch _))

private theorem steps_mountNothing (page : Page) (place : Nat) :
    Steps demand page.store (page.mountNothing place).2.store ∧
      (page.mountNothing place).2.store.Holds (page.mountNothing place).1.watch := by
  have logged : Quiet page.store (page.store.log .noLink) := quiet_log rfl
  have added : Sets (page.store.log .noLink).cells.length .completed [] (page.store.log .noLink)
      ((page.store.log .noLink).addCell (.ofPhase .completed)) :=
    ⟨phase?_addCell _, rfl, rfl, by simp [addCell], Nat.le_refl _⟩
  have watched : Quiet ((page.store.log .noLink).addCell (.ofPhase .completed))
      (page.mountNothing place).2.store := quiet_subscribe _
  constructor
  · refine .tail (.tail (.single (.quiet logged)) (.blank (phase?_length _) added)) (.quiet watched)
  · exact ⟨.completed, by rw [watched.phases]; exact added.found, fun done => by cases done⟩

theorem steps_mount (inside : cache < page.store.caches.length)
    (indexed : Indexed page.store.phase? page.store.placeOf?) (place : Nat) (anchor : Anchor) :
    Steps demand page.store (page.mount place anchor).2.store ∧
      (page.mount place anchor).2.store.Holds (page.mount place anchor).1.watch := by
  unfold mount
  split
  · exact steps_mountNothing page place
  · exact ⟨steps_watch inside, holds_watch inside indexed⟩

end Page
end LinkFacts
