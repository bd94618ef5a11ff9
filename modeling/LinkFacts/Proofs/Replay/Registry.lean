import LinkFacts.Proofs.Replay.Shift

/-!
# Whose wakers are kept

A computation keeps wakers only of subscriptions that were polled and can still be given something,
one for each of them, and none once it is over.  Nobody wakes a subscription that is done or was let
go of.
-/

namespace LinkFacts
namespace Replay
namespace View

/-- A subscription that is let go of is over. -/
theorem spent_drop {place : Nat} {view : View} (sound : Sound place view) {name : String}
    {subscription : Subscription} (named : view.named name = some subscription)
    (calm : subscription.busy = false) : (view.drop name).Spent subscription.id := by
  obtain ⟨cell, found⟩ := sound.found_of_named named
  have fits := sound.fits name subscription named
  have dropped : view.drop name =
      (view.modify (·.unregister subscription.id)).assign name none := by
    simp [View.drop, named]
  rw [dropped]
  refine ⟨cell.unregister subscription.id, by simp [assign, View.modify, found],
    fits.counted cell found, ?_⟩
  rintro (⟨other, second, stands, same, -⟩ | drives)
  · rcases named_of_assign stands with ⟨-, ⟨⟩⟩ | ⟨apart, kept⟩
    exact apart (sound.distinct other name second subscription kept named same)
  · cases calm.symm.trans (fits.busy.mpr drives)

/-! ## Every state of every run -/

/-- A subscription that is over is not woken. -/
theorem Standing.timesWoken_of_spent {place id : Nat} {view changed : View} {news : List Entry}
    (standing : Standing place view id) (shift : Shift place view news changed)
    (spent : view.Spent id) : timesWoken place id news = 0 := by
  obtain ⟨_, -, -, gone⟩ := spent
  have idle : ∀ frame ∈ view.frames, frame.driver.id ≠ id :=
    fun frame there drives => gone (.inr ⟨frame, there, drives⟩)
  cases shift.part id with
  | aside aside =>
      rcases aside.spares with quiet | ⟨-, waker, held⟩
      · exact quiet
      · exact absurd (standing.registered waker held).live gone
  | begins begins => exact absurd begins.alive gone
  | enters count enters => exact absurd rfl (idle _ enters.there)
  | ends ends => exact absurd rfl (idle _ ends.there)

/-- What holds of the wakers that a computation keeps in every state. -/
structure Registry (place : Nat) (view : View) : Prop where
  served : Served place view
  distinct : view.Distinct
  standing : ∀ id, Standing place view id

namespace Registry

variable {place id : Nat} {view changed : View}

private theorem touch {operation : Operation} (registry : Registry place view)
    (sound : Sound place view)
    (touch : Touch operation place view changed) : Registry place changed := by
  obtain ⟨news, shift⟩ := shift_of_touch sound registry.served registry.distinct touch
  exact ⟨registry.served.touch sound touch, shift.distinct, fun id =>
    (registry.standing id).shift shift⟩

private theorem drive {verdict : Option (Nat × Outcome)} (registry : Registry place view)
    (sound : Sound place view) (drive : Drive verdict place view changed) :
    Registry place changed := by
  obtain ⟨news, shift⟩ := shift_of_drive sound registry.served registry.distinct drive
  exact ⟨registry.served.drive sound drive, shift.distinct, fun id =>
    (registry.standing id).shift shift⟩

private theorem kept (place : Nat) : Kept place (Registry place) where
  touch sound registry touched := registry.touch sound touched
  drive sound registry driven := registry.drive sound driven

private theorem initial (place : Nat) : Registry place (Machine.initial.view place) where
  served := Served.initial place
  distinct _ found := by cases found
  standing id :=
    { registered := by
        rintro waker ⟨_, found, -⟩
        cases found
      once := Nat.zero_le _
      driving := fun _ member => by cases member
      ended := fun _ answered => by cases answered }

/-- A subscription is over, and was woken so often. -/
def Silent (place id count : Nat) (view : View) : Prop :=
  view.Spent id ∧ timesWoken place id view.history = count

private theorem silent_shift {news : List Entry} {count : Nat} (registry : Registry place view)
    (silent : Silent place id count view) (shift : Shift place view news changed) :
    Silent place id count changed := by
  refine ⟨shift.spent id silent.1, ?_⟩
  rw [shift.history, timesWoken_append,
    (registry.standing id).timesWoken_of_spent shift silent.1, silent.2, Nat.zero_add]

/-- Nobody wakes a subscription that is over. -/
theorem kept_silent (place id count : Nat) :
    Kept place fun view => Registry place view ∧ Silent place id count view where
  touch sound held touched := by
    obtain ⟨registry, silent⟩ := held
    obtain ⟨news, shift⟩ := shift_of_touch sound registry.served registry.distinct touched
    exact ⟨registry.touch sound touched, registry.silent_shift silent shift⟩
  drive sound held driven := by
    obtain ⟨registry, silent⟩ := held
    obtain ⟨news, shift⟩ := shift_of_drive sound registry.served registry.distinct driven
    exact ⟨registry.drive sound driven, registry.silent_shift silent shift⟩

end Registry

end View

namespace Machine

open View

variable {machine : Machine} {place id : Nat}

/-- A subscription is there and may still be given something: a name stands for it and it is not
done, or it is being polled. -/
def Live (machine : Machine) (place id : Nat) : Prop :=
  (∃ name subscription, machine.subscriptions.lookup name = some subscription ∧
    subscription.cell = place ∧ subscription.id = id ∧ subscription.done = false) ∨
  ∃ frame ∈ machine.frames, frame.driver.cell = place ∧ frame.driver.id = id

/-- A subscription was there, and is done or was let go of. -/
def Spent (machine : Machine) (place id : Nat) : Prop :=
  ∃ cell, machine.cell? place = some cell ∧ id < cell.nextId ∧ ¬machine.Live place id

private theorem live_view_iff : (machine.view place).Live id ↔ machine.Live place id := by
  refine or_congr ?_ ?_
  · constructor
    · rintro ⟨name, subscription, named, same, undone⟩
      obtain ⟨found, here⟩ := Option.filter_eq_some_iff.mp named
      exact ⟨name, subscription, found, of_decide_eq_true here, same, undone⟩
    · rintro ⟨name, subscription, found, here, same, undone⟩
      exact ⟨name, subscription, Option.filter_eq_some_iff.mpr ⟨found, decide_eq_true here⟩, same,
        undone⟩
  · simp only [Drives, view, List.mem_filter, decide_eq_true_eq, and_assoc]

private theorem spent_view_iff : (machine.view place).Spent id ↔ machine.Spent place id := by
  simp only [View.Spent, Machine.Spent, live_view_iff]
  rfl

/-- What is read of a computation's own entries can be read of all of them. -/
theorem reads_view {reads : Entry → Bool} (own : ∀ entry, reads entry = true →
    entry.place? = some place) : (fun entry => decide (entry.place? = some place) && reads entry) =
      reads := by
  funext entry
  cases read : reads entry with
  | false => exact Bool.and_false _
  | true => rw [own entry read, decide_eq_true rfl, Bool.and_true]

private theorem place?_of_wakes {entry : Entry} (woken : entry.wakes place id = true) :
    entry.place? = some place := by
  cases entry with
  | woke => simp_all [Entry.wakes, Entry.place?]
  | _ => cases woken

private theorem place?_of_leaves {entry : Entry} (leaves : entry.leaves place id = true) :
    entry.place? = some place := by
  cases entry with
  | polled => simp_all [Entry.leaves, Entry.place?]
  | answered cell other outcome =>
      cases outcome with
      | pending => simp_all [Entry.leaves, Entry.place?]
      | _ => cases leaves
  | _ => cases leaves

private theorem place?_of_notifies {entry : Entry} (notifies : entry.notifies place = true) :
    entry.place? = some place := by
  cases entry with
  | notified => simp_all [Entry.notifies, Entry.place?]
  | _ => cases notifies

private theorem timesWoken_filter (place id : Nat) (journal : List Entry) :
    timesWoken place id (journal.filter (·.place? = some place)) = timesWoken place id journal := by
  rw [timesWoken, List.countP_filter, timesWoken]
  simp only [Bool.and_comm _ (decide _), reads_view fun _ => place?_of_wakes]

/-- The entries of a computation up to one of its own are among all entries up to that. -/
theorem takeWhile_view {stops : Entry → Bool} (own : ∀ entry, stops entry = true →
    entry.place? = some place) (journal : List Entry) :
    (journal.filter (·.place? = some place)).takeWhile (!stops ·) =
      (journal.takeWhile (!stops ·)).filter (·.place? = some place) := by
  rw [List.takeWhile_filter]
  congr 2
  funext entry
  rw [← Bool.not_and, congrFun (reads_view own) entry]

private theorem sinceAsked_filter (place id : Nat) (journal : List Entry) :
    sinceAsked place id (journal.filter (·.place? = some place)) =
      (sinceAsked place id journal).filter (·.place? = some place) := by
  have same : (fun entry : Entry => (entry.waker? place id).isNone) =
      fun entry => !(entry.waker? place id).isSome := by simp
  unfold sinceAsked
  rw [same]
  refine takeWhile_view (fun entry asked => ?_) journal
  by_contra other
  rw [(silent_of_place? other id).1] at asked
  cases asked

private theorem left_filter (place id : Nat) (journal : List Entry) :
    left place id (journal.filter (·.place? = some place)) = left place id journal := by
  rw [left, sinceAsked_filter, List.any_filter, left]
  simp only [reads_view fun _ => place?_of_leaves]

private theorem latestPoll_filter (place id : Nat) (journal : List Entry) :
    latestPoll place id (journal.filter (·.place? = some place)) =
      (latestPoll place id journal).filter (·.place? = some place) := by
  have others (entry : Entry) : (!decide (entry.place? = some place) ||
      (entry.outcome? place id).isNone) = (entry.outcome? place id).isNone := by
    by_cases here : entry.place? = some place
    · simp [here]
    · simp [here, (silent_of_place? here id).2]
  simp only [latestPoll, sinceAsked_filter, List.dropWhile_filter, others]

private theorem leftAgain_filter (place id : Nat) (journal : List Entry) :
    leftAgain place id (journal.filter (·.place? = some place)) = leftAgain place id journal := by
  unfold leftAgain
  rw [latestPoll_filter]
  cases latest : latestPoll place id journal with
  | nil => rfl
  | cons ending during =>
      have ended := List.head?_dropWhile_not (fun entry : Entry => (entry.outcome? place id).isNone)
        (sinceAsked place id journal)
      rw [← latestPoll, latest] at ended
      have here : ending.place? = some place := by
        by_contra other
        simp [(silent_of_place? other id).2] at ended
      have polled : (during.filter (·.place? = some place)).takeWhile (!Entry.polls place ·) =
          (during.takeWhile (!Entry.polls place ·)).filter (·.place? = some place) :=
        takeWhile_view (fun entry polls => by
          cases entry <;> simp_all [Entry.polls, Entry.place?]) during
      have filtered : (ending :: during).filter (·.place? = some place) =
          ending :: during.filter (·.place? = some place) := by simp [here]
      rw [filtered]
      simp only [sincePolled, polled, List.any_filter, reads_view fun _ => place?_of_notifies]

private theorem registrations_filter (place id : Nat) (journal : List Entry) :
    registrations place id (journal.filter (·.place? = some place)) =
      registrations place id journal := by
  rw [registrations, left_filter, leftAgain_filter, registrations]

private theorem recentWakes_filter (place id : Nat) (journal : List Entry) :
    recentWakes place id (journal.filter (·.place? = some place)) = recentWakes place id journal := by
  rw [recentWakes, sinceAsked_filter, timesWoken_filter, recentWakes]

/-! ## The wakers that are kept -/

/-- What is true of the wakers that a computation keeps. -/
structure LiveInterest (machine : Machine) (place : Nat) (cell : ScriptCell) : Prop where
  /-- No subscription has two of them. -/
  distinct : (cell.waiting.map Prod.fst).Nodup
  /-- They belong to subscriptions of this computation that are there and not done. -/
  live : ∀ entry ∈ cell.waiting, machine.Live place entry.1
  /-- These were polled, the last time with the waker that is kept. -/
  polled : ∀ entry ∈ cell.waiting, lastWaker? place entry.1 machine.journal = some entry.2
  /-- There are no more of them than subscriptions. -/
  bounded : cell.waiting.length ≤ {id | machine.Live place id}.ncard
  /-- There are none once the computation is over. -/
  settled : cell.stage = .resolved ∨ cell.stage = .completed → cell.waiting = []
  /-- A waker that was used is no longer kept. -/
  unwoken : ∀ entry ∈ cell.waiting, recentWakes place entry.1 machine.journal = 0
  /-- No waker is used more often than it was left. -/
  once : ∀ id, recentWakes place id machine.journal ≤ registrations place id machine.journal
  /-- A subscription that a name stands for is over when it is let go of. -/
  dropped : ∀ name subscription, machine.subscriptions.lookup name = some subscription →
    subscription.cell = place → subscription.busy = false →
      (machine.dropSubscription name).Spent place subscription.id
  /-- A subscription that was given an outcome is over. -/
  ended : ∀ id outcome, .answered place id (.ready outcome) ∈ machine.journal →
    machine.Spent place id
  /-- A subscription that is over is never woken again. -/
  silent : ∀ id, machine.Spent place id → ∀ after, machine.Reaches after →
    timesWoken place id after.journal = timesWoken place id machine.journal

private theorem Reachable.registry (reach : machine.Reachable) (place : Nat) :
    Registry place (machine.view place) :=
  reach.invariant (Registry.kept place) (Registry.initial place)

/-- Only subscriptions with a number are there. -/
theorem Reachable.counted_of_live (reach : machine.Reachable) {cell : ScriptCell}
    (found : machine.cell? place = some cell) (live : machine.Live place id) : id < cell.nextId := by
  have sound := reach.sound place
  rcases live_view_iff.mpr live with ⟨name, subscription, named, rfl, -⟩ | ⟨frame, member, rfl⟩
  · exact (sound.fits name subscription named).counted cell found
  · exact sound.frame_counted cell found frame member

private theorem Reachable.silent (reach : machine.Reachable) (spent : machine.Spent place id)
    {after : Machine} (later : machine.Reaches after) :
    timesWoken place id after.journal = timesWoken place id machine.journal := by
  have start : Registry place (machine.view place) ∧
      Registry.Silent place id (timesWoken place id machine.journal) (machine.view place) :=
    ⟨reach.registry place, spent_view_iff.mpr spent, timesWoken_filter place id machine.journal⟩
  obtain ⟨-, -, same⟩ := Reachable.keeps reach later (Registry.kept_silent place id _) start
  exact (timesWoken_filter place id after.journal).symm.trans same

/-- Only who may still be given something is kept for waking, and is woken once. -/
theorem Reachable.live_interest (reach : machine.Reachable) {cell : ScriptCell}
    (found : machine.cell? place = some cell) : machine.LiveInterest place cell := by
  have sound := reach.sound place
  have registry := reach.registry place
  have distinct := registry.distinct cell found
  have registered (entry : Nat × Waker) (member : entry ∈ cell.waiting) :
      Registered place (machine.view place) entry.1 entry.2 :=
    (registry.standing entry.1).registered entry.2
      ((keeps_iff found).mpr (Naming.lookup_of_nodup distinct member))
  have live (entry : Nat × Waker) (member : entry ∈ cell.waiting) : machine.Live place entry.1 :=
    live_view_iff.mp (registered entry member).live
  refine ⟨distinct, live, fun entry member => ?_, ?_, fun ended => ?_, fun entry member => ?_,
    fun id => ?_, fun name subscription held here calm => ?_, fun id outcome answered => ?_,
    fun id spent after later => reach.silent spent later⟩
  · exact (lastWaker?_view machine place entry.1).symm.trans (registered entry member).asked
  · -- The numbers of those who wait are numbers of those who are there.
    have finite : {id | machine.Live place id}.Finite :=
      (Set.finite_Iio cell.nextId).subset fun id => reach.counted_of_live found
    have among : ((cell.waiting.map Prod.fst).toFinset : Set Nat) ⊆ {id | machine.Live place id} := by
      intro id member
      obtain ⟨entry, there, rfl⟩ := List.mem_map.mp (List.mem_toFinset.mp member)
      exact live entry there
    have fewer := Set.ncard_le_ncard among finite
    rwa [Set.ncard_coe_finset, List.toFinset_card_of_nodup distinct, List.length_map] at fewer
  · by_contra waits
    have calm : cell.phase ≠ .driven := fun driven => by
      simp [Cell.stage, driven] at ended
    obtain ⟨⟨task, parked⟩, -⟩ := registry.served.drained cell found calm waits
    simp [Cell.stage, parked] at ended
  · exact (recentWakes_filter place entry.1 machine.journal).symm.trans
      (registered entry member).unwoken
  · rw [← recentWakes_filter, ← registrations_filter]
    exact (registry.standing id).once
  · have named : (machine.view place).named name = some subscription := by
      simp [view, held, here]
    rw [← spent_view_iff, view_dropSubscription]
    exact spent_drop sound named calm
  · refine spent_view_iff.mp ((registry.standing id).ended outcome ?_)
    exact List.mem_filter.mpr ⟨answered, by simp [Entry.place?]⟩

/-- A computation that polls another subscription of its own before it comes to nothing. -/
def nestedPoll : List Operation :=
  [.create "r" [[.run (.poll "t" (.named "w")), .pending]], .subscribe "r" "s", .subscribe "r" "t"]

/-- In the middle of the driver's poll both the driver and the other subscription are kept. -/
theorem driver_and_waiter_kept :
    LiveInterest ({ initial.run nestedPoll with answer := none }.start
      (.poll "s" (.named "v"))).step.step 0
        ⟨.driven, [(1, .named "w"), (0, .named "v")], false, 2⟩ := by
  obtain ⟨reach, idle⟩ := reachable_run .refl rfl nestedPoll
  have begun := reach.tail (.perform idle (.poll "s" (.named "v")))
  have entered := begun.tail (.step (by cbv; simp))
  have moved := entered.tail (.step (by cbv; simp))
  exact Reachable.live_interest moved (by cbv)

/-- A driver whose computation was woken while it was polled is woken twice, once for each time that
it has left its waker. -/
example : recentWakes 0 0 (initial.run [.create "r" [[.wake, .pending]], .subscribe "r" "s",
    .poll "s" (.named "v")]).journal = 2 ∧
  registrations 0 0 (initial.run [.create "r" [[.wake, .pending]], .subscribe "r" "s",
    .poll "s" (.named "v")]).journal = 2 := by cbv

end Machine

end Replay
end LinkFacts
