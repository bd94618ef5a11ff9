import LinkFacts.Proofs.Cache.Watching

/-!
# Time

To poll fetches and to wake them moves these on and changes nothing else of a store.  Time passes
when a store is told so, and never else; and the time that a fetch may take never changes.
-/

namespace LinkFacts

open Replay (Waker)

namespace Store

variable {before middle after store : Store} {watch : Watch} {task : FetchTask}

/-- Nothing of a store changes but its provider, its computations and its journal. -/
def Inside (before after : Store) : Prop :=
  ∃ provider cells journal, after = { before with provider, cells, journal }

/-- How long a fetch may take, and what time it is. -/
def timing (store : Store) : Option Nat × Nat := (store.timeout, store.clock)

theorem Inside.refl (store : Store) : Inside store store := ⟨_, _, _, rfl⟩

theorem Inside.trans (first : Inside before middle) (second : Inside middle after) :
    Inside before after := by
  obtain ⟨_, _, _, rfl⟩ := first
  obtain ⟨provider, cells, journal, rfl⟩ := second
  exact ⟨provider, cells, journal, rfl⟩

theorem Inside.caches (inside : Inside before after) : after.caches = before.caches := by
  obtain ⟨_, _, _, rfl⟩ := inside
  rfl

theorem Inside.timing (inside : Inside before after) : after.timing = before.timing := by
  obtain ⟨_, _, _, rfl⟩ := inside
  rfl

/-! ## Polls and wakes -/

private theorem inside_settle (store : Store) (watch : Watch) (answer : Fetched) :
    Inside store (store.settle watch answer).2.2 := ⟨_, _, _, rfl⟩

private theorem inside_await (store : Store) (watch : Watch) (task : FetchTask) :
    Inside store (store.await watch task).2.2 := by
  unfold await
  split
  · exact inside_settle store watch _
  · exact ⟨_, _, _, rfl⟩

private theorem inside_begin (store : Store) (watch : Watch) (link : Link) :
    Inside store (store.begin watch link).2.2 := by
  have asked : Inside store (store.asked link) := ⟨_, _, _, rfl⟩
  unfold begin
  dsimp only
  split
  · exact asked.trans (inside_settle _ watch _)
  · exact asked.trans (inside_await _ watch _)

private theorem inside_resume (store : Store) (watch : Watch) (task : FetchTask) :
    Inside store (store.resume watch task).2.2 := by
  have polled : Inside store { store with provider := store.provider.polled } := ⟨_, _, _, rfl⟩
  unfold resume
  dsimp only
  split
  · exact polled.trans (inside_settle _ watch _)
  · exact polled.trans (inside_await _ watch task)

theorem inside_poll (store : Store) (watch : Watch) (waker : Waker) :
    Inside store (store.poll watch waker).2.2 := by
  have prepared (cell : FetchCell) : Inside store ((store.modifyCell watch.place fun _ =>
      (cell.approach watch.id waker).2).modifyCell watch.place (·.prepare watch.id waker)) :=
    ⟨_, _, _, rfl⟩
  unfold poll
  split
  · exact .refl store
  · split
    · exact .refl store
    · next cell here =>
      dsimp only
      split
      · exact ⟨_, _, _, rfl⟩
      · exact ⟨_, _, _, rfl⟩
      · exact (prepared cell).trans (inside_begin _ watch _)
      · exact (prepared cell).trans (inside_resume _ watch _)

private theorem inside_notify (store : Store) (place : Nat) :
    Inside store (store.notify place) := by
  unfold notify
  split
  · exact ⟨_, _, _, rfl⟩
  · exact .refl store

theorem inside_wakeWhere (store : Store) (test : FetchTask → Bool) :
    Inside store (store.wakeWhere test) := by
  unfold wakeWhere
  generalize store.placesWhere (waitsFor test) = places
  induction places generalizing store with
  | nil => exact .refl store
  | cons place places ih => exact (inside_notify store place).trans (ih _)

theorem inside_release (store : Store) (gate : Nat) (state : GateState) :
    Inside store (store.release gate state) := by
  have settled : Inside store { store with provider := store.provider.release gate state } :=
    ⟨_, _, _, rfl⟩
  exact settled.trans (inside_wakeWhere _ _)

theorem inside_fetchOnce (store : Store) (link : Link) :
    Inside store (store.fetchOnce link).2 := by
  rw [fetchOnce_snd]
  exact ⟨_, _, _, rfl⟩

theorem timing_advance (store : Store) (duration : Nat) :
    (store.advance duration).timing = (store.timeout, store.clock + duration) :=
  (inside_wakeWhere _ _).timing

theorem timing_entry (store : Store) (cache : Nat) (link : Link) :
    (store.entry cache link).2.timing = store.timing := by
  unfold entry
  split <;> rfl

end Store

end LinkFacts
