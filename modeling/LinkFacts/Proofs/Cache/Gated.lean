import LinkFacts.Proofs.Cache.Operations
import LinkFacts.Proofs.Fetch.Gates

/-!
# Fetches at their gates

A fetch that waits was begun for a link whose gate was shut, and the gates of links never change.
So whatever waits for a link waits at the gate of this link.
-/

namespace LinkFacts

open Replay (Cell Phase Waker)

namespace Store

variable {store before middle after : Store} {place : Nat}

/-- A task waits at the gate of its link, as far as gates are known. -/
def FitsGate (store : Store) (task : FetchTask) : Prop :=
  store.provider.isKnown = true → store.provider.gateOf? task.link = some task.gate

/-- Whatever waits for a link waits at the gate of this link. -/
def Tied (store : Store) : Prop :=
  ∀ place task, store.phase? place = some (.parked task) → store.FitsGate task

/-- The gates are the same, and what waits has waited before or waits at the right gate. -/
structure Ties (before after : Store) : Prop where
  known : after.provider.isKnown = before.provider.isKnown
  gates : after.provider.gateOf? = before.provider.gateOf?
  waits : ∀ place task, after.phase? place = some (.parked task) →
    before.phase? place = some (.parked task) ∨ before.FitsGate task

private theorem Ties.fits (ties : Ties before after) (task : FetchTask) :
    after.FitsGate task ↔ before.FitsGate task := by
  unfold FitsGate
  rw [ties.known, ties.gates]

theorem Ties.tied (ties : Ties before after) (tied : before.Tied) : after.Tied := by
  intro place task waits
  rw [ties.fits]
  obtain earlier | fits := ties.waits place task waits
  · exact tied place task earlier
  · exact fits

theorem Ties.refl (store : Store) : Ties store store := ⟨rfl, rfl, fun _ _ waits => .inl waits⟩

theorem Ties.trans (first : Ties before middle) (second : Ties middle after) :
    Ties before after where
  known := second.known.trans first.known
  gates := second.gates.trans first.gates
  waits place task waits := by
    obtain earlier | fits := second.waits place task waits
    · exact first.waits place task earlier
    · exact .inr ((first.fits task).mp fits)

theorem ties_of_phases (phases : after.phase? = before.phase?)
    (provider : after.provider = before.provider) : Ties before after :=
  ⟨by rw [provider], by rw [provider], fun _ _ waits => .inl (phases ▸ waits)⟩

private theorem ties_provider {provider : Provider}
    (known : provider.isKnown = store.provider.isKnown)
    (gates : provider.gateOf? = store.provider.gateOf?) : Ties store { store with provider } :=
  ⟨known, gates, fun _ _ waits => .inl waits⟩

theorem ties_modifyCell (place : Nat) (change : FetchCell → FetchCell)
    (fits : ∀ cell task, (change cell).phase = .parked task →
      cell.phase = .parked task ∨ store.FitsGate task) :
    Ties store (store.modifyCell place change) where
  known := rfl
  gates := rfl
  waits other task waits := by
    rw [phase?_modifyCell] at waits
    split at waits
    · next same =>
      subst same
      obtain ⟨cell, found, phase⟩ := Option.map_eq_some_iff.mp waits
      obtain earlier | right := fits cell task phase
      · exact .inl (by simp [phase?, found, earlier])
      · exact .inr right
    · exact .inl waits

/-- A computation appears that does not wait. -/
theorem ties_addCell {cell : FetchCell} (calm : ∀ task, cell.phase ≠ .parked task) :
    Ties store (store.addCell cell) where
  known := rfl
  gates := rfl
  waits other task waits := by
    rw [phase?_addCell, Function.update_apply] at waits
    split at waits
    · exact absurd (Option.some.inj waits) (calm task)
    · exact .inl waits

theorem ties_entry (cache : Nat) (link : Link) : Ties store (store.entry cache link).2 := by
  unfold entry
  split
  · exact .refl store
  · have added : Ties (store.log (.creating link)) ((store.log (.creating link)).addCell
        (.ofPhase (.idle link))) := ties_addCell nofun
    exact ⟨rfl, rfl, added.waits⟩

private theorem ties_settle (watch : Watch) (answer : Fetched) :
    Ties store (store.settle watch answer).2.2 := by
  let waiting := ((store.cells[watch.place]?).map Cell.waiting).getD []
  have noted : Ties store ((store.log (eventOf answer)).noteWakes watch.place waiting) :=
    ties_of_phases rfl rfl
  have ended := noted.trans (ties_modifyCell watch.place (·.settle (sourceOf answer))
    fun _ task parked => absurd parked (Cell.settledPhase_ne_parked _ task))
  exact ended.trans (ties_modifyCell _ _ fun _ _ parked => .inl parked)

private theorem ties_await (watch : Watch) {task : FetchTask} (fits : store.FitsGate task) :
    Ties store (store.await watch task).2.2 := by
  unfold await
  split
  · exact ties_settle watch _
  · refine ties_modifyCell _ _ fun cell other parked => .inr ?_
    cases parked
    exact fits

private theorem ties_begin (watch : Watch) (link : Link) :
    Ties store (store.begin watch link).2.2 := by
  have asked : Ties store (store.asked link) :=
    ⟨Provider.isKnown_begin _ link, Provider.gateOf?_begin _ link, fun _ _ waits => .inl waits⟩
  unfold begin
  dsimp only
  split
  · exact asked.trans (ties_settle watch _)
  · next gate waits =>
    refine asked.trans (ties_await watch ((asked.fits _).mpr fun known => ?_))
    exact Provider.gateOf?_of_waits known waits

private theorem ties_resume (watch : Watch) {task : FetchTask} (fits : store.FitsGate task) :
    Ties store (store.resume watch task).2.2 := by
  have polled : Ties store { store with provider := store.provider.polled } :=
    ties_provider (Provider.isKnown_polled _) (Provider.gateOf?_polled _)
  unfold resume
  dsimp only
  split
  · exact polled.trans (ties_settle watch _)
  · exact polled.trans (ties_await watch ((polled.fits task).mpr fits))

section Approach

variable {cell : FetchCell} {id : Nat} {waker : Waker}

theorem phase_of_start {link : Link} (starts : (cell.approach id waker).1 = .start link) :
    cell.phase = .idle link := by
  unfold Cell.approach at starts
  split at starts <;> cases starts
  assumption

private theorem phase_of_drive {task : FetchTask}
    (drives : (cell.approach id waker).1 = .drive task) :
    cell.phase = .parked task := by
  unfold Cell.approach at drives
  split at drives <;> cases drives
  assumption

/-- Who finds a computation checks it out unless it is over. -/
theorem phase_approach_ne_parked (task : FetchTask) :
    (cell.approach id waker).2.phase ≠ .parked task := by
  unfold Cell.approach
  split
  · exact nofun
  · exact nofun
  · next driven => exact fun parked => by cases driven.symm.trans parked
  · next value finished => exact fun parked => by cases finished.symm.trans parked
  · next finished => exact fun parked => by cases finished.symm.trans parked

end Approach

/-- A poll leaves a fetch waiting at the gate of its link. -/
theorem ties_poll (tied : store.Tied) (watch : Watch) (waker : Waker) :
    Ties store (store.poll watch waker).2.2 := by
  unfold poll
  split
  · exact .refl store
  · split
    · exact .refl store
    · next cell here =>
      have moved : Ties store
          (store.modifyCell watch.place fun _ => (cell.approach watch.id waker).2) :=
        ties_modifyCell _ _ fun _ task parked => absurd parked (phase_approach_ne_parked task)
      have prepared := moved.trans (ties_modifyCell watch.place (·.prepare watch.id waker)
        fun _ _ parked => .inl parked)
      dsimp only
      split
      · exact moved
      · exact moved
      · exact prepared.trans (ties_begin watch _)
      · next task drives =>
        have waits : store.phase? watch.place = some (.parked task) := by
          simp [phase?, here, phase_of_drive drives]
        exact prepared.trans (ties_resume watch ((prepared.fits task).mpr (tied _ task waits)))

private theorem ties_notify (place : Nat) : Ties store (store.notify place) := by
  unfold notify
  split
  · exact (ties_of_phases rfl rfl : Ties store (store.noteWakes place _)).trans
      (ties_modifyCell _ _ fun _ _ parked => .inl parked)
  · exact .refl store

private theorem ties_wakeWhere (test : FetchTask → Bool) : Ties store (store.wakeWhere test) := by
  unfold wakeWhere
  generalize store.placesWhere (waitsFor test) = places
  induction places generalizing store with
  | nil => exact .refl store
  | cons place places ih => exact (ties_notify place).trans ih

theorem ties_release (gate : Nat) (state : GateState) : Ties store (store.release gate state) :=
  (ties_provider (Provider.isKnown_release _ gate state)
    (Provider.gateOf?_release _ gate state)).trans (ties_wakeWhere _)

theorem ties_advance (duration : Nat) : Ties store (store.advance duration) :=
  (ties_of_phases rfl rfl : Ties store { store with clock := store.clock + duration }).trans
    (ties_wakeWhere _)

theorem ties_fetchOnce (link : Link) : Ties store (store.fetchOnce link).2 := by
  rw [fetchOnce_snd]
  exact ties_provider (Provider.isKnown_begin _ link) (Provider.gateOf?_begin _ link)

end Store
end LinkFacts
