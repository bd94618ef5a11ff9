import Mathlib.Logic.Function.Basic
import Mathlib.Logic.Relation
import LinkFacts.Proofs.Naming
import LinkFacts.Cache.Store

/-!
# The steps of a store

Whatever is done to a store comes down to a few small steps.  A fetch begins only in the step that
polls a subscription to a computation that has not been started; every other step leaves the list
of fetches and the phases of the computations alone, or adds a computation.
-/

namespace LinkFacts

open Replay (Cell Phase Stage Waker)

/-- How far the fetch of a link has come. -/
abbrev FetchPhase := Phase Link FetchTask Source

/-- The link that a note tells to be fetched. -/
def Note.fetched? : Note → Option Link
  | .logged (.fetching link) => some link
  | _ => none

/-- The fetches that a provider was asked for, if it keeps a list of them. -/
def Provider.calls? : Provider → Option (List Link)
  | .scripted script => some script.calls
  | _ => none

namespace Store

/-- The links that were fetched for the caches, the latest first. -/
def fetched (store : Store) : List Link := store.journal.filterMap Note.fetched?

/-- How far the computation at a place has come. -/
def phase? (store : Store) (place : Nat) : Option FetchPhase := (store.cells[place]?).map Cell.phase

/-- The fetches of some links were noted by the store and by its provider, and no cache has gone. -/
structure Grows (news : List Link) (before after : Store) : Prop where
  fetched : after.fetched = news ++ before.fetched
  calls : after.provider.calls? = before.provider.calls?.map (news ++ ·)
  width : before.caches.length ≤ after.caches.length

/-- Nothing happens to the computations of the links, though there may be another cache. -/
structure Quiet (before after : Store) : Prop where
  phases : after.phase? = before.phase?
  places : after.placeOf? = before.placeOf?
  grows : Grows [] before after

/-- The computation at a place is brought to a phase. -/
structure Sets (place : Nat) (phase : FetchPhase) (news : List Link) (before after : Store) :
    Prop where
  phases : after.phase? = Function.update before.phase? place (some phase)
  places : after.placeOf? = before.placeOf?
  grows : Grows news before after

/-- What polling does to an unfinished fetch, and which fetches begin by that. -/
inductive Goes : FetchPhase → List Link → FetchPhase → Prop
  | waits (link gate deadline) : Goes (.idle link) [link] (.parked ⟨link, gate, deadline⟩)
  | answered (link outcome) : Goes (.idle link) [link] (Cell.settledPhase outcome)
  | still (task) : Goes (.parked task) [] (.parked task)
  | ended (task outcome) : Goes (.parked task) [] (Cell.settledPhase outcome)

/-- What an operation may ask of the provider. -/
inductive Demand where
  | nothing
  /-- Whatever the computation at a place needs. -/
  | poll (place : Nat)
  /-- A fetch that belongs to no cache. -/
  | fetch (link : Link)

/-- A step of a store that serves a demand. -/
inductive Step (demand : Demand) (before after : Store) : Prop
  | quiet (quiet : Quiet before after)
  /-- A computation appears that is over and belongs to no link. -/
  | blank {place : Nat} (free : before.phase? place = none)
      (sets : Sets place .completed [] before after)
  /-- A link gets its computation in a cache. -/
  | create {place cache : Nat} {link : Link} (free : before.phase? place = none)
      (missing : before.placeOf? cache link = none)
      (phases : after.phase? = Function.update before.phase? place (some (.idle link)))
      (places : ∀ other key, after.placeOf? other key =
        if other = cache ∧ key = link then some place else before.placeOf? other key)
      (grows : Grows [] before after)
  /-- An unfinished computation is polled. -/
  | polled {place : Nat} {earlier later : FetchPhase} {news : List Link}
      (here : demand = .poll place) (found : before.phase? place = some earlier)
      (goes : Goes earlier news later) (sets : Sets place later news before after)
  /-- The provider is called, but not for a cache. -/
  | called {link : Link} (here : demand = .fetch link) (phases : after.phase? = before.phase?)
      (places : after.placeOf? = before.placeOf?) (fetched : after.fetched = before.fetched)
      (width : before.caches.length ≤ after.caches.length)

/-- Some steps one after the other. -/
abbrev Steps (demand : Demand) : Store → Store → Prop := Relation.ReflTransGen (Step demand)

section Grows

variable {store before middle after : Store} {news more : List Link}

theorem Grows.refl (store : Store) : Grows [] store store where
  fetched := rfl
  calls := by simp
  width := Nat.le_refl _

theorem Grows.trans (first : Grows news before middle) (second : Grows more middle after) :
    Grows (more ++ news) before after where
  fetched := by rw [second.fetched, first.fetched, List.append_assoc]
  calls := by
    rw [second.calls, first.calls, Option.map_map]
    simp [Function.comp_def]
  width := Nat.le_trans first.width second.width

/-- What happens to the computations alone is nothing that is noted of fetches. -/
theorem grows_modifyCell (store : Store) (place : Nat) (change : FetchCell → FetchCell) :
    Grows [] store (store.modifyCell place change) where
  fetched := rfl
  calls := by simp [modifyCell]
  width := Nat.le_refl _

theorem fetched_log (store : Store) (event : LogEvent) :
    (store.log event).fetched = (Note.fetched? (.logged event)).toList ++ store.fetched := by
  unfold fetched log
  rw [List.filterMap_cons]
  split <;> simp [*]

theorem grows_log (store : Store) {event : LogEvent}
    (silent : Note.fetched? (.logged event) = none) : Grows [] store (store.log event) where
  fetched := by rw [fetched_log, silent]; rfl
  calls := by simp [log]
  width := Nat.le_refl _

theorem grows_noteWakes (store : Store) (place : Nat) (waiting : List (Nat × Waker)) :
    Grows [] store (store.noteWakes place waiting) where
  fetched := by
    have silent : (waiting.reverse.map fun entry => Note.woke place entry.1 entry.2).filterMap
        Note.fetched? = [] := by simp [List.filterMap_eq_nil_iff, Note.fetched?]
    unfold fetched noteWakes
    rw [List.filterMap_append, silent]
  calls := by simp [noteWakes]
  width := Nat.le_refl _

end Grows

section Phases

variable {store : Store} {place : Nat} {change : FetchCell → FetchCell}

theorem phase?_modifyCell (other : Nat) : (store.modifyCell place change).phase? other =
    if other = place then (store.cells[place]?).map fun cell => (change cell).phase
    else store.phase? other := by
  unfold phase? modifyCell
  rw [List.getElem?_modify]
  by_cases same : place = other
  · subst same
    simp [Function.comp_def]
  · simp [same, Ne.symm same]

theorem phase?_modifyCell_of_keeps (keeps : ∀ cell, (change cell).phase = cell.phase) :
    (store.modifyCell place change).phase? = store.phase? := by
  funext other
  rw [phase?_modifyCell]
  split
  · next same =>
    subst same
    simp [keeps, phase?]
  · rfl

theorem phase?_modifyCell_of_sets {earlier later : FetchPhase}
    (found : store.phase? place = some earlier) (sets : ∀ cell, (change cell).phase = later) :
    (store.modifyCell place change).phase? =
      Function.update store.phase? place (some later) := by
  obtain ⟨cell, here, -⟩ := Option.map_eq_some_iff.mp found
  funext other
  rw [phase?_modifyCell, Function.update_apply]
  simp [here, sets]

theorem phase?_addCell (cell : FetchCell) : (store.addCell cell).phase? =
    Function.update store.phase? store.cells.length (some cell.phase) := by
  funext other
  rw [Function.update_apply]
  unfold phase? addCell
  split
  · next same => simp [same]
  · next different =>
    rcases Nat.lt_or_gt_of_ne different with before | after
    · rw [List.getElem?_append_left before]
    · rw [List.getElem?_eq_none_iff.mpr (Nat.le_of_lt after),
        List.getElem?_eq_none_iff.mpr (by simp; omega)]

theorem phase?_length (store : Store) : store.phase? store.cells.length = none := by
  simp [phase?]

end Phases

end Store
end LinkFacts
