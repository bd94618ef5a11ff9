import LinkFacts.Proofs.Cache.Clock

/-!
# The entries of a cache

A cache has one entry for each link that was requested of it, and no other entries.
-/

namespace LinkFacts

open Replay (Cell Waker)

namespace Store

variable {store before middle after : Store} {cache : Nat} {link : Link}
  {requests more : List (Nat × Link)}

/-- The links that have an entry in a cache. -/
def links (store : Store) (cache : Nat) : List Link :=
  ((store.caches[cache]?).getD []).map (·.1)

/-- Requests for links add just the entries that are missing. -/
structure Files (requests : List (Nat × Link)) (before after : Store) : Prop where
  members : ∀ cache link,
    link ∈ after.links cache ↔ link ∈ before.links cache ∨ (cache, link) ∈ requests
  nodup : (∀ cache, (before.links cache).Nodup) → ∀ cache, (after.links cache).Nodup

private theorem mem_links_iff : link ∈ store.links cache ↔ store.placeOf? cache link ≠ none := by
  unfold links placeOf?
  cases store.caches[cache]? with
  | none => simp
  | some entries =>
      rw [Option.getD_some, Option.bind_some, ne_eq, List.lookup_eq_none_iff, List.mem_map]
      constructor
      · rintro ⟨entry, inside, rfl⟩ absent
        exact absurd (absent entry inside) (by simp)
      · intro present
        by_contra absent
        refine present fun entry inside => ?_
        refine bne_iff_ne.mpr ?_
        rintro rfl
        exact absent ⟨entry, inside, rfl⟩

/-- How many entries a cache has. -/
theorem length_links : ((store.caches[cache]?).map List.length).getD 0 =
    (store.links cache).length := by
  unfold links
  cases store.caches[cache]? <;> simp

private theorem files_of_links (same : after.links = before.links) : Files [] before after where
  members cache link := by simp [same]
  nodup := by rw [same]; exact id

theorem files_of_caches (same : after.caches = before.caches) : Files [] before after :=
  files_of_links (by unfold links; rw [same])

theorem Files.refl (store : Store) : Files [] store store := files_of_caches rfl

theorem Files.trans (first : Files requests before middle) (second : Files more middle after) :
    Files (requests ++ more) before after where
  members cache link := by
    rw [second.members, first.members, List.mem_append, or_assoc]
  nodup alone := second.nodup (first.nodup alone)

/-- A cache that was empty has as many entries as different links were requested of it. -/
theorem Files.length_links (files : Files requests before after)
    (empty : ∀ cache, before.links cache = []) {wanted : List Link}
    (asked : ∀ link, link ∈ wanted ↔ (cache, link) ∈ requests) :
    (after.links cache).length = wanted.toFinset.card := by
  have alone : (after.links cache).Nodup :=
    files.nodup (fun other => by rw [empty]; exact List.nodup_nil) cache
  rw [← List.toFinset_card_of_nodup alone]
  congr 1
  ext link
  rw [List.mem_toFinset, List.mem_toFinset, files.members, empty, asked]
  simp

/-- A new cache has no entries. -/
theorem files_newCache : Files [] store { store with caches := store.caches ++ [[]] } := by
  refine files_of_links (funext fun cache => ?_)
  unfold links
  rcases Nat.lt_trichotomy cache store.caches.length with inside | same | outside
  · rw [List.getElem?_append_left inside]
  · subst same
    simp
  · rw [List.getElem?_eq_none_iff.mpr (Nat.le_of_lt outside),
      List.getElem?_eq_none_iff.mpr (by simp; omega)]

/-- A request for a link adds its entry unless the cache has it. -/
theorem files_entry (inside : cache < store.caches.length) :
    Files [(cache, link)] store (store.entry cache link).2 := by
  cases there : store.placeOf? cache link with
  | some place =>
      have same : (store.entry cache link).2 = store := by simp [entry, there]
      rw [same]
      constructor
      · intro other key
        rw [List.mem_singleton]
        refine (or_iff_left_of_imp fun asked => ?_).symm
        cases asked
        exact mem_links_iff.mpr (by simp [there])
      · exact id
  | none =>
      have absent : link ∉ store.links cache := fun member => mem_links_iff.mp member there
      have made (other : Nat) : (store.entry cache link).2.links other =
          if other = cache then link :: store.links cache else store.links other := by
        have caches : (store.entry cache link).2.caches =
            store.caches.modify cache ((link, store.cells.length) :: ·) := by
          simp [entry, there, addCell, log]
        unfold links
        rw [caches, List.getElem?_modify]
        by_cases same : cache = other
        · subst same
          simp [List.getElem?_eq_getElem inside]
        · simp [same, Ne.symm same]
      constructor
      · intro other key
        rw [made, List.mem_singleton, Prod.mk.injEq]
        split
        · next same => rw [same, List.mem_cons, or_comm]; simp
        · next different => simp [different]
      · intro alone other
        rw [made]
        split
        · exact List.nodup_cons.mpr ⟨absent, alone cache⟩
        · exact alone other

theorem files_watch (inside : cache < store.caches.length) :
    Files [(cache, link)] store (store.watch cache link).2 :=
  (files_entry inside).trans (files_of_caches rfl)

/-! ## Operations that request nothing -/

theorem caches_poll (store : Store) (watch : Watch) (waker : Waker) :
    (store.poll watch waker).2.2.caches = store.caches :=
  (inside_poll store watch waker).caches

theorem caches_release (store : Store) (gate : Nat) (state : GateState) :
    (store.release gate state).caches = store.caches :=
  (inside_release store gate state).caches

theorem caches_advance (store : Store) (duration : Nat) :
    (store.advance duration).caches = store.caches :=
  (inside_wakeWhere _ _).caches

/-! ## Entries along steps -/

section Step

variable {demand : Demand} {place : Nat} {phase : FetchPhase}

/-- Every computation that has not ended without a value is that of an entry. -/
def Owned (store : Store) : Prop :=
  ∀ place phase, store.phase? place = some phase → phase = .completed ∨
    ∃ cache link, store.placeOf? cache link = some place

private theorem Step.owned (step : Step demand before after) (owned : before.Owned) :
    after.Owned := by
  intro place phase found
  have fixed (cache : Nat) (link : Link) (held : before.placeOf? cache link = some place) :
      after.placeOf? cache link = some place := step.fixed held
  cases step with
  | quiet quiet =>
      rw [quiet.phases] at found
      rw [quiet.places]
      exact owned place phase found
  | called here phases places =>
      rw [phases] at found
      rw [places]
      exact owned place phase found
  | @blank spot free sets =>
      rw [sets.phases, Function.update_apply] at found
      rw [sets.places]
      split at found
      · exact .inl (Option.some.inj found).symm
      · exact owned place phase found
  | @create spot owner key free missing phases places =>
      rw [phases, Function.update_apply] at found
      split at found
      · next same => exact .inr ⟨owner, key, by rw [places, if_pos ⟨rfl, rfl⟩, same]⟩
      · obtain ended | ⟨cache, link, held⟩ := owned place phase found
        · exact .inl ended
        · exact .inr ⟨cache, link, fixed cache link held⟩
  | @polled spot earlier later news here there goes sets =>
      rw [sets.phases, Function.update_apply] at found
      rw [sets.places]
      split at found
      · next same =>
        subst same
        obtain rfl | placed := owned place earlier there
        · cases goes
        · exact .inr placed
      · exact owned place phase found

theorem Steps.owned (steps : Steps demand before after) (owned : before.Owned) : after.Owned := by
  induction steps with
  | refl => exact owned
  | tail _ step ih => exact step.owned ih

end Step

end Store
end LinkFacts
