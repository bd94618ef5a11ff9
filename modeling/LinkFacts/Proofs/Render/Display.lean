import Mathlib.Data.List.Perm.Basic
import LinkFacts.Proofs.Facts.Mapping
import LinkFacts.Proofs.Text.Utf8
import LinkFacts.Render.Order

/-!
# Display order

Facts are shown in another order than they are kept in, but every one of them is shown, and once:
the well-known keys that are there, and behind them the other keys by their bytes.
-/

namespace LinkFacts
namespace Render

open Facts (mem_entries_iff nodup_keys)

/-- The entries of facts in the order in which they are shown. -/
structure Arranged (facts : Facts) (shown : List (String × String)) : Prop where
  /-- All entries are shown. -/
  all : shown.Perm facts.entries
  /-- No key is shown twice. -/
  once : (shown.map Prod.fst).Nodup
  /-- Each key is shown with its own value. -/
  valued : ∀ key value, (key, value) ∈ shown ↔ facts.get? key = some value
  /-- The well-known keys that are there stand first, and the others are sorted by their bytes. -/
  ordered : ∃ others, shown.map Prod.fst =
      ["version", "stars", "forks"].filter (fun key => (facts.get? key).isSome) ++ others ∧
    (∀ key ∈ others, key ∉ ["version", "stars", "forks"]) ∧
    others.Pairwise fun first second =>
      Text.encodeUtf8 first.toList < Text.encodeUtf8 second.toList

/-! ## Completeness -/

/-- Entries are grouped by some keys, and behind these groups stand the entries with other keys. -/
theorem grouped_perm {keys : List String} (distinct : keys.Nodup)
    (entries : List (String × String)) :
    List.Perm ((keys.flatMap fun key => entries.filter (·.1 = key)) ++
      entries.filter fun entry => !keys.contains entry.1) entries := by
  induction keys generalizing entries with
  | nil => simp
  | cons key keys ih =>
      obtain ⟨absent, distinct⟩ := List.nodup_cons.mp distinct
      -- the other groups are those of the entries that are not in the first group
      have groups : (keys.flatMap fun other => entries.filter (·.1 = other)) =
          keys.flatMap fun other =>
            (entries.filter fun entry => !decide (entry.1 = key)).filter (·.1 = other) := by
        refine List.flatMap_congr fun other member => ?_
        rw [List.filter_filter]
        refine List.filter_congr fun entry _ => ?_
        have different : other ≠ key := fun same => absent (same ▸ member)
        by_cases here : entry.1 = other <;> simp [here, different]
      have others : (entries.filter fun entry => !(key :: keys).contains entry.1) =
          (entries.filter fun entry => !decide (entry.1 = key)).filter fun entry =>
            !keys.contains entry.1 := by
        rw [List.filter_filter]
        refine List.filter_congr fun entry _ => ?_
        by_cases here : entry.1 = key <;> simp [here]
      rw [List.flatMap_cons, List.append_assoc, groups, others]
      exact ((ih distinct _).append_left _).trans (List.filter_append_perm _ entries)

/-- The facts that are shown are all facts. -/
theorem displayed_perm (facts : Facts) : List.Perm (displayed facts) facts.entries :=
  grouped_perm (by decide) facts.entries

theorem length_displayed (facts : Facts) : (displayed facts).length = facts.size :=
  (displayed_perm facts).length_eq

/-! ## Order -/

/-- At most one entry has a given key. -/
theorem filter_key {entries : List (String × String)} (ascending : Ascending entries)
    (key : String) :
    entries.filter (·.1 = key) = ((entries.lookup key).map (Prod.mk key)).toList := by
  induction entries with
  | nil => rfl
  | cons first rest ih =>
      obtain ⟨name, value⟩ := first
      obtain ⟨below, ascending⟩ := List.pairwise_cons.mp ascending
      rw [List.filter_cons, Naming.lookup_cons_ite]
      by_cases same : name = key
      · subst same
        have none : rest.filter (·.1 = name) = [] := by
          apply List.filter_eq_nil_iff.mpr
          intro entry held
          simpa using (String.ne_of_lt (below entry held)).symm
        simp [none]
      · simp [same, Ne.symm same, ih ascending]

/-- The keys of the entries with some keys are those keys that are there. -/
theorem keys_grouped (facts : Facts) (keys : List String) :
    (keys.flatMap fun key => facts.entries.filter (·.1 = key)).map Prod.fst =
      keys.filter fun key => (facts.get? key).isSome := by
  induction keys with
  | nil => rfl
  | cons key keys ih =>
      rw [List.flatMap_cons, List.map_append, ih, filter_key facts.ascending, List.filter_cons]
      cases held : facts.entries.lookup key with
      | none => simp [Facts.get?, held]
      | some value => simp [Facts.get?, held]

theorem arranged_displayed (facts : Facts) : Arranged facts (displayed facts) where
  all := displayed_perm facts
  once := ((displayed_perm facts).map Prod.fst).nodup_iff.mpr (nodup_keys facts.ascending)
  valued key value := (displayed_perm facts).mem_iff.trans mem_entries_iff
  ordered := by
    refine ⟨(facts.entries.filter fun entry => !wellKnown.contains entry.1).map Prod.fst, ?_, ?_, ?_⟩
    · rw [displayed, List.map_append, leading, keys_grouped]
      rfl
    · intro key shown known
      obtain ⟨entry, held, rfl⟩ := List.mem_map.mp shown
      obtain ⟨-, other⟩ := List.mem_filter.mp held
      have contained : wellKnown.contains entry.1 = true := List.contains_iff_mem.mpr known
      rw [contained] at other
      cases other
    · rw [List.pairwise_map]
      apply (facts.ascending.filter _).imp
      intro first second less
      exact Text.encodeUtf8_lt (String.lt_iff.mp less)

end Render
end LinkFacts
