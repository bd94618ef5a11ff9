import LinkFacts.Naming

/-!
# Looking keys up

What is found under a key after something was put there or removed.
-/

namespace LinkFacts
namespace Naming

variable {κ α : Type} [DecidableEq κ]

/-- The first entry decides if it has the key, and the others do if it has not. -/
theorem lookup_cons_ite (other key : κ) (value : α) (rest : List (κ × α)) :
    ((key, value) :: rest).lookup other = if other = key then some value else rest.lookup other := by
  by_cases same : other = key
  · subst same
    simp
  · have different : (other == key) = false := beq_eq_false_iff_ne.mpr same
    simp [List.lookup_cons, different, same]

theorem lookup_filter_ne (key other : κ) (entries : List (κ × α)) :
    (entries.filter (·.1 ≠ key)).lookup other =
      if other = key then none else entries.lookup other := by
  induction entries with
  | nil => simp
  | cons entry rest ih =>
      obtain ⟨first, value⟩ := entry
      rw [lookup_cons_ite, List.filter_cons]
      by_cases same : first = key
      · subst same
        simp only [ne_eq, not_true_eq_false, decide_false, Bool.false_eq_true, if_false, ih]
        split <;> rfl
      · simp only [ne_eq, same, not_false_eq_true, decide_true, if_true, lookup_cons_ite, ih]
        by_cases found : other = first
        · subst found
          simp [same]
        · simp [found]

theorem lookup_remove (name other : String) (entries : List (String × α)) :
    (remove name entries).lookup other = if other = name then none else entries.lookup other :=
  lookup_filter_ne name other entries

theorem lookup_put (name other : String) (value : α) (entries : List (String × α)) :
    (put name value entries).lookup other =
      if other = name then some value else entries.lookup other := by
  rw [put, lookup_cons_ite, lookup_filter_ne]
  split <;> rfl

/-- What is found after something was put there is that or what was found before. -/
theorem lookup_of_put {name other : String} {value found : α} {entries : List (String × α)}
    (held : (put name value entries).lookup other = some found) :
    found = value ∨ entries.lookup other = some found := by
  rw [lookup_put] at held
  split at held
  · exact .inl (Option.some.inj held).symm
  · exact .inr held

theorem lookup_of_remove {name other : String} {found : α} {entries : List (String × α)}
    (held : (remove name entries).lookup other = some found) :
    entries.lookup other = some found := by
  rw [lookup_remove] at held
  split at held
  · cases held
  · exact held

/-- What is found under a key is an entry with this key. -/
theorem mem_of_lookup {key : κ} {value : α} {entries : List (κ × α)}
    (found : entries.lookup key = some value) : (key, value) ∈ entries := by
  induction entries with
  | nil => cases found
  | cons entry rest ih =>
      obtain ⟨first, other⟩ := entry
      rw [lookup_cons_ite] at found
      split at found
      · next same =>
        cases found
        exact same ▸ List.mem_cons_self
      · exact List.mem_cons_of_mem _ (ih found)

/-- An entry is found under its key if no key repeats. -/
theorem lookup_of_nodup {entry : κ × α} {entries : List (κ × α)}
    (distinct : (entries.map Prod.fst).Nodup) (member : entry ∈ entries) :
    entries.lookup entry.1 = some entry.2 := by
  induction entries with
  | nil => cases member
  | cons first rest ih =>
      obtain ⟨fresh, distinctRest⟩ := List.nodup_cons.mp distinct
      rw [lookup_cons_ite]
      rcases List.mem_cons.mp member with rfl | later
      · exact if_pos rfl
      · rw [if_neg fun same => fresh (List.mem_map.mpr ⟨entry, later, same⟩)]
        exact ih distinctRest later

end Naming
end LinkFacts
