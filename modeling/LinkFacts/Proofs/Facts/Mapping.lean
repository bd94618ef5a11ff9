import Mathlib.Data.List.Nodup
import LinkFacts.Facts.Basic
import LinkFacts.Proofs.Naming

/-!
# Facts are a mapping

Facts are determined by what they hold under each key.  Pairs that are collected leave the value of
the last pair under each key.
-/

namespace LinkFacts
namespace Facts

open Naming (lookup_cons_ite mem_of_lookup)

variable {facts left right : Facts} {key other value : String} {entries : List (String × String)}

/-! ## Entries -/

theorem nodup_keys (ascending : Ascending entries) : (entries.map Prod.fst).Nodup := by
  rw [List.Nodup, List.pairwise_map]
  apply ascending.imp
  exact fun less => (String.ne_of_lt less)

private theorem lookup_of_mem (ascending : Ascending entries) (held : (key, value) ∈ entries) :
    entries.lookup key = some value := by
  induction entries with
  | nil => cases held
  | cons first rest ih =>
      obtain ⟨below, ascending⟩ := List.pairwise_cons.mp ascending
      obtain rfl | later := List.mem_cons.mp held
      · exact List.lookup_cons_self
      · have different : key ≠ first.1 := (String.ne_of_lt (below _ later)).symm
        rw [lookup_cons_ite, if_neg different, ih ascending later]

/-- What is found under a key is the entry with the key. -/
theorem mem_entries_iff : (key, value) ∈ facts.entries ↔ facts.get? key = some value :=
  ⟨lookup_of_mem facts.ascending, mem_of_lookup⟩

/-- Facts that hold the same under each key are the same. -/
theorem ext_get? (same : ∀ key, left.get? key = right.get? key) : left = right := by
  have entries : left.entries.Perm right.entries := by
    rw [List.perm_ext_iff_of_nodup (List.Nodup.of_map _ (nodup_keys left.ascending))
      (List.Nodup.of_map _ (nodup_keys right.ascending))]
    rintro ⟨key, value⟩
    rw [mem_entries_iff, mem_entries_iff, same]
  apply ext
  refine entries.eq_of_pairwise (fun first second _ _ less greater => ?_) left.ascending
    right.ascending
  exact absurd (String.lt_trans less greater) (String.lt_irrefl _)

/-! ## Collecting -/

private theorem lookup_insertEntry (ascending : Ascending entries) (key other value : String) :
    (insertEntry key value entries).lookup other =
      if other = key then some value else entries.lookup other := by
  induction entries with
  | nil => exact lookup_cons_ite other key value []
  | cons first rest ih =>
      obtain ⟨name, held⟩ := first
      obtain ⟨-, ascending⟩ := List.pairwise_cons.mp ascending
      rw [insertEntry]
      split
      · exact lookup_cons_ite other key value _
      · next notBefore =>
        split
        · next behind =>
          rw [lookup_cons_ite, lookup_cons_ite, ih ascending]
          by_cases here : other = name
          · have different : other ≠ key := here ▸ String.ne_of_lt behind
            rw [if_pos here, if_neg different, if_pos here]
          · rw [if_neg here, if_neg here]
        · next notBehind =>
          have same : key = name := String.le_antisymm notBehind notBefore
          rw [lookup_cons_ite, lookup_cons_ite, same]
          split <;> rfl

private theorem get?_insert : (facts.insert key value).get? other =
    if other = key then some value else facts.get? other :=
  lookup_insertEntry facts.ascending key other value

/-- The value of the last pair with a key. -/
def lastValue? (pairs : List (String × String)) (key : String) : Option String :=
  pairs.reverse.lookup key

private theorem get?_collect (pairs : List (String × String)) (facts : Facts) (key : String) :
    (pairs.foldl (fun facts pair => facts.insert pair.1 pair.2) facts).get? key =
      (lastValue? pairs key).or (facts.get? key) := by
  induction pairs generalizing facts with
  | nil => rfl
  | cons pair pairs ih =>
      have last : lastValue? (pair :: pairs) key =
          (lastValue? pairs key).or (if key = pair.1 then some pair.2 else none) := by
        rw [lastValue?, List.reverse_cons, List.lookup_append, lookup_cons_ite]
        rfl
      rw [List.foldl_cons, ih, get?_insert, last, Option.or_assoc]
      split <;> rfl

/-- The last pair with a key decides. -/
theorem get?_ofList (pairs : List (String × String)) (key : String) :
    (ofList pairs).get? key = lastValue? pairs key := by
  rw [ofList, get?_collect]
  exact Option.or_none

end Facts
end LinkFacts
