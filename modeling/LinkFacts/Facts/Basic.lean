/-!
# Facts

Metadata of a repository: texts under text keys.  The entries are kept in strictly ascending key
order, which is the order of Unicode code points, so a mapping has one representation.
-/

namespace LinkFacts

/-- Entries in strictly ascending key order. -/
def Ascending (entries : List (String × String)) : Prop :=
  entries.Pairwise (fun left right => left.1 < right.1)

namespace Facts

/-- Puts a value under a key, in place of an earlier one. -/
def insertEntry (key value : String) : List (String × String) → List (String × String)
  | [] => [(key, value)]
  | entry :: rest =>
    if key < entry.1 then (key, value) :: entry :: rest
    else if entry.1 < key then entry :: insertEntry key value rest
    else (key, value) :: rest

private theorem mem_insertEntry {key value : String} {entries : List (String × String)}
    {entry : String × String} (h : entry ∈ insertEntry key value entries) :
    entry = (key, value) ∨ entry ∈ entries := by
  induction entries with
  | nil => simpa [insertEntry] using h
  | cons first rest ih =>
    unfold insertEntry at h
    split at h
    · simpa using h
    · split at h
      · rcases List.mem_cons.mp h with h | h
        · exact .inr (h ▸ List.mem_cons_self)
        · exact (ih h).imp_right (List.mem_cons_of_mem _)
      · rcases List.mem_cons.mp h with h | h
        · exact .inl h
        · exact .inr (List.mem_cons_of_mem _ h)

private theorem ascending_insertEntry (key value : String) {entries : List (String × String)}
    (h : Ascending entries) : Ascending (insertEntry key value entries) := by
  induction entries with
  | nil => simp [insertEntry, Ascending]
  | cons first rest ih =>
    obtain ⟨hfirst, hrest⟩ := List.pairwise_cons.mp h
    unfold insertEntry
    split
    · next hlt =>
      refine List.pairwise_cons.mpr ⟨fun entry hentry => ?_, h⟩
      rcases List.mem_cons.mp hentry with rfl | hentry
      · exact hlt
      · exact String.lt_trans hlt (hfirst entry hentry)
    · split
      · next hgt =>
        refine List.pairwise_cons.mpr ⟨fun entry hentry => ?_, ih hrest⟩
        rcases mem_insertEntry hentry with rfl | hentry
        · exact hgt
        · exact hfirst entry hentry
      · next hle hge =>
        have heq : key = first.1 := String.le_antisymm hge hle
        exact List.pairwise_cons.mpr ⟨fun entry hentry => heq ▸ hfirst entry hentry, hrest⟩

end Facts

/-- Metadata of a repository, a finite mapping from keys to texts. -/
structure Facts where
  /-- The entries in key order. -/
  entries : List (String × String)
  /-- No key repeats, and keys ascend. -/
  ascending : Ascending entries

namespace Facts

/-- No metadata. -/
def empty : Facts := ⟨[], List.Pairwise.nil⟩

/-- Puts a value under a key, in place of an earlier one. -/
def insert (facts : Facts) (key value : String) : Facts :=
  ⟨insertEntry key value facts.entries, ascending_insertEntry key value facts.ascending⟩

/-- Collects pairs; a later pair replaces an earlier one with its key. -/
def ofList (pairs : List (String × String)) : Facts :=
  pairs.foldl (fun facts pair => facts.insert pair.1 pair.2) empty

/-- The value under a key. -/
def get? (facts : Facts) (key : String) : Option String := facts.entries.lookup key

/-- How many keys there are. -/
def size (facts : Facts) : Nat := facts.entries.length

/-- There is no key. -/
def isEmpty (facts : Facts) : Bool := facts.entries.isEmpty

@[ext]
theorem ext {left right : Facts} (h : left.entries = right.entries) : left = right := by
  cases left; cases right; cases h; rfl

instance : DecidableEq Facts := fun left right =>
  if h : left.entries = right.entries then .isTrue (ext h)
  else .isFalse (fun heq => h (heq ▸ rfl))

end Facts

/-- Facts with at least one entry. -/
structure Source where
  /-- The facts. -/
  facts : Facts
  /-- There is something to show. -/
  nonempty : facts.isEmpty = false

namespace Source

/-- Empty facts make no source. -/
def ofFacts? (facts : Facts) : Option Source :=
  if h : facts.isEmpty = false then some ⟨facts, h⟩ else none

end Source
end LinkFacts
