import Mathlib
import LinkFacts.Facts.Document
import LinkFacts.Proofs.Json.Quoted

/-!
# Facts survive their document

The document of facts lists the entries in key order, each as two quoted texts.  Reading it yields
these pairs in the same order, and collecting pairs in key order yields the entries again.
-/

namespace LinkFacts
namespace Facts

open Json

section Collecting

variable {key value : String} {entries : List (String × String)}

/-- A key above all others goes to the end. -/
theorem insertEntry_of_above (above : ∀ entry ∈ entries, entry.1 < key) :
    insertEntry key value entries = entries ++ [(key, value)] := by
  induction entries with
  | nil => rfl
  | cons first rest ih =>
    have below : first.1 < key := above first List.mem_cons_self
    have not_above : ¬ key < first.1 := fun less => String.lt_irrefl _ (String.lt_trans below less)
    rw [insertEntry, if_neg not_above, if_pos below,
      ih fun entry member => above entry (List.mem_cons_of_mem _ member), List.cons_append]

/-- Pairs that continue the entries in key order are collected behind them. -/
theorem collect_ascending (facts : Facts) (pairs : List (String × String))
    (ascending : Ascending (facts.entries ++ pairs)) :
    (pairs.foldl (fun facts pair => facts.insert pair.1 pair.2) facts).entries =
      facts.entries ++ pairs := by
  induction pairs generalizing facts with
  | nil => simp
  | cons pair pairs ih =>
    have above : ∀ entry ∈ facts.entries, entry.1 < pair.1 := fun entry member =>
      (List.pairwise_append.mp ascending).2.2 entry member pair List.mem_cons_self
    have inserted : (facts.insert pair.1 pair.2).entries = facts.entries ++ [pair] :=
      insertEntry_of_above above
    have next : Ascending ((facts.insert pair.1 pair.2).entries ++ pairs) := by
      simpa only [inserted, List.append_assoc, List.singleton_append] using ascending
    rw [List.foldl_cons, ih _ next, inserted, List.append_assoc, List.singleton_append]

/-- The entries of facts, collected, are the facts. -/
theorem ofList_entries (facts : Facts) : ofList facts.entries = facts :=
  ext (collect_ascending empty facts.entries facts.ascending)

end Collecting

/-- A quoted text is the value of a fact. -/
theorem readScalarText_quote (depth : Nat) (text : String) (rest : List Char) :
    Takes (readScalarText depth (quote text ++ rest)) text rest := by
  obtain ⟨shorter, read⟩ := readValue_quote depth text rest
  refine ⟨shorter, ?_⟩
  simp only [readScalarText, read, scalarText?]
  rfl

/-- One entry is read back as a member. -/
theorem readMember_entry (depth : Nat) (key value : String) (rest : List Char) :
    Takes (readMember (readScalarText depth) (quote key ++ ':' :: (quote value ++ rest)))
      (key, value) rest := by
  apply readMember_quote
  rw [skipSpace_quote]
  exact readScalarText_quote depth value rest

/-- What follows the first entry: each further one behind a comma. -/
def writeOthers (entries : List (String × String)) : List Char :=
  entries.flatMap fun entry => ',' :: (quote entry.1 ++ ':' :: quote entry.2)

private theorem writeMembers_cons (key value : String) (entries : List (String × String)) :
    writeMembers ((key, value) :: entries) =
      quote key ++ ':' :: (quote value ++ writeOthers entries) := by
  induction entries generalizing key value with
  | nil => simp [writeMembers, writeOthers]
  | cons second entries ih =>
    rw [writeMembers, ih]
    · simp [writeOthers]
    · simp

/-- The entries behind commas are read back up to the closing brace. -/
theorem readMembers_others (depth : Nat) (entries : List (String × String)) (rest : List Char) :
    Takes (readMembers (readScalarText depth) false (writeOthers entries ++ '}' :: rest)) entries
      rest := by
  induction entries with
  | nil => exact readMembers_close false
  | cons entry entries ih =>
    have member := readMember_entry depth entry.1 entry.2 (writeOthers entries ++ '}' :: rest)
    have split : writeOthers (entry :: entries) ++ '}' :: rest = ',' :: (quote entry.1 ++
        ':' :: (quote entry.2 ++ (writeOthers entries ++ '}' :: rest))) := by
      simp [writeOthers]
    rw [split]
    rw [quote_append] at member ⊢
    exact readMembers_next member ih

/-- The entries are read back up to the closing brace. -/
theorem readMembers_writeMembers (depth : Nat) (entries : List (String × String))
    (rest : List Char) :
    Takes (readMembers (readScalarText depth) true (writeMembers entries ++ '}' :: rest)) entries
      rest := by
  cases entries with
  | nil => exact readMembers_close true
  | cons entry entries =>
    have member := readMember_entry depth entry.1 entry.2 (writeOthers entries ++ '}' :: rest)
    rw [writeMembers_cons, List.append_assoc, List.cons_append, List.append_assoc]
    rw [quote_append] at member ⊢
    exact readMembers_first member (readMembers_others depth entries rest)

/-- A document of facts is read as an object, whatever follows it. -/
theorem read_document (depth : Nat) (facts : Facts) (rest : List Char) :
    Takes (read (depth + 1) ('{' :: (writeMembers facts.entries ++ '}' :: rest))) facts rest := by
  obtain ⟨shorter, members⟩ := readMembers_writeMembers depth facts.entries rest
  refine ⟨Nat.lt_succ_of_lt shorter, ?_⟩
  simp only [read, readObject, members, Taken.map, Taken.afterOne, Taken.within, ofList_entries]

/-- Facts are read back from their document. -/
theorem ofJson_toJson (facts : Facts) : ofJson (toJson facts) = .ok facts := by
  have document : (toJson facts).toList = '{' :: (writeMembers facts.entries ++ ['}']) := by
    simp [toJson]
  rw [ofJson, document]
  exact readDocument_of_takes (read_document 126 facts [])

/-- The document of the facts that a document holds. -/
def normalDocument (text : String) : Except Fault String := (ofJson text).map toJson

/-- Facts, with whatever texts as keys and values, are read back from their document; so different
facts have different documents, and the document of what was read is its own normal form. -/
theorem document_faithful :
    (∀ facts, ofJson (toJson facts) = .ok facts) ∧
    Function.Injective toJson ∧
    ∀ text normal, normalDocument text = .ok normal → normalDocument normal = .ok normal := by
  refine ⟨ofJson_toJson, fun left right same => ?_, fun text normal normalised => ?_⟩
  · have restored : Except.ok left = Except.ok (ε := Fault) right := by
      rw [← ofJson_toJson left, ← ofJson_toJson right, same]
    exact Except.ok.inj restored
  · rw [normalDocument] at normalised
    cases read : ofJson text with
    | error fault =>
      rw [read] at normalised
      cases normalised
    | ok facts =>
      rw [read] at normalised
      cases normalised
      rw [normalDocument, ofJson_toJson]
      rfl

/-- A document with blanks, a truth value, an empty and a repeated key, an escaped control character
and a pair of surrogates. -/
def looseDocument : String :=
  "\x7b \"b\" : true, \"\" : false, \"b\" : \"\\u0000\\\"\\uD834\\uDD1E\" \x7d"

/-- The compact document of the same facts. -/
def tightDocument : String :=
  "\x7b\"\":\"false\",\"b\":\"\\u0000\\\"𝄞\"\x7d"

/-- The loose document is read and written as the compact one, which stays as it is. -/
theorem looseDocument_normal :
    normalDocument looseDocument = .ok tightDocument ∧
      normalDocument tightDocument = .ok tightDocument := by
  have read : normalDocument looseDocument = .ok tightDocument := by cbv
  exact ⟨read, document_faithful.2.2 looseDocument tightDocument read⟩

end Facts
end LinkFacts
