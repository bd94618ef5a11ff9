import Mathlib.Tactic
import LinkFacts.Host.Basic
import LinkFacts.Proofs.Text.Digits
import LinkFacts.Proofs.Text.Utf8

/-!
# Plain hosts

A host of ASCII letters, digits, hyphens and dots without encoded labels is read as it stands, but
for the case of its letters.
-/

namespace LinkFacts
namespace Host

open Text

variable {c : Char} {name other : List Char}

/-- A letter, digit, hyphen or dot. -/
def isNameChar (c : Char) : Bool := isAlphanumeric c || c == '-' || c == '.'

theorem isNameChar_iff : isNameChar c = true ↔ (97 ≤ c.toNat ∧ c.toNat ≤ 122) ∨
    (65 ≤ c.toNat ∧ c.toNat ≤ 90) ∨ (45 ≤ c.toNat ∧ c.toNat ≤ 46) ∨
    (48 ≤ c.toNat ∧ c.toNat ≤ 57) := by
  have hyphen : c = '-' ↔ c.toNat = 45 := Char.toNat_inj.symm
  have dot : c = '.' ↔ c.toNat = 46 := Char.toNat_inj.symm
  simp only [isNameChar, isAlphanumeric, Bool.or_eq_true, isLetter_iff, isDecimal_iff, beq_iff_eq,
    hyphen, dot]
  omega

private theorem isNameChar_lowerAscii (c : Char) : isNameChar (lowerAscii c) = isNameChar c := by
  rw [Bool.eq_iff_iff, isNameChar_iff, isNameChar_iff, toNat_lowerAscii]
  split <;> omega

theorem ne_of_isNameChar {d : Char} (char : isNameChar c = true) (foreign : isNameChar d = false) :
    c ≠ d := by
  rintro rfl
  rw [foreign] at char
  cases char

/-- A name of letters, digits, hyphens and dots, none of whose labels is encoded. -/
structure PlainName (name : List Char) : Prop where
  nonempty : name ≠ []
  chars : ∀ c ∈ name, isNameChar c = true
  bare : ∀ label ∈ labels name, isEncoded label = false

/-- Dots stay where they are when letters change their case. -/
theorem labels_map_lowerAscii (name : List Char) :
    labels (name.map lowerAscii) = (labels name).map (List.map lowerAscii) := by
  have dot (c : Char) : (lowerAscii c == '.') = (c == '.') := by
    have code (d : Char) : d = '.' ↔ d.toNat = 46 := Char.toNat_inj.symm
    rw [Bool.eq_iff_iff, beq_iff_eq, beq_iff_eq, code, code, toNat_lowerAscii]
    split <;> omega
  unfold labels
  induction name with
  | nil => rfl
  | cons c name ih =>
      rw [List.map_cons, List.splitOn_cons_eq_if_modifyHead, dot, ih,
        List.splitOn_cons_eq_if_modifyHead]
      split
      · rfl
      · cases name.splitOn '.' <;> rfl

theorem PlainName.of_sameLetters (plain : PlainName other) (same : SameLetters name other) :
    PlainName name where
  nonempty := by
    rintro rfl
    exact plain.nonempty (List.map_eq_nil_iff.mp same.symm)
  chars := by
    intro c there
    have lowered : lowerAscii c ∈ other.map lowerAscii := same ▸ List.mem_map_of_mem there
    obtain ⟨d, held, equal⟩ := List.mem_map.mp lowered
    rw [← isNameChar_lowerAscii, ← equal, isNameChar_lowerAscii]
    exact plain.chars d held
  bare := by
    intro label there
    have lowered : label.map lowerAscii ∈ (labels other).map (List.map lowerAscii) := by
      rw [← labels_map_lowerAscii, ← same, labels_map_lowerAscii]
      exact List.mem_map_of_mem there
    obtain ⟨twin, held, equal⟩ := List.mem_map.mp lowered
    rw [isEncoded, ← equal]
    exact plain.bare twin held

private theorem PlainName.isAscii (plain : PlainName name) : ∀ c ∈ name, Text.isAscii c = true := by
  intro c there
  have codes := isNameChar_iff.mp (plain.chars c there)
  exact decide_eq_true (by omega)

theorem PlainName.not_mem (plain : PlainName name) (foreign : isNameChar c = false) :
    c ∉ name :=
  fun there => ne_of_isNameChar (plain.chars c there) foreign rfl

private theorem PlainName.toAscii?_eq (plain : PlainName name) :
    toAscii? name = some (name.map lowerAscii) := by
  have isPlain : isPlain name = true := by
    rw [Host.isPlain, Bool.and_eq_true, List.all_eq_true, Bool.not_eq_true', List.any_eq_false]
    exact ⟨plain.isAscii, fun label there => by simp [plain.bare label there]⟩
  have clear : name.any isForbidden = false := by
    rw [List.any_eq_false]
    intro c there forbidden
    have codes := isNameChar_iff.mp (plain.chars c there)
    simp only [isForbidden, Bool.or_eq_true, decide_eq_true_eq, List.contains_iff_mem] at forbidden
    obtain (low | delete) | listed := forbidden
    · omega
    · omega
    · have foreign : ['#', '%', '/', ':', '<', '>', '?', '@', '[', '\\', ']', '^', '|'].all
          (!isNameChar ·) = true := rfl
      have other : isNameChar c = false := by simpa using List.all_eq_true.mp foreign c listed
      exact plain.not_mem other there
  rw [toAscii?, if_pos isPlain, clear]
  rfl

/-- The letters of a plain host are put in lower case, and nothing else happens to it. -/
theorem PlainName.read_eq (plain : PlainName name) :
    Host.read name = ofAscii (name.map lowerAscii) := by
  have decoded : decodeUtf8Lossy (percentDecode name) = name := by
    rw [percentDecode_of_ascii plain.isAscii (plain.not_mem (by decide)),
      decodeUtf8Lossy_of_ascii plain.isAscii]
  rw [Host.read, decoded, plain.toAscii?_eq]
  rintro rest rfl
  exact plain.not_mem (by decide) List.mem_cons_self

end Host
end LinkFacts
