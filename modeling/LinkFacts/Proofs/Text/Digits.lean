import Mathlib.Data.List.TakeWhile
import Mathlib.Tactic
import LinkFacts.Text.Digits

/-!
# Letters and decimal numerals

The case of ASCII letters by their codes.  A list of characters is read as a natural just if it is
the decimal numeral of the natural, perhaps with zeros in front.
-/

namespace LinkFacts
namespace Text

variable {c : Char} {cs lead tail : List Char} {value : Nat} {test : Char → Bool}

/-! ## Letters -/

theorem isLetter_iff : isLetter c = true ↔
    (97 ≤ c.toNat ∧ c.toNat ≤ 122) ∨ (65 ≤ c.toNat ∧ c.toNat ≤ 90) := by
  simp only [isLetter, Bool.or_eq_true, Bool.and_eq_true, decide_eq_true_eq]
  rfl

theorem toNat_lowerAscii (c : Char) : (lowerAscii c).toNat =
    if 65 ≤ c.toNat ∧ c.toNat ≤ 90 then c.toNat + 32 else c.toNat := by
  by_cases upper : 65 ≤ c.toNat ∧ c.toNat ≤ 90
  · have letter : 'A' ≤ c ∧ c ≤ 'Z' := upper
    have valid : (c.toNat + 32).isValidChar := .inl (by omega)
    rw [lowerAscii, if_pos letter, if_pos upper, Char.ofNat, dif_pos valid]
    rfl
  · have other : ¬ ('A' ≤ c ∧ c ≤ 'Z') := upper
    rw [lowerAscii, if_neg other, if_neg upper]

theorem isLetter_lowerAscii (c : Char) : isLetter (lowerAscii c) = isLetter c := by
  rw [Bool.eq_iff_iff, isLetter_iff, isLetter_iff, toNat_lowerAscii]
  split <;> omega

/-- Two texts differ in the case of their ASCII letters only. -/
def SameLetters (left right : List Char) : Prop := left.map lowerAscii = right.map lowerAscii

instance (left right : List Char) : Decidable (SameLetters left right) :=
  inferInstanceAs (Decidable (left.map lowerAscii = right.map lowerAscii))

/-! ## Digits -/

private theorem digitValue?_digitChar :
    ∀ digit < 10, digitValue? (Nat.digitChar digit) = some digit := by
  decide

theorem isDecimal_iff : isDecimal c = true ↔ 48 ≤ c.toNat ∧ c.toNat ≤ 57 := by
  constructor
  · intro decimal
    have digits : '0' ≤ c ∧ c ≤ '9' := by
      by_contra none
      simp only [isDigitOf, digitValue?, none, if_false] at decimal
      split_ifs at decimal <;> simp at decimal
    exact digits
  · rintro ⟨least, greatest⟩
    have digits : '0' ≤ c ∧ c ≤ '9' := ⟨least, greatest⟩
    have zero : '0'.toNat = 48 := rfl
    simp only [isDigitOf, digitValue?, if_pos digits, decide_eq_true_eq]
    omega

/-- A decimal digit is the digit of its value. -/
theorem exists_of_isDecimal (decimal : isDecimal c = true) :
    ∃ digit < 10, c = Nat.digitChar digit ∧ digitValue? c = some digit := by
  obtain ⟨low, high⟩ := isDecimal_iff.mp decimal
  obtain ⟨digit, less, same⟩ : ∃ digit < 10, c.toNat = 48 + digit :=
    ⟨c.toNat - 48, by omega, by omega⟩
  have char : c = Nat.digitChar digit := by
    rw [← Char.ofNat_toNat c, same]
    interval_cases digit <;> rfl
  exact ⟨digit, less, char, char ▸ digitValue?_digitChar digit less⟩

private theorem isDecimal_digitChar {digit : Nat} (less : digit < 10) :
    isDecimal (Nat.digitChar digit) = true := by
  simp [isDigitOf, digitValue?_digitChar digit less, less]

private theorem foldDigits_concat (cs : List Char) (c : Char) : foldDigits 10 0 (cs ++ [c]) =
    foldDigits 10 0 cs * 10 + (digitValue? c).getD 0 := by
  simp [foldDigits]

private theorem foldDigits_zeros (zeros : Nat) (cs : List Char) :
    foldDigits 10 0 (List.replicate zeros '0' ++ cs) = foldDigits 10 0 cs := by
  induction zeros with
  | zero => rfl
  | succ zeros ih => exact ih

theorem foldDigits_toDigits (value : Nat) : foldDigits 10 0 (Nat.toDigits 10 value) = value := by
  induction value using Nat.strong_induction_on with
  | _ value ih =>
      rw [Nat.toDigits_eq_if (by omega)]
      split
      · next less =>
        simp [foldDigits, digitValue?_digitChar value less]
      · next more =>
        rw [foldDigits_concat, ih (value / 10) (by omega),
          digitValue?_digitChar _ (Nat.mod_lt _ (by omega)), Option.getD_some]
        omega

theorem isDecimal_of_mem_toDigits (value : Nat) :
    ∀ c ∈ Nat.toDigits 10 value, isDecimal c = true := by
  induction value using Nat.strong_induction_on with
  | _ value ih =>
      rw [Nat.toDigits_eq_if (by omega)]
      split
      · next less =>
        intro c member
        rw [List.mem_singleton.mp member]
        exact isDecimal_digitChar less
      · next more =>
        intro c member
        obtain earlier | last := List.mem_append.mp member
        · exact ih (value / 10) (by omega) c earlier
        · rw [List.mem_singleton.mp last]
          exact isDecimal_digitChar (Nat.mod_lt _ (by omega))

/-- No needless zero stands in front. -/
theorem toDigits_of_zero_first (value : Nat)
    (zero : (Nat.toDigits 10 value).head? = some '0') : Nat.toDigits 10 value = ['0'] := by
  induction value using Nat.strong_induction_on with
  | _ value ih =>
      rw [Nat.toDigits_eq_if (by omega)] at zero ⊢
      split at zero
      · next less =>
        rw [if_pos less]
        exact congrArg (fun c => [c]) (Option.some.inj zero)
      · next more =>
        have nonempty : Nat.toDigits 10 (value / 10) ≠ [] :=
          List.ne_nil_of_length_pos Nat.length_toDigits_pos
        rw [List.head?_append_of_ne_nil _ nonempty] at zero
        have quotient := foldDigits_toDigits (value / 10)
        rw [ih (value / 10) (by omega) zero] at quotient
        have none : value / 10 = 0 := quotient.symm
        omega

/-- Digits are a numeral with zeros in front. -/
theorem numeral_of_digits (nonempty : cs ≠ []) (digits : ∀ c ∈ cs, isDecimal c = true) :
    ∃ zeros, cs = List.replicate zeros '0' ++ Nat.toDigits 10 (foldDigits 10 0 cs) := by
  induction cs using List.reverseRecOn with
  | nil => exact absurd rfl nonempty
  | append_singleton init last ih =>
      obtain ⟨digit, less, char, valued⟩ := exists_of_isDecimal (digits last (by simp))
      rw [foldDigits_concat, valued, Option.getD_some]
      cases init with
      | nil =>
          refine ⟨0, ?_⟩
          simp [foldDigits, Nat.toDigits_of_lt_base less, char]
      | cons first rest =>
          obtain ⟨zeros, same⟩ := ih (by simp) fun c member =>
            digits c (List.mem_append_left _ member)
          generalize foldDigits 10 0 (first :: rest) = front at same ⊢
          rcases Nat.eq_zero_or_pos front with rfl | positive
          · refine ⟨zeros + 1, ?_⟩
            rw [same, Nat.zero_mul, Nat.zero_add, Nat.toDigits_of_lt_base less, char,
              List.replicate_succ']
            simp
          · refine ⟨zeros, ?_⟩
            rw [same, Nat.toDigits_of_base_le (by omega) (by omega : 10 ≤ front * 10 + digit),
              char]
            have quotient : (front * 10 + digit) / 10 = front := by omega
            have remainder : (front * 10 + digit) % 10 = digit := by omega
            rw [quotient, remainder, List.append_assoc]

theorem readDigits?_eq_some_iff : readDigits? 10 cs = some value ↔
    ∃ zeros, cs = List.replicate zeros '0' ++ Nat.toDigits 10 value := by
  constructor
  · intro read
    unfold readDigits? at read
    split at read
    · cases read
    · next fine =>
      cases read
      simp only [Bool.or_eq_true, not_or, List.isEmpty_iff, Bool.not_eq_true', Bool.not_eq_false,
        List.all_eq_true] at fine
      exact numeral_of_digits fine.1 fine.2
  · rintro ⟨zeros, rfl⟩
    have nonempty : List.replicate zeros '0' ++ Nat.toDigits 10 value ≠ [] := by
      have long : 0 < (Nat.toDigits 10 value).length := Nat.length_toDigits_pos
      intro empty
      rw [(List.append_eq_nil_iff.mp empty).2] at long
      cases long
    have digits : ∀ c ∈ List.replicate zeros '0' ++ Nat.toDigits 10 value, isDecimal c = true := by
      intro c member
      obtain zero | digit := List.mem_append.mp member
      · rw [List.eq_of_mem_replicate zero]
        rfl
      · exact isDecimal_of_mem_toDigits value c digit
    unfold readDigits?
    rw [if_neg, foldDigits_zeros, foldDigits_toDigits]
    simp only [Bool.or_eq_true, not_or, List.isEmpty_iff, Bool.not_eq_true', Bool.not_eq_false,
      List.all_eq_true]
    exact ⟨nonempty, digits⟩

end Text
end LinkFacts
