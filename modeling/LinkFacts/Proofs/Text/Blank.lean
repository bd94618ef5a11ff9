import Mathlib.Data.List.DropRight
import LinkFacts.Text.Blank

/-!
# Stripping

Stripping a text takes away nothing but the characters that are tested for, and takes them away at
the ends only.
-/

namespace LinkFacts
namespace Text

variable {cs lead tail : List Char} {test : Char → Bool}

/-- Dropping a tail is dropping from the right. -/
theorem dropTail_eq_rdropWhile : dropTail test cs = cs.rdropWhile test := rfl

theorem strip_spec (test : Char → Bool) (cs : List Char) : ∃ lead tail,
    (∀ c ∈ lead, test c = true) ∧ (∀ c ∈ tail, test c = true) ∧
      cs = lead ++ strip test cs ++ tail := by
  refine ⟨cs.takeWhile test, (cs.dropWhile test).rtakeWhile test, ?_, ?_, ?_⟩
  · exact fun c member => List.mem_takeWhile_imp member
  · exact fun c member => List.mem_rtakeWhile_imp member
  · rw [strip, dropTail_eq_rdropWhile, List.append_assoc, List.rdropWhile_append_rtakeWhile,
      List.takeWhile_append_dropWhile]

/-- A tail that satisfies the test is dropped whole. -/
theorem dropTail_append_of_all (dropped : ∀ c ∈ tail, test c = true) :
    dropTail test (cs ++ tail) = dropTail test cs := by
  induction tail using List.reverseRecOn with
  | nil => rw [List.append_nil]
  | append_singleton tail c ih =>
      obtain ⟨before, last⟩ := List.forall_mem_append.mp dropped
      rw [← List.append_assoc, dropTail_eq_rdropWhile,
        List.rdropWhile_concat_pos _ _ _ (last c List.mem_cons_self)]
      exact ih before

/-- No tail is dropped beyond a character that stays. -/
theorem dropTail_append (nonempty : cs ≠ []) (last : ∀ c, cs.getLast? = some c → test c = false)
    (rest : List Char) : dropTail test (cs ++ rest) = cs ++ dropTail test rest := by
  induction rest using List.reverseRecOn with
  | nil =>
      have kept : test (cs.getLast nonempty) = false :=
        last _ (List.getLast?_eq_some_getLast nonempty)
      simp only [dropTail_eq_rdropWhile, List.rdropWhile_nil, List.append_nil]
      exact List.rdropWhile_eq_self_iff.mpr fun _ => by simp [kept]
  | append_singleton rest c ih =>
      simp only [dropTail_eq_rdropWhile] at ih ⊢
      rw [← List.append_assoc, List.rdropWhile_concat, List.rdropWhile_concat, ih]
      split
      · rfl
      · rw [List.append_assoc]

/-- Of a text whose front stays only the tail of the rest is stripped. -/
theorem strip_append (nonempty : cs ≠ []) (blank : ∀ c ∈ lead, test c = true)
    (blanks : ∀ c ∈ tail, test c = true) (first : ∀ c, cs.head? = some c → test c = false)
    (last : ∀ c, cs.getLast? = some c → test c = false) (rest : List Char) :
    strip test (lead ++ (cs ++ rest) ++ tail) = cs ++ dropTail test rest := by
  have front : (cs ++ rest ++ tail).dropWhile test = cs ++ rest ++ tail := by
    cases cs with
    | nil => exact absurd rfl nonempty
    | cons c cs => exact List.dropWhile_cons_of_neg (by simp [first c rfl])
  rw [strip, List.append_assoc, List.dropWhile_append_of_pos blank, front,
    dropTail_append_of_all blanks, dropTail_append nonempty last]

/-- What has no blank characters at its ends is left when the ones around it are stripped. -/
theorem strip_of_ends (nonempty : cs ≠ []) (blank : ∀ c ∈ lead, test c = true)
    (blanks : ∀ c ∈ tail, test c = true) (first : ∀ c, cs.head? = some c → test c = false)
    (last : ∀ c, cs.getLast? = some c → test c = false) :
    strip test (lead ++ cs ++ tail) = cs := by
  have stripped := strip_append nonempty blank blanks first last []
  rwa [List.append_nil, dropTail_eq_rdropWhile, List.rdropWhile_nil, List.append_nil] at stripped

/-- A text without blank characters has nothing to strip. -/
theorem strip_of_none (solid : ∀ c ∈ cs, test c = false) : strip test cs = cs := by
  cases cs with
  | nil => rfl
  | cons c rest =>
      have stripped : strip test ([] ++ c :: rest ++ []) = c :: rest :=
        strip_of_ends (by simp) (by simp) (by simp)
          (fun d first => solid d (List.mem_of_mem_head? first))
          (fun d last => solid d (List.mem_of_getLast? last))
      rwa [List.nil_append, List.append_nil] at stripped

end Text
end LinkFacts
