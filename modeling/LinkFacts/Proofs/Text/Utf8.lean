import Mathlib.Tactic
import LinkFacts.Text.Percent

/-!
# Bytes and characters

ASCII text is its own bytes, and is read back from them.  Texts are compared character by
character, and their bytes are compared one by one; both give the same order.  Where two characters
differ their bytes differ, and the first different byte tells which character has the smaller code
point.
-/

namespace LinkFacts
namespace Text

variable {c d : Char} {cs ds : List Char}

/-! ## ASCII -/

/-- Text in which nothing is encoded stands for its own bytes. -/
theorem percentDecode_of_ascii (ascii : ∀ c ∈ cs, isAscii c = true) (bare : '%' ∉ cs) :
    percentDecode cs = cs.map Char.toNat := by
  induction cs with
  | nil => rfl
  | cons c cs ih =>
      have small : c.toNat < 0x80 := of_decide_eq_true (ascii c List.mem_cons_self)
      have byte : encodeChar c = [c.toNat] := if_pos small
      rw [percentDecode, byte, ih (fun d there => ascii d (List.mem_cons_of_mem c there))
        fun there => bare (List.mem_cons_of_mem c there)]
      · rfl
      · rintro - - - rfl
        exact absurd List.mem_cons_self bare

private theorem decodeUtf8_of_ascii (ascii : ∀ c ∈ cs, isAscii c = true) :
    decodeUtf8 (cs.map Char.toNat) = cs.map some := by
  induction cs with
  | nil => rw [List.map_nil, decodeUtf8, List.map_nil]
  | cons c cs ih =>
      have small : c.toNat < 0x80 := of_decide_eq_true (ascii c List.mem_cons_self)
      rw [List.map_cons, decodeUtf8, if_pos small, Char.ofNat_toNat,
        ih fun d there => ascii d (List.mem_cons_of_mem c there), List.map_cons]

theorem decodeUtf8Lossy_of_ascii (ascii : ∀ c ∈ cs, isAscii c = true) :
    decodeUtf8Lossy (cs.map Char.toNat) = cs := by
  rw [decodeUtf8Lossy, decodeUtf8_of_ascii ascii, List.map_map]
  exact List.map_id cs

theorem decodeUtf8?_of_ascii (ascii : ∀ c ∈ cs, isAscii c = true) :
    decodeUtf8? (cs.map Char.toNat) = some cs := by
  rw [decodeUtf8?, decodeUtf8_of_ascii ascii, List.mapM_map]
  exact List.mapM_pure.trans (congrArg some (List.map_id cs))

/-! ## Order -/

/-- The bytes of a smaller character are smaller, whatever follows. -/
theorem encodeChar_append_lt (less : c < d) (left right : List Nat) :
    encodeChar c ++ left < encodeChar d ++ right := by
  have codes : c.toNat < d.toNat := less
  simp only [encodeChar]
  -- a longer character has the larger first byte; bytes of equal number are digits in base 64
  split_ifs
  all_goals
    simp only [List.cons_append, List.nil_append, List.cons_lt_cons_iff]
    omega

private theorem encodeChar_ne_nil (c : Char) : encodeChar c ≠ [] := by
  simp only [encodeChar]
  split_ifs
  all_goals exact List.cons_ne_nil _ _

/-- The bytes of a smaller text are smaller. -/
theorem encodeUtf8_lt (less : cs < ds) : encodeUtf8 cs < encodeUtf8 ds := by
  induction cs generalizing ds with
  | nil =>
      cases ds with
      | nil => exact absurd less (List.lt_irrefl [])
      | cons d ds =>
          obtain ⟨byte, bytes, same⟩ := List.exists_cons_of_ne_nil (encodeChar_ne_nil d)
          rw [encodeUtf8, encodeUtf8, List.flatMap_cons, same]
          exact List.nil_lt_cons byte _
  | cons c cs ih =>
      cases ds with
      | nil => exact absurd less (List.not_lt_nil _)
      | cons d ds =>
          obtain smaller | ⟨rfl, rest⟩ := List.cons_lt_cons_iff.mp less
          · exact encodeChar_append_lt smaller _ _
          · exact List.append_left_lt (ih rest)

end Text
end LinkFacts
