import LinkFacts.Proofs.Json.Quoted

/-!
# Spellings of quoted text

The characters of a text may be spelled in several ways between quotes.  The grammar of these
spellings is stated apart from the reader; the reader takes exactly what the grammar derives.
-/

namespace LinkFacts
namespace Json

open Text

/-- Four hexadecimal digits that denote a code unit. -/
def UnitText (source : List Char) (unit : Nat) (rest : List Char) : Prop :=
  ∃ a b c d, source = a :: b :: c :: d :: rest ∧ readDigits? 16 [a, b, c, d] = some unit

/-- What stands behind a backslash for a character. -/
inductive EscapeText : List Char → Char → List Char → Prop where
  /-- A letter that stands for the character. -/
  | letter {mark c : Char} {rest : List Char} (meaning : simpleEscape? mark = some c) :
      EscapeText (mark :: rest) c rest
  /-- The code of the character, which is no surrogate. -/
  | code {source rest : List Char} {unit : Nat} (digits : UnitText source unit rest)
      (leading : isLeading unit = false) (trailing : isTrailing unit = false) :
      EscapeText ('u' :: source) (Char.ofNat unit) rest
  /-- The pair of surrogates of the character. -/
  | pair {source next rest : List Char} {first second : Nat}
      (digits : UnitText source first ('\\' :: 'u' :: next)) (leading : isLeading first = true)
      (others : UnitText next second rest) (trailing : isTrailing second = true) :
      EscapeText ('u' :: source) (joinSurrogates first second) rest

/-- The spelling of some characters up to the closing quote. -/
inductive BodyText : List Char → List Char → List Char → Prop where
  /-- The closing quote. -/
  | close {rest : List Char} : BodyText ('"' :: rest) [] rest
  /-- A character that stands for itself; control characters never do. -/
  | bare {c : Char} {source cs rest : List Char} (unquoted : c ≠ '"') (unescaped : c ≠ '\\')
      (printable : 32 ≤ c.toNat) (others : BodyText source cs rest) :
      BodyText (c :: source) (c :: cs) rest
  /-- A character behind a backslash. -/
  | escape {c : Char} {source next cs rest : List Char} (escaped : EscapeText source c next)
      (others : BodyText next cs rest) : BodyText ('\\' :: source) (c :: cs) rest

namespace Taken

variable {α β : Type} {source whole : List Char} (taken : Taken α source)

@[simp]
theorem value_map (f : α → β) : (taken.map f).value = f taken.value := rfl

@[simp]
theorem rest_map (f : α → β) : (taken.map f).rest = taken.rest := rfl

@[simp]
theorem value_within (long : source.length ≤ whole.length) :
    (taken.within long).value = taken.value := rfl

@[simp]
theorem rest_within (long : source.length ≤ whole.length) :
    (taken.within long).rest = taken.rest := rfl

@[simp]
theorem value_afterOne (c : Char) : (taken.afterOne (c := c)).value = taken.value := rfl

@[simp]
theorem rest_afterOne (c : Char) : (taken.afterOne (c := c)).rest = taken.rest := rfl

end Taken

section Readers

variable {source rest : List Char} {c : Char}

@[simp]
theorem takes_ok_iff {α : Type} {taken : Taken α source} {value : α} :
    Takes (.ok taken) value rest ↔ taken.value = value ∧ taken.rest = rest := by
  constructor
  · rintro ⟨shorter, same⟩
    cases same
    exact ⟨rfl, rfl⟩
  · rintro ⟨rfl, rfl⟩
    exact ⟨taken.shorter, rfl⟩

@[simp]
theorem not_takes_error {α : Type} {fault : Fault} {value : α} :
    ¬ Takes (.error fault : Except Fault (Taken α source)) value rest := by
  rintro ⟨-, ⟨⟩⟩

theorem takes_of_eq_ok {α : Type} {answer : Except Fault (Taken α source)} {taken : Taken α source}
    (read : answer = .ok taken) : Takes answer taken.value taken.rest :=
  ⟨taken.shorter, read⟩

private theorem takes_readHex4_iff {unit : Nat} :
    Takes (readHex4 source) unit rest ↔ UnitText source unit rest := by
  constructor
  · intro read
    unfold readHex4 at read
    split at read
    · next a b c d more =>
      split at read
      · next value denoted =>
        obtain ⟨rfl, rfl⟩ := takes_ok_iff.mp read
        exact ⟨a, b, c, d, rfl, denoted⟩
      · exact (not_takes_error read).elim
    · split at read <;> exact (not_takes_error read).elim
  · rintro ⟨a, b, c, d, rfl, denoted⟩
    simp [readHex4, denoted]

/-- The second surrogate of a pair. -/
theorem takes_readTrailing_iff {leading : Nat} : Takes (readTrailing leading source) c rest ↔
    ∃ next second, source = '\\' :: 'u' :: next ∧ UnitText next second rest ∧
      isTrailing second = true ∧ joinSurrogates leading second = c := by
  constructor
  · intro read
    unfold readTrailing at read
    split at read
    · next next =>
      split at read
      · exact (not_takes_error read).elim
      · next taken units =>
        split at read
        · next trailing =>
          obtain ⟨same, left⟩ := takes_ok_iff.mp read
          have digits := takes_readHex4_iff.mp (takes_of_eq_ok units)
          rw [← left]
          exact ⟨next, taken.value, rfl, digits, trailing, by simpa using same⟩
        · exact (not_takes_error read).elim
    · exact (not_takes_error read).elim
    · exact (not_takes_error read).elim
    · exact (not_takes_error read).elim
  · rintro ⟨next, second, rfl, digits, trailing, same⟩
    obtain ⟨shorter, read⟩ := takes_readHex4_iff.mpr digits
    simp [readTrailing, read, trailing, same]

/-- A number behind a backslash. -/
theorem takes_readUnicode_iff :
    Takes (readUnicode source) c rest ↔ EscapeText ('u' :: source) c rest := by
  constructor
  · intro read
    unfold readUnicode at read
    split at read
    · exact (not_takes_error read).elim
    · next taken units =>
      have digits := takes_readHex4_iff.mp (takes_of_eq_ok units)
      split at read
      · exact (not_takes_error read).elim
      · next single =>
        split at read
        · next leading =>
          split at read
          · exact (not_takes_error read).elim
          · next joined others =>
            obtain ⟨rfl, rfl⟩ := takes_ok_iff.mp read
            obtain ⟨next, second, follows, more, trailing, same⟩ :=
              takes_readTrailing_iff.mp (takes_of_eq_ok others)
            rw [follows] at digits
            have pair := EscapeText.pair digits leading more trailing
            rw [same] at pair
            exact pair
        · next alone =>
          obtain ⟨rfl, rfl⟩ := takes_ok_iff.mp read
          exact .code digits (eq_false_of_ne_true alone)
            (eq_false_of_ne_true single)
  · intro escape
    cases escape with
    | letter meaning => cases meaning
    | code digits leading trailing =>
        obtain ⟨shorter, read⟩ := takes_readHex4_iff.mpr digits
        simp [readUnicode, read, leading, trailing]
    | @pair _ next _ first second digits leading others trailing =>
        obtain ⟨shorter, read⟩ := takes_readHex4_iff.mpr digits
        have joined : Takes (readTrailing first ('\\' :: 'u' :: next)) _ rest :=
          takes_readTrailing_iff.mpr ⟨next, second, rfl, others, trailing, Eq.refl _⟩
        obtain ⟨_, more⟩ := joined
        have single : isTrailing first = false := by
          simp only [isLeading, isTrailing, Bool.and_eq_true, decide_eq_true_eq] at leading ⊢
          simp only [Bool.and_eq_false_iff, decide_eq_false_iff_not]
          omega
        simp [readUnicode, read, leading, single, more]

private theorem takes_readEscape_iff :
    Takes (readEscape source) c rest ↔ EscapeText source c rest := by
  constructor
  · intro read
    unfold readEscape at read
    split at read
    · exact (not_takes_error read).elim
    · next mark more =>
      split at read
      · next meaning =>
        obtain ⟨rfl, rfl⟩ := takes_ok_iff.mp read
        exact .letter meaning
      · split at read
        · next number =>
          subst number
          split at read
          · exact (not_takes_error read).elim
          · next taken found =>
            obtain ⟨rfl, rfl⟩ := takes_ok_iff.mp read
            exact takes_readUnicode_iff.mp (takes_of_eq_ok found)
        · exact (not_takes_error read).elim
  · intro escape
    have number {more : List Char} (escape : EscapeText ('u' :: more) c rest) :
        Takes (readEscape ('u' :: more)) c rest := by
      obtain ⟨shorter, read⟩ := takes_readUnicode_iff.mpr escape
      have no_letter : simpleEscape? 'u' = none := rfl
      simp [readEscape, no_letter, read]
    cases escape with
    | letter meaning => exact readEscape_letter meaning
    | code digits leading trailing => exact number (.code digits leading trailing)
    | pair digits leading others trailing => exact number (.pair digits leading others trailing)

/-- The reader takes what the grammar derives, and nothing else. -/
theorem takes_readQuoteBody_iff {cs : List Char} :
    Takes (readQuoteBody source) cs rest ↔ BodyText source cs rest := by
  constructor
  · intro read
    fun_induction readQuoteBody source generalizing cs rest with
    | case1 => exact (not_takes_error read).elim
    | case2 =>
        obtain ⟨rfl, rfl⟩ := takes_ok_iff.mp read
        exact .close
    | case5 more taken found _ body others _ ih =>
        obtain ⟨rfl, rfl⟩ := takes_ok_iff.mp read
        exact .escape (takes_readEscape_iff.mp (takes_of_eq_ok found)) (ih (takes_of_eq_ok others))
    | case8 c more unquoted unescaped printable body others ih =>
        obtain ⟨rfl, rfl⟩ := takes_ok_iff.mp read
        exact .bare unquoted unescaped (by omega) (ih (takes_of_eq_ok others))
    | case3 | case4 | case6 | case7 => exact (not_takes_error read).elim
  · intro body
    induction body with
    | close => exact readQuoteBody_close
    | bare unquoted unescaped printable _ ih =>
        exact readQuoteBody_bare unquoted unescaped printable ih
    | escape escaped _ ih => exact readQuoteBody_escape (takes_readEscape_iff.mpr escaped) ih

end Readers

end Json
end LinkFacts
