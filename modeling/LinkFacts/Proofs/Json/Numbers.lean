import Mathlib.Data.List.TakeWhile
import Mathlib.Tactic
import LinkFacts.Json.Numeral
import LinkFacts.Proofs.Json.Spelling
import LinkFacts.Proofs.Text.Digits

/-!
# Numerals of documents

The grammar of numerals is stated by their parts: digits without a needless zero in front, decimals
behind a point, and an exponent behind its mark.  What a numeral denotes is said of the parts.  The
reader, which goes through the characters once, takes a numeral as far as it goes and denotes the
same.
-/

namespace LinkFacts
namespace Json

open Text Decimal

/-! ## The grammar -/

/-- A run of digits. -/
def Digits (digits : List Char) : Prop := digits ≠ [] ∧ ∀ c ∈ digits, isDecimal c = true

/-- A point with decimals behind it, or nothing. -/
inductive DecimalsText : List Char → List Char → List Char → Prop where
  | absent {rest : List Char} : DecimalsText rest [] rest
  | point {decimals rest : List Char} (digits : Digits decimals) :
      DecimalsText ('.' :: (decimals ++ rest)) decimals rest

/-- The digits of an exponent, and whether it raises the number. -/
structure Exponent where
  /-- There is no minus. -/
  raises : Bool
  /-- The digits. -/
  digits : List Char

/-- A sign that is a minus, a plus, or left out. -/
inductive SignText : List Char → Bool → List Char → Prop where
  | absent {rest : List Char} : SignText rest true rest
  | plus {rest : List Char} : SignText ('+' :: rest) true rest
  | minus {rest : List Char} : SignText ('-' :: rest) false rest

/-- A mark with an exponent behind it, or nothing. -/
inductive ExponentText : List Char → Option Exponent → List Char → Prop where
  | absent {rest : List Char} : ExponentText rest none rest
  | mark {c : Char} {source digits rest : List Char} {raises : Bool} (mark : c = 'e' ∨ c = 'E')
      (sign : SignText source raises (digits ++ rest)) (run : Digits digits) :
      ExponentText (c :: source) (some ⟨raises, digits⟩) rest

/-- The parts of a numeral behind its sign. -/
structure Numeral where
  /-- The digits before the point. -/
  whole : List Char
  /-- The digits behind it. -/
  decimals : List Char
  /-- What is written behind the mark of an exponent. -/
  exponent : Option Exponent

/-- A numeral behind its sign. -/
inductive NumeralText : List Char → Numeral → List Char → Prop where
  | parts {whole decimals afterWhole afterDecimals rest : List Char} {exponent : Option Exponent}
      (digits : Digits whole) (plain : whole.head? = some '0' → whole = ['0'])
      (fraction : DecimalsText afterWhole decimals afterDecimals)
      (scale : ExponentText afterDecimals exponent rest) :
      NumeralText (whole ++ afterWhole) ⟨whole, decimals, exponent⟩ rest

/-- The double of a significand and two exponents, the second one as it is written. -/
def scaledBy (significand : Nat) (start : Int) : Option Exponent → Except Fault Magnitude
  | none => scaled? significand start
  | some ⟨raises, digits⟩ =>
    let written := foldDigits 10 0 digits
    if written < exponentBound then
      scaled? significand (if raises then start + written else start - written)
    else if raises && significand != 0 then .error .malformed
    else .ok .zero

namespace Numeral

/-- The numeral is an integer that fits. -/
def IsShort (numeral : Numeral) : Prop :=
  numeral.decimals = [] ∧ numeral.exponent = none ∧
    foldDigits 10 0 numeral.whole < significandBound

instance (numeral : Numeral) : Decidable numeral.IsShort :=
  decidable_of_iff (numeral.decimals = [] ∧ numeral.exponent.isNone = true ∧
    foldDigits 10 0 numeral.whole < significandBound) (by rw [Option.isNone_iff_eq_none]; rfl)

/-- The double of a numeral: the digits that fit are its significand, the other ones move the
exponent or are left out. -/
def magnitude (numeral : Numeral) : Except Fault Magnitude :=
  let whole := accumulate 0 0 numeral.whole
  let fine := accumulate whole.1 0 numeral.decimals
  scaledBy fine.1 (whole.2.2.length - fine.2.1) numeral.exponent

/-- What a numeral denotes behind its sign, unless it is out of range. -/
def number (minus : Bool) (numeral : Numeral) : Except Fault Number :=
  if numeral.IsShort then .ok (integer minus (foldDigits 10 0 numeral.whole))
  else numeral.magnitude.map fun value => .real ⟨minus, value⟩

end Numeral

/-! ## Digits -/

/-- No digit stands first. -/
def StopsDigits (rest : List Char) : Prop := ∀ c ∈ rest.head?, isDecimal c = false

section Runs

variable {digits rest source : List Char} {significand count : Nat}

/-- A run starts with a digit. -/
theorem Digits.exists_cons (run : Digits digits) : ∃ c others, digits = c :: others ∧
    isDecimal c = true ∧ ∀ d ∈ others, isDecimal d = true := by
  obtain ⟨nonempty, decimals⟩ := run
  cases digits with
  | nil => exact absurd rfl nonempty
  | cons c others =>
      exact ⟨c, others, rfl, decimals c List.mem_cons_self, fun d member =>
        decimals d (List.mem_cons_of_mem _ member)⟩

/-- A numeral starts with a digit. -/
theorem NumeralText.head_decimal {numeral : Numeral} (text : NumeralText source numeral rest) :
    ∃ c, source.head? = some c ∧ isDecimal c = true := by
  cases text with
  | parts run =>
      obtain ⟨c, others, rfl, first, -⟩ := run.exists_cons
      exact ⟨c, rfl, first⟩

/-- Every text starts with as many digits as it does. -/
theorem exists_run (source : List Char) : ∃ digits rest, source = digits ++ rest ∧
    (∀ c ∈ digits, isDecimal c = true) ∧ StopsDigits rest := by
  refine ⟨source.takeWhile isDecimal, source.dropWhile isDecimal,
    List.takeWhile_append_dropWhile.symm, fun c member => List.mem_takeWhile_imp member, ?_⟩
  intro c first
  have stops := List.head?_dropWhile_not isDecimal source
  rw [Option.mem_def.mp first] at stops
  simpa using stops

private theorem accumulate_of_stops (stops : StopsDigits rest) :
    accumulate significand count rest = (significand, count, rest) := by
  cases rest with
  | nil => rfl
  | cons c rest =>
      have first : isDecimal c = false := stops c rfl
      rw [accumulate, first, Bool.false_and, if_neg Bool.false_ne_true]

/-- Digits that fit are added before what follows the digits is looked at. -/
theorem accumulate_append (run : ∀ c ∈ digits, isDecimal c = true) (stops : StopsDigits rest) :
    accumulate significand count (digits ++ rest) =
      ((accumulate significand count digits).1, (accumulate significand count digits).2.1,
        (accumulate significand count digits).2.2 ++ rest) := by
  induction digits generalizing significand count with
  | nil => exact accumulate_of_stops stops
  | cons c digits ih =>
      rw [List.cons_append, accumulate, accumulate]
      split
      · exact ih fun c member => run c (List.mem_cons_of_mem _ member)
      · rfl

/-- What does not fit is the end of the digits. -/
theorem accumulate_suffix : (accumulate significand count digits).2.2 <:+ digits := by
  induction digits generalizing significand count with
  | nil => exact List.suffix_refl []
  | cons c digits ih =>
      rw [accumulate]
      split
      · exact ih.trans (List.suffix_cons c digits)
      · exact List.suffix_refl _

/-- The number of digits that were added before is only counted on. -/
theorem accumulate_count (first second : Nat) :
    (accumulate significand first digits).1 = (accumulate significand second digits).1 ∧
      (accumulate significand first digits).2.2 = (accumulate significand second digits).2.2 := by
  induction digits generalizing significand first second with
  | nil => exact ⟨rfl, rfl⟩
  | cons c digits ih =>
      rw [accumulate, accumulate]
      split
      · exact ih _ _
      · exact ⟨rfl, rfl⟩

/-- Every digit is added or left. -/
theorem accumulate_lengths : (accumulate significand count digits).2.1 +
    (accumulate significand count digits).2.2.length = count + digits.length := by
  induction digits generalizing significand count with
  | nil => rfl
  | cons c digits ih =>
      rw [accumulate]
      split
      · rw [ih, List.length_cons]
        omega
      · rfl

private theorem digitValue?_lt {c : Char} (decimal : isDecimal c = true) :
    (digitValue? c).getD 0 < exponentBound := by
  obtain ⟨digit, less, -, valued⟩ := exists_of_isDecimal decimal
  rw [valued, Option.getD_some]
  exact Nat.lt_trans less (by decide)

private theorem foldDigits_cons (value : Nat) (c : Char) (digits : List Char) :
    foldDigits 10 value (c :: digits) =
      foldDigits 10 (value * 10 + (digitValue? c).getD 0) digits := rfl

private theorem le_foldDigits (value : Nat) (digits : List Char) :
    value ≤ foldDigits 10 value digits := by
  induction digits generalizing value with
  | nil => exact Nat.le_refl _
  | cons c digits ih =>
      rw [foldDigits_cons]
      exact Nat.le_trans (by omega) (ih _)

/-- All digits fit just if the number that they denote does. -/
theorem accumulate_fits_iff (run : ∀ c ∈ digits, isDecimal c = true)
    (fits : significand < significandBound) :
    (accumulate significand count digits).2.2 = [] ↔
      foldDigits 10 significand digits < significandBound := by
  induction digits generalizing significand count with
  | nil => exact ⟨fun _ => fits, fun _ => rfl⟩
  | cons c digits ih =>
      have decimal := run c List.mem_cons_self
      have others : ∀ c ∈ digits, isDecimal c = true := fun c member =>
        run c (List.mem_cons_of_mem _ member)
      rw [accumulate, decimal, Bool.true_and, foldDigits_cons]
      split
      · next more => exact ih others (by simpa using more)
      · next less =>
        have large := le_foldDigits (significand * 10 + (digitValue? c).getD 0) digits
        simp only [decide_eq_true_eq, not_lt] at less
        simp only [reduceCtorEq, false_iff, not_lt]
        omega

private theorem accumulate_value (all : (accumulate significand count digits).2.2 = []) :
    (accumulate significand count digits).1 = foldDigits 10 significand digits := by
  induction digits generalizing significand count with
  | nil => rfl
  | cons c digits ih =>
      rw [accumulate] at all ⊢
      rw [foldDigits_cons]
      split at all
      · next fits =>
        rw [if_pos fits]
        exact ih all
      · cases all

private theorem skipDigits_append (run : ∀ c ∈ digits, isDecimal c = true)
    (stops : StopsDigits rest) :
    skipDigits (digits ++ rest) = (digits.length, rest) := by
  have left : rest.takeWhile isDecimal = [] ∧ rest.dropWhile isDecimal = rest := by
    cases rest with
    | nil => exact ⟨rfl, rfl⟩
    | cons c rest =>
        have first : isDecimal c = false := stops c rfl
        simp [first]
  unfold skipDigits
  rw [List.takeWhile_append_of_pos run, List.dropWhile_append_of_pos run, left.1, left.2,
    List.append_nil]

end Runs

/-- What follows does not continue a numeral. -/
def EndsNumeral (rest : List Char) : Prop :=
  ∀ c ∈ rest.head?, isDecimal c = false ∧ c ≠ '.' ∧ c ≠ 'e' ∧ c ≠ 'E'

private theorem EndsNumeral.stopsDigits {rest : List Char} (ends : EndsNumeral rest) :
    StopsDigits rest :=
  fun c first => (ends c first).1

/-! ## Exponents -/

/-- A part of a numeral is read with a value and leaves the given rest of the text. -/
def Leaves {source : List Char} (answer : Except Fault (Magnitude × Remaining source))
    (value : Magnitude) (rest : List Char) : Prop :=
  ∃ short, answer = .ok (value, ⟨rest, short⟩)

section Exponents

variable {source digits after rest : List Char} {significand : Nat} {start : Int}
  {value : Magnitude}

@[simp]
theorem leaves_ok_iff {read : Magnitude × Remaining source} :
    Leaves (.ok read) value rest ↔ read.1 = value ∧ read.2.1 = rest := by
  constructor
  · rintro ⟨short, same⟩
    cases same
    exact ⟨rfl, rfl⟩
  · rintro ⟨rfl, rfl⟩
    exact ⟨read.2.2, rfl⟩

@[simp]
theorem not_leaves_error {fault : Fault} :
    ¬ Leaves (.error fault : Except Fault (Magnitude × Remaining source)) value rest := by
  rintro ⟨-, ⟨⟩⟩

private theorem leaves_of_eq_ok {answer : Except Fault (Magnitude × Remaining source)}
    {read : Magnitude × Remaining source} (same : answer = .ok read) :
    Leaves answer read.1 read.2.1 :=
  ⟨read.2.2, same⟩

/-- The sign of an exponent, and what stands behind it. -/
def signOf (source : List Char) : Bool × List Char :=
  match source with
  | '+' :: rest => (true, rest)
  | '-' :: rest => (false, rest)
  | _ => (true, source)

private theorem signText_signOf (source : List Char) :
    SignText source (signOf source).1 (signOf source).2 := by
  unfold signOf
  split
  · exact .plus
  · exact .minus
  · exact .absent

private theorem signOf_eq {raises : Bool} (run : Digits digits)
    (sign : SignText source raises (digits ++ rest)) :
    signOf source = (raises, digits ++ rest) := by
  cases sign with
  | plus => rfl
  | minus => rfl
  | absent =>
      obtain ⟨c, others, rfl, first, -⟩ := run.exists_cons
      unfold signOf
      split
      · next plus =>
        cases plus
        cases first
      · next minus =>
        cases minus
        cases first
      · rfl

/-- The digits of an exponent are read to their end, unless the exponent grows too large. -/
theorem readExponentDigits_append {exponent : Nat} (run : ∀ c ∈ digits, isDecimal c = true)
    (stops : StopsDigits rest) (small : exponent < exponentBound) :
    (foldDigits 10 exponent digits < exponentBound ∧ readExponentDigits exponent (digits ++ rest) =
        (some (foldDigits 10 exponent digits), rest)) ∨
      (exponentBound ≤ foldDigits 10 exponent digits ∧ ∃ left, (∀ c ∈ left, isDecimal c = true) ∧
        readExponentDigits exponent (digits ++ rest) = (none, left ++ rest)) := by
  induction digits generalizing exponent with
  | nil =>
      refine .inl ⟨small, ?_⟩
      cases rest with
      | nil => rfl
      | cons c rest =>
          have first : isDecimal c = false := stops c rfl
          rw [List.nil_append, readExponentDigits, first, if_neg Bool.false_ne_true]
          rfl
  | cons c digits ih =>
      have others : ∀ c ∈ digits, isDecimal c = true := fun c member =>
        run c (List.mem_cons_of_mem _ member)
      rw [List.cons_append, readExponentDigits, if_pos (run c List.mem_cons_self), foldDigits_cons]
      by_cases fits : exponent * 10 + (digitValue? c).getD 0 < exponentBound
      · simp only [fits, if_true]
        exact ih others fits
      · have large := le_foldDigits (exponent * 10 + (digitValue? c).getD 0) digits
        simp only [fits, if_false]
        exact .inr ⟨by omega, digits, others, rfl⟩

/-- Behind its mark an exponent is read as it is written. -/
theorem leaves_readExponent_iff (unsigned : (signOf source).2 = digits ++ after)
    (run : Digits digits) (stops : StopsDigits after) :
    Leaves (readExponent significand start source) value rest ↔
      scaledBy significand start (some ⟨(signOf source).1, digits⟩) = .ok value ∧ rest = after := by
  obtain ⟨c, digits, rfl, first, others⟩ := run.exists_cons
  have denoted : foldDigits 10 0 (c :: digits) = foldDigits 10 ((digitValue? c).getD 0) digits := by
    rw [foldDigits_cons, Nat.zero_mul, Nat.zero_add]
  have least := digitValue?_lt first
  unfold readExponent
  simp only
  split
  · next ended => cases unsigned.symm.trans ended
  · next same =>
    cases unsigned.symm.trans same
    rw [if_pos first]
    obtain ⟨fits, found⟩ | ⟨large, left, decimal, found⟩ :=
      @readExponentDigits_append digits after _ others stops least
    · split
      · next exponent left read =>
        cases read.symm.trans found
        rw [scaledBy, denoted, if_pos fits]
        split
        · next fault refused =>
          rw [show scaled? significand (if (signOf source).1 = true then _ else _) = _
            from refused]
          simp
        · next double scaled =>
          rw [show scaled? significand (if (signOf source).1 = true then _ else _) = _
            from scaled]
          simp [eq_comm]
      · next read => cases read.symm.trans found
    · split
      · next read => cases read.symm.trans found
      · next rest' read =>
        cases read.symm.trans found
        rw [scaledBy, denoted, if_neg (Nat.not_lt.mpr large)]
        change Leaves (if (signOf source).1 && significand != 0 then .error .malformed
          else .ok (.zero, ⟨(skipDigits (left ++ after)).2, _⟩)) value rest ↔ _
        split
        · simp
        · simp [skipDigits_append decimal stops, eq_comm]

/-- An exponent that is read has digits. -/
theorem exists_digits_of_readExponent
    (read : Leaves (readExponent significand start source) value rest) :
    ∃ digits after, (signOf source).2 = digits ++ after ∧ Digits digits ∧ StopsDigits after := by
  obtain ⟨digits, after, unsigned, run, stops⟩ := exists_run (signOf source).2
  refine ⟨digits, after, unsigned, ⟨fun empty => ?_, run⟩, stops⟩
  subst empty
  unfold readExponent at read
  simp only at read
  split at read
  · exact not_leaves_error read
  · next c more same =>
    cases unsigned.symm.trans same
    have first : isDecimal c = false := stops c rfl
    rw [first, if_neg Bool.false_ne_true] at read
    exact not_leaves_error read

/-- An exponent is read wherever its mark stands. -/
theorem exponentText_of_readScaled
    (read : Leaves (readScaled significand start source) value rest) :
    ∃ exponent, ExponentText source exponent rest ∧
      scaledBy significand start exponent = .ok value ∧
      (exponent = none → ∀ c ∈ source.head?, c ≠ 'e' ∧ c ≠ 'E') := by
  unfold readScaled at read
  split at read
  · next c more =>
    split at read
    · next mark =>
      split at read
      · exact (not_leaves_error read).elim
      · next double left found =>
        obtain ⟨rfl, rfl⟩ := leaves_ok_iff.mp read
        have exponent := leaves_of_eq_ok found
        obtain ⟨digits, after, unsigned, run, stops⟩ := exists_digits_of_readExponent exponent
        obtain ⟨denoted, same⟩ := (leaves_readExponent_iff unsigned run stops).mp exponent
        have sign := signText_signOf more
        rw [unsigned, ← same] at sign
        have marks : c = 'e' ∨ c = 'E' := by simpa using mark
        exact ⟨_, .mark marks sign run, denoted, fun none => nomatch none⟩
    · next unmarked =>
      split at read
      · exact (not_leaves_error read).elim
      · next double scaled =>
        obtain ⟨rfl, rfl⟩ := leaves_ok_iff.mp read
        refine ⟨none, .absent, scaled, fun _ c first => ?_⟩
        cases first
        simpa using unmarked
  · split at read
    · exact (not_leaves_error read).elim
    · next double scaled =>
      obtain ⟨rfl, rfl⟩ := leaves_ok_iff.mp read
      exact ⟨none, .absent, scaled, fun _ c first => nomatch first⟩

private theorem readScaled_of_exponentText {exponent : Option Exponent}
    (scale : ExponentText source exponent rest) (ends : EndsNumeral rest)
    (denoted : scaledBy significand start exponent = .ok value) :
    Leaves (readScaled significand start source) value rest := by
  cases scale with
  | absent =>
      have scaled : scaled? significand start = .ok value := denoted
      cases source with
      | nil => simp [readScaled, scaled]
      | cons c more =>
          obtain ⟨-, -, lower, upper⟩ := ends c rfl
          simp [readScaled, lower, upper, scaled]
  | @mark c source digits _ raises mark sign run =>
      have split_ := signOf_eq run sign
      have unsigned : (signOf source).2 = digits ++ rest := by rw [split_]
      have raised : (signOf source).1 = raises := by rw [split_]
      rw [← raised] at denoted
      obtain ⟨short, read⟩ :=
        (leaves_readExponent_iff unsigned run ends.stopsDigits).mpr ⟨denoted, rfl⟩
      have marks : (c == 'e' || c == 'E') = true := by simpa using mark
      simp [readScaled, marks, read]

end Exponents

/-! ## Decimals -/

section Decimals

variable {source digits after rest : List Char} {significand : Nat} {start : Int}
  {value : Magnitude}

private theorem leaves_readDecimals_iff (run : ∀ c ∈ digits, isDecimal c = true)
    (stops : StopsDigits after) :
    Leaves (readDecimals significand start (digits ++ after)) value rest ↔
      digits ≠ [] ∧ Leaves (readScaled (accumulate significand 0 digits).1
        (start - (accumulate significand 0 digits).2.1) after) value rest := by
  have whole := @accumulate_append digits after significand 0 run stops
  have lengths := @accumulate_lengths digits significand 0
  have ending := @accumulate_suffix digits significand 0
  generalize accumulate significand 0 digits = parts at whole lengths ending ⊢
  obtain ⟨fine, count, others⟩ := parts
  have decimal : ∀ c ∈ others, isDecimal c = true := fun c member =>
    run c (ending.mem member)
  have empty_iff : digits = [] ↔ count + others.length = 0 := by
    rw [← List.length_eq_zero_iff]
    simp only at lengths
    omega
  unfold readDecimals
  split
  next fine' count' left read =>
  obtain ⟨rfl, rfl, rfl⟩ : fine = fine' ∧ count = count' ∧ others ++ after = left := by
    simpa using whole.symm.trans read
  cases others with
  | cons c others =>
      have nonempty : digits ≠ [] := by simp [empty_iff]
      have first : isDecimal c = true := decimal c List.mem_cons_self
      have skipped : Leaves (readScaled fine (start - count)
          (skipDigits (c :: (others ++ after))).2) value rest ↔
          Leaves (readScaled fine (start - count) after) value rest := by
        rw [← List.cons_append, skipDigits_append decimal stops]
      simp only [List.cons_append, first, if_true, nonempty, ne_eq, not_false_eq_true, true_and]
      rw [← skipped]
      cases readScaled fine (start - count) (skipDigits (c :: (others ++ after))).2 with
      | error fault => simp
      | ok read => simp
  | nil =>
      have counted : count = 0 ↔ digits = [] := by simp [empty_iff]
      cases after with
      | nil =>
          change Leaves (if count = 0 then _ else _) value rest ↔ _
          simp only [counted]
          split
          · next empty => simp [empty]
          · next nonempty =>
            simp only [nonempty, ne_eq, not_false_eq_true, true_and]
            cases readScaled fine (start - count) [] with
            | error fault => simp
            | ok read => simp
      | cons c after =>
          have first : isDecimal c = false := stops c rfl
          simp only [List.nil_append, counted, first, Bool.false_eq_true, if_false]
          split
          · next empty => simp [empty]
          · next nonempty =>
            simp only [nonempty, ne_eq, not_false_eq_true, true_and]
            cases readScaled fine (start - count) (c :: after) with
            | error fault => simp
            | ok read => simp

/-- Decimals are read wherever a point stands, and an exponent wherever its mark stands. -/
theorem parts_of_readFraction
    (read : Leaves (readFraction significand start source) value rest) :
    ∃ decimals next exponent, DecimalsText source decimals next ∧
      ExponentText next exponent rest ∧
      scaledBy (accumulate significand 0 decimals).1
        (start - (accumulate significand 0 decimals).2.1) exponent = .ok value ∧
      (decimals = [] → exponent = none → startsFraction source = false) := by
  unfold readFraction at read
  split at read
  · next more =>
    obtain ⟨digits, after, rfl, run, stops⟩ := exists_run more
    split at read
    · exact (not_leaves_error read).elim
    · next double left found =>
      obtain ⟨rfl, rfl⟩ := leaves_ok_iff.mp read
      obtain ⟨nonempty, scaled⟩ := (leaves_readDecimals_iff run stops).mp (leaves_of_eq_ok found)
      obtain ⟨exponent, scale, denoted, -⟩ := exponentText_of_readScaled scaled
      exact ⟨digits, after, exponent, .point ⟨nonempty, run⟩, scale, denoted,
        fun empty => absurd empty nonempty⟩
  · next pointless =>
    obtain ⟨exponent, scale, denoted, unmarked⟩ := exponentText_of_readScaled read
    refine ⟨[], source, exponent, .absent, scale, by simpa [accumulate] using denoted, ?_⟩
    intro _ none
    cases source with
    | nil => rfl
    | cons c more =>
        have point : c ≠ '.' := fun same => pointless more (by rw [same])
        obtain ⟨lower, upper⟩ := unmarked none c rfl
        simp [startsFraction, point, lower, upper]

/-- No digit stands before an exponent, nor where a numeral ends. -/
theorem ExponentText.stopsDigits {exponent : Option Exponent}
    (scale : ExponentText source exponent rest) (ends : EndsNumeral rest) :
    StopsDigits source := by
  cases scale with
  | absent => exact ends.stopsDigits
  | mark mark =>
      intro c first
      cases first
      obtain rfl | rfl := mark <;> rfl

private theorem readFraction_of_parts {decimals next : List Char} {exponent : Option Exponent}
    (fraction : DecimalsText source decimals next) (scale : ExponentText next exponent rest)
    (ends : EndsNumeral rest)
    (denoted : scaledBy (accumulate significand 0 decimals).1
      (start - (accumulate significand 0 decimals).2.1) exponent = .ok value) :
    Leaves (readFraction significand start source) value rest := by
  cases fraction with
  | point digits =>
      have scaled := readScaled_of_exponentText scale ends denoted
      obtain ⟨short, read⟩ :=
        (leaves_readDecimals_iff digits.2 (scale.stopsDigits ends)).mpr ⟨digits.1, scaled⟩
      simp [readFraction, read]
  | absent =>
      have scaled := readScaled_of_exponentText scale ends denoted
      have pointless : ∀ more, source ≠ '.' :: more := by
        rintro more rfl
        cases scale with
        | absent => exact (ends '.' rfl).2.1 rfl
        | mark mark => simp at mark
      unfold readFraction
      split
      · next more => exact absurd rfl (pointless more)
      · simpa [accumulate] using scaled

end Decimals

/-! ## Numerals -/

section Numerals

variable {source digits after rest : List Char} {minus : Bool} {number : Number}
  {numeral : Numeral}

/-- The digits before the point, as far as they fit, and those that do not fit. -/
theorem readInteger_append {c : Char} (run : Digits (c :: digits))
    (plain : (c :: digits).head? = some '0' → c :: digits = ['0']) (stops : StopsDigits after) :
    readInteger c (digits ++ after) = ((accumulate 0 0 (c :: digits)).1,
      (accumulate 0 0 (c :: digits)).2.2 ++ after) := by
  unfold readInteger
  split
  · next zero =>
    have alone : digits = [] := by
      have same := plain (congrArg some (eq_of_beq zero))
      exact (List.cons.inj same).2
    cases eq_of_beq zero
    subst alone
    rfl
  · next nonzero =>
    have others : ∀ c ∈ digits, isDecimal c = true := fun c member =>
      run.2 c (List.mem_cons_of_mem _ member)
    have first := run.2 c List.mem_cons_self
    obtain ⟨digit, less, -, valued⟩ := exists_of_isDecimal first
    have fits : digit < significandBound := Nat.lt_trans less (by decide)
    have whole : accumulate 0 0 (c :: digits) = accumulate digit 1 digits := by
      simp [accumulate, first, valued, fits]
    have counts := @accumulate_count digits digit 0 1
    rw [valued, Option.getD_some, accumulate_append others stops, whole, counts.1, counts.2]

/-- A numeral is read by its digits first: an integer that fits, or a fraction. -/
theorem takes_readNumeral_iff (run : Digits digits)
    (plain : digits.head? = some '0' → digits = ['0']) (stops : StopsDigits after) :
    Takes (readNumeral minus (digits ++ after)) number rest ↔
      if (accumulate 0 0 digits).2.2 = [] ∧ startsFraction after = false then
        integer minus (accumulate 0 0 digits).1 = number ∧ after = rest
      else ∃ value, Leaves (readFraction (accumulate 0 0 digits).1
        (accumulate 0 0 digits).2.2.length after) value rest ∧ .real ⟨minus, value⟩ = number := by
  obtain ⟨c, digits, rfl, first, -⟩ := run.exists_cons
  have whole := readInteger_append run plain stops
  have decimal : ∀ d ∈ (accumulate 0 0 (c :: digits)).2.2, isDecimal d = true :=
    fun d member => run.2 d (accumulate_suffix.mem member)
  generalize accumulate 0 0 (c :: digits) = parts at whole decimal ⊢
  obtain ⟨fine, count, others⟩ := parts
  have skipped := skipDigits_append decimal stops
  unfold readNumeral
  simp only [List.cons_append, first, Bool.not_true, Bool.false_eq_true, if_false]
  rw [if_neg]
  rotate_left
  · -- no digit follows a zero
    rw [Bool.and_eq_true, beq_iff_eq]
    rintro ⟨rfl, follows⟩
    have alone : digits = [] := (List.cons.inj (plain rfl)).2
    subst alone
    cases after with
    | nil => cases follows
    | cons d after => exact Bool.false_ne_true ((stops d rfl).symm.trans follows)
  have fraction (value : Magnitude) : Leaves (readFraction (readInteger c (digits ++ after)).1
      (skipDigits (readInteger c (digits ++ after)).2).1
      (skipDigits (readInteger c (digits ++ after)).2).2) value rest ↔
      Leaves (readFraction fine others.length after) value rest := by
    rw [whole, skipped]
  have short : (decide ((skipDigits (readInteger c (digits ++ after)).2).1 = 0) &&
      !startsFraction (readInteger c (digits ++ after)).2) = true ↔
      others = [] ∧ startsFraction after = false := by
    rw [whole, skipped]
    cases others with
    | nil => simp
    | cons d others => simp
  split
  · next integral =>
    rw [if_pos (short.mp integral), takes_ok_iff]
    simp [whole, (short.mp integral).1]
  · next fractional =>
    rw [if_neg (fun both => fractional (short.mpr both))]
    simp only [← fraction]
    cases readFraction (readInteger c (digits ++ after)).1
        (skipDigits (readInteger c (digits ++ after)).2).1
        (skipDigits (readInteger c (digits ++ after)).2).2 with
    | error fault => simp
    | ok read => simp [and_comm]

private theorem isShort_iff {exponent : Option Exponent} {decimals : List Char}
    (run : ∀ c ∈ digits, isDecimal c = true) :
    Numeral.IsShort ⟨digits, decimals, exponent⟩ ↔
      decimals = [] ∧ exponent = none ∧ (accumulate 0 0 digits).2.2 = [] := by
  have fits := @accumulate_fits_iff digits 0 0 run (by decide)
  exact and_congr_right fun _ => and_congr_right fun _ => fits.symm

/-- What is read is a numeral, and what it denotes. -/
theorem numeralText_of_readNumeral (read : Takes (readNumeral minus source) number rest) :
    ∃ numeral, NumeralText source numeral rest ∧ numeral.number minus = .ok number := by
  obtain ⟨digits, after, rfl, decimals, stops⟩ := exists_run source
  have run : Digits digits := by
    refine ⟨?_, decimals⟩
    rintro rfl
    cases after with
    | nil => exact not_takes_error read
    | cons c after =>
        have first : isDecimal c = false := stops c rfl
        simp [readNumeral, first] at read
  have plain : digits.head? = some '0' → digits = ['0'] := by
    intro zero
    cases digits with
    | nil => cases zero
    | cons c digits =>
        cases zero
        cases digits with
        | nil => rfl
        | cons d digits =>
            have second : isDecimal d = true := decimals d (by simp)
            simp [readNumeral, second] at read
  have parts := (takes_readNumeral_iff run plain stops).mp read
  split at parts
  · next short =>
    obtain ⟨same, rfl⟩ := parts
    refine ⟨⟨digits, [], none⟩, .parts run plain .absent .absent, ?_⟩
    rw [Numeral.number, if_pos ((isShort_iff decimals).mpr ⟨rfl, rfl, short.1⟩),
      ← accumulate_value short.1, same]
  · next long =>
    obtain ⟨value, fraction, same⟩ := parts
    obtain ⟨decimal, next, exponent, point, scale, denoted, started⟩ :=
      parts_of_readFraction fraction
    refine ⟨⟨digits, decimal, exponent⟩, .parts run plain point scale, ?_⟩
    have notShort : ¬ Numeral.IsShort ⟨digits, decimal, exponent⟩ := by
      intro short
      obtain ⟨empty, none, fits⟩ := (isShort_iff decimals).mp short
      exact long ⟨fits, started empty none⟩
    have magnitude : Numeral.magnitude ⟨digits, decimal, exponent⟩ = .ok value := denoted
    rw [Numeral.number, if_neg notShort, magnitude, ← same]
    rfl

/-- A fraction starts just if there are decimals or an exponent. -/
theorem startsFraction_iff {decimals next : List Char} {exponent : Option Exponent}
    (point : DecimalsText source decimals next) (scale : ExponentText next exponent rest)
    (ends : EndsNumeral rest) :
    startsFraction source = false ↔ decimals = [] ∧ exponent = none := by
  cases point with
  | point digits => simp [startsFraction, digits.1]
  | absent =>
      cases scale with
      | mark mark =>
          obtain rfl | rfl := mark
          · simp [startsFraction]
          · simp [startsFraction]
      | absent =>
          cases source with
          | nil => simp [startsFraction]
          | cons c more =>
              obtain ⟨-, point, lower, upper⟩ := ends c rfl
              simp [startsFraction, point, lower, upper]

/-- A numeral is read to its end, as what it denotes. -/
theorem readNumeral_of_numeralText (text : NumeralText source numeral rest)
    (ends : EndsNumeral rest) (denoted : numeral.number minus = .ok number) :
    Takes (readNumeral minus source) number rest := by
  cases text with
  | @parts digits decimals after next _ exponent run plain point scale =>
      have stops : StopsDigits after := by
        cases point with
        | absent => exact scale.stopsDigits ends
        | point digits =>
            intro c first
            cases first
            rfl
      have started := startsFraction_iff point scale ends
      have shortness := @isShort_iff digits exponent decimals run.2
      rw [takes_readNumeral_iff run plain stops]
      rw [Numeral.number] at denoted
      split at denoted
      · next short =>
        obtain ⟨rfl, rfl, fits⟩ := shortness.mp short
        rw [if_pos ⟨fits, started.mpr ⟨rfl, rfl⟩⟩, accumulate_value fits]
        cases point with
        | point digits => exact absurd rfl digits.1
        | absent =>
            cases scale
            exact ⟨Except.ok.inj denoted, rfl⟩
      · next long =>
        have unfit : ¬ ((accumulate 0 0 digits).2.2 = [] ∧ startsFraction after = false) := by
          rintro ⟨fits, unstarted⟩
          obtain ⟨empty, none⟩ := started.mp unstarted
          exact long (shortness.mpr ⟨empty, none, fits⟩)
        rw [if_neg unfit]
        cases computed : Numeral.magnitude ⟨digits, decimals, exponent⟩ with
        | error fault =>
            rw [computed] at denoted
            cases denoted
        | ok value =>
            rw [computed] at denoted
            exact ⟨value, readFraction_of_parts point scale ends computed,
              Except.ok.inj denoted⟩

end Numerals

end Json
end LinkFacts
