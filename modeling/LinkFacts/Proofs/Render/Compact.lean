import LinkFacts.Proofs.Decimal.Rounding
import LinkFacts.Proofs.Text.Blank
import LinkFacts.Proofs.Text.Digits
import LinkFacts.Render.Compact

/-!
# Compact counts

What is shown of a count of a thousand and more.  Below 2 ^ 34 every count is shown in thousands,
rounded to tenths with a half going up.  From there on the doubles are too coarse for the small
number that is added before the division: a count half way between two tenths may go down, and from
2 ^ 53 on the count itself is rounded before it is divided.
-/

namespace LinkFacts
namespace Render

open Decimal

/-- A text denotes a count: it is the decimal numeral of the count, perhaps with a plus and zeros in
front of it, between blank characters. -/
def Denotes (text : String) (count : Nat) : Prop :=
  ∃ lead sign zeros tail, (∀ c ∈ lead, Text.isBlank c = true) ∧
    (∀ c ∈ tail, Text.isBlank c = true) ∧ (sign = [] ∨ sign = ['+']) ∧
    text.toList = lead ++ (sign ++ (List.replicate zeros '0' ++ Nat.toDigits 10 count)) ++ tail

/-- The tenths of a thousand nearest to a count; a half goes up. -/
def tenthsOf (count : Nat) : Nat := (count + 50) / 100

/-- The text of some tenths of a thousand; the decimal is left out if it is zero. -/
def inThousands (tenths : Nat) : String :=
  if tenths % 10 = 0 then String.ofList (Nat.toDigits 10 (tenths / 10) ++ ['k'])
  else
    String.ofList
      (Nat.toDigits 10 (tenths / 10) ++ '.' :: Nat.toDigits 10 (tenths % 10) ++ ['k'])

/-! ## Which texts denote counts -/

private theorem isBlank_of_isDecimal {c : Char} (decimal : Text.isDecimal c = true) :
    Text.isBlank c = false := by
  obtain ⟨digit, less, rfl, -⟩ := Text.exists_of_isDecimal decimal
  interval_cases digit <;> rfl

section Reading

variable {text : String} {count zeros : Nat} {sign : List Char}

private theorem isDecimal_of_mem_numeral :
    ∀ c ∈ List.replicate zeros '0' ++ Nat.toDigits 10 count, Text.isDecimal c = true := by
  intro c member
  obtain zero | digit := List.mem_append.mp member
  · rw [List.eq_of_mem_replicate zero]
    rfl
  · exact Text.isDecimal_of_mem_toDigits count c digit

private theorem numeral_ne_nil : List.replicate zeros '0' ++ Nat.toDigits 10 count ≠ [] := by
  have long : 0 < (Nat.toDigits 10 count).length := Nat.length_toDigits_pos
  intro empty
  rw [(List.append_eq_nil_iff.mp empty).2] at long
  cases long

/-- No blank character stands at the ends of a numeral. -/
theorem strip_numeral {lead tail : List Char} (blank : ∀ c ∈ lead, Text.isBlank c = true)
    (blanks : ∀ c ∈ tail, Text.isBlank c = true) (signed : sign = [] ∨ sign = ['+']) :
    Text.strip Text.isBlank
        (lead ++ (sign ++ (List.replicate zeros '0' ++ Nat.toDigits 10 count)) ++ tail) =
      sign ++ (List.replicate zeros '0' ++ Nat.toDigits 10 count) := by
  have inside : ∀ c ∈ sign ++ (List.replicate zeros '0' ++ Nat.toDigits 10 count),
      Text.isBlank c = false := by
    intro c member
    obtain mark | digit := List.mem_append.mp member
    · obtain rfl | rfl := signed
      · cases mark
      · rw [List.mem_singleton.mp mark]
        rfl
    · exact isBlank_of_isDecimal (isDecimal_of_mem_numeral c digit)
  refine Text.strip_of_ends (fun empty => ?_) blank blanks (fun c first => ?_) fun c last => ?_
  · exact numeral_ne_nil (List.append_eq_nil_iff.mp empty).2
  · exact inside c (List.mem_of_mem_head? first)
  · exact inside c (List.mem_of_getLast? last)

/-- A text denotes a count just if a numeral, perhaps with a plus, is left of it when it is
stripped. -/
theorem denotes_iff : Denotes text count ↔ ∃ sign zeros, (sign = [] ∨ sign = ['+']) ∧
    Text.strip Text.isBlank text.toList =
      sign ++ (List.replicate zeros '0' ++ Nat.toDigits 10 count) := by
  constructor
  · rintro ⟨lead, sign, zeros, tail, blank, blanks, signed, whole⟩
    exact ⟨sign, zeros, signed, by rw [whole, strip_numeral blank blanks signed]⟩
  · rintro ⟨sign, zeros, signed, numeral⟩
    obtain ⟨lead, tail, blank, blanks, whole⟩ := Text.strip_spec Text.isBlank text.toList
    rw [numeral] at whole
    exact ⟨lead, sign, zeros, tail, blank, blanks, signed, whole⟩

/-- No plus starts a numeral. -/
theorem plus_ne_numeral (rest : List Char) :
    '+' :: rest ≠ List.replicate zeros '0' ++ Nat.toDigits 10 count := by
  intro plus
  have digit := isDecimal_of_mem_numeral '+' (plus ▸ List.mem_cons_self)
  cases digit

/-- A numeral without its plus. -/
def unsigned (cs : List Char) : List Char := if cs.head? = some '+' then cs.tail else cs

private theorem readCount?_eq : readCount? text =
    (Text.readDigits? 10 (unsigned (Text.strip Text.isBlank text.toList))).filter
      (· < countBound) := by
  unfold readCount? unsigned
  generalize Text.strip Text.isBlank text.toList = cs
  cases cs with
  | nil => rfl
  | cons c rest =>
      by_cases plus : c = '+'
      · subst plus
        simp only [List.head?_cons, List.tail_cons, if_true]
        cases Text.readDigits? 10 rest with
        | none => rfl
        | some value => simp [Option.filter]
      · simp only [List.head?_cons, Option.some.injEq, plus, if_false]
        split
        · next value read =>
          split at read
          · next same =>
            cases same
            exact absurd rfl plus
          · simp [read, Option.filter]
        · next read =>
          split at read
          · next same =>
            cases same
            exact absurd rfl plus
          · simp [read]

private theorem readDigits?_unsigned_iff {cs : List Char} :
    Text.readDigits? 10 (unsigned cs) = some count ↔ ∃ sign zeros, (sign = [] ∨ sign = ['+']) ∧
      cs = sign ++ (List.replicate zeros '0' ++ Nat.toDigits 10 count) := by
  rw [Text.readDigits?_eq_some_iff, unsigned]
  split
  · next plus =>
    obtain ⟨rest, rfl⟩ : ∃ rest, cs = '+' :: rest := by
      cases cs with
      | nil => cases plus
      | cons c rest =>
          cases plus
          exact ⟨rest, rfl⟩
    constructor
    · rintro ⟨zeros, numeral⟩
      exact ⟨['+'], zeros, .inr rfl, congrArg _ numeral⟩
    · rintro ⟨sign, zeros, rfl | rfl, numeral⟩
      · exact absurd numeral (plus_ne_numeral rest)
      · exact ⟨zeros, (List.cons.inj numeral).2⟩
  · next plain =>
    constructor
    · rintro ⟨zeros, numeral⟩
      exact ⟨[], zeros, .inl rfl, numeral⟩
    · rintro ⟨sign, zeros, rfl | rfl, numeral⟩
      · exact ⟨zeros, numeral⟩
      · exact absurd (by rw [numeral]; rfl) plain

private theorem readCount?_eq_some_iff :
    readCount? text = some count ↔ Denotes text count ∧ count < countBound := by
  rw [readCount?_eq, Option.filter_eq_some_iff, readDigits?_unsigned_iff, denotes_iff,
    decide_eq_true_eq]

end Reading

/-! ## The text of a rounded count -/

section Layout

variable {count tenths : Nat}

private theorem positional_whole (digits : Nat) : positional ⟨digits, -((0 : Nat) : Int)⟩ =
    Nat.toDigits 10 digits := by
  cases digits with
  | zero => rfl
  | succ digits => simp [positional]

/-- With one place the last digit stands behind the point. -/
theorem positional_tenths (large : 10 ≤ tenths) : positional ⟨tenths, -((1 : Nat) : Int)⟩ =
    Nat.toDigits 10 (tenths / 10) ++ '.' :: Nat.toDigits 10 (tenths % 10) := by
  have last : Nat.toDigits 10 (tenths % 10) = [Nat.digitChar (tenths % 10)] :=
    Nat.toDigits_of_lt_base (Nat.mod_lt _ (by omega))
  have long : 0 < (Nat.toDigits 10 (tenths / 10)).length := Nat.length_toDigits_pos
  unfold positional
  rw [Nat.toDigits_of_base_le (by omega) large, last]
  have missing : 1 + 1 - ((Nat.toDigits 10 (tenths / 10)).length + 1) = 0 := by omega
  simp [missing]

private theorem decimals_eq_zero_iff (large : 1000 ≤ count) :
    decimals count = 0 ↔ tenthsOf count % 10 = 0 := by
  unfold decimals tenthsOf
  split <;> omega

private theorem writeCount_of_fine (large : 1000 ≤ count) (fine : decimals count = 1)
    (written : withPlaces 1 (thousands count) = positional ⟨tenths, -((1 : Nat) : Int)⟩)
    (shown : tenths % 10 ≠ 0) (least : 10 ≤ tenths) :
    String.ofList (writeCount count) = inThousands tenths := by
  unfold writeCount inThousands
  rw [if_neg (by omega), if_neg shown, fine, written, positional_tenths least]

private theorem writeCount_of_coarse (large : 1000 ≤ count) (coarse : decimals count = 0)
    (written : withPlaces 0 (thousands count) = positional ⟨tenths / 10, -((0 : Nat) : Int)⟩)
    (whole : tenths % 10 = 0) : String.ofList (writeCount count) = inThousands tenths := by
  unfold writeCount inThousands
  rw [if_neg (by omega), if_pos whole, coarse, written, positional_whole]

end Layout

/-! ## The double of a count -/

section Doubles

variable {count : Nat} {near sum quotient : ℚ}

/-- The number that is added to a count before it is divided. -/
def nudge : ℚ := 4722366482869645 * 2 ^ (-72 : ℤ)

private theorem nudge_bounds : 1 / 2 ^ 20 < nudge ∧ nudge < 1 / 2 ^ 19 ∧ nudge < 1 / 10 ^ 6 := by
  unfold nudge
  norm_num

/-- The values that a count goes through on its way to thousands. -/
structure Approximates (count : Nat) (near sum quotient : ℚ) : Prop where
  counts : Rounds count near
  adds : Rounds (near + nudge) sum
  divides : Rounds (sum / 1000) quotient
  is : (thousands count).Is quotient

/-- A count below the bound of mantissas is a double. -/
theorem near_eq (rounds : Rounds count near) (large : 1000 ≤ count) (small : count < 2 ^ 53) :
    near = count := by
  obtain ⟨point, on⟩ := Magnitude.natural_on_grid (by omega) small
  exact rounds.eq_of_grid on

private theorem near_bounds (rounds : Rounds count near) (large : 1000 ≤ count)
    (bounded : count < countBound) :
    1000 ≤ near ∧ near < 2 ^ 65 ∧ |near - count| ≤ count / 2 ^ 53 := by
  have low : (1000 : ℚ) ≤ count := by exact_mod_cast large
  have high : (count : ℚ) < 2 ^ 64 := by exact_mod_cast (show count < 2 ^ 64 from bounded)
  have close := rounds.relative (by linarith)
  obtain ⟨below, above⟩ := abs_le.mp close
  refine ⟨?_, by linarith, close⟩
  rcases Nat.lt_or_ge count (2 ^ 53) with small | huge
  · rw [near_eq rounds large small]
    exact low
  · have huge' : (2 ^ 53 : ℚ) ≤ count := by exact_mod_cast huge
    linarith

private theorem exists_approximates (large : 1000 ≤ count) (bounded : count < countBound) :
    ∃ near sum quotient, Approximates count near sum quotient := by
  obtain ⟨least, most, -⟩ := nudge_bounds
  obtain ⟨near, counts, nearIs⟩ := Magnitude.rounds_ofNat (by omega : 1 ≤ count)
    (lt_of_lt_of_le (show count < 2 ^ 64 from bounded)
      (Nat.pow_le_pow_right Nat.two_pos (by omega)))
  obtain ⟨nearLow, nearHigh, -⟩ := near_bounds counts large bounded
  have nudged : (Magnitude.ofDecimal 1 (-6)).Is nudge := ⟨4722366482869645, -72, by decide, by
    unfold nudge
    norm_num⟩
  obtain ⟨sum, adds, sumIs⟩ := Magnitude.rounds_add nearIs nudged (by linarith) (by linarith)
  obtain ⟨below, above⟩ := abs_le.mp (adds.relative (by linarith))
  have thousand : (Magnitude.ofNat 1000).Is 1000 := Magnitude.is_ofNat (by omega) (by omega)
  obtain ⟨quotient, divides, is⟩ := Magnitude.rounds_div sumIs thousand (by norm_num)
    (by rw [le_div_iff₀ (by norm_num)]; linarith) (by rw [div_lt_iff₀ (by norm_num)]; linarith)
  exact ⟨near, sum, quotient, counts, adds, divides, is⟩

/-- The next natural is still below the next power of two, or it is this power. -/
theorem succ_le_gridStep (large : 1000 ≤ count) : (count : ℚ) + 1 ≤ gridStep count * 2 ^ 53 := by
  have positive : (1 : ℚ) ≤ count := by exact_mod_cast (by omega : 1 ≤ count)
  have nonneg : 0 ≤ Int.log 2 (count : ℚ) :=
    (Int.zpow_le_iff_le_log Nat.one_lt_two (by linarith)).mp (by simpa using positive)
  obtain ⟨power, same⟩ := Int.eq_ofNat_of_zero_le nonneg
  have exponent : Int.log 2 (count : ℚ) - 52 + (53 : ℕ) = ((power + 1 : ℕ) : ℤ) := by
    push_cast
    omega
  have bound := lt_gridStep (count : ℚ)
  rw [gridStep_mul, exponent, zpow_natCast] at bound ⊢
  exact_mod_cast bound

/-- The step of the grid is the same after so small a number was added to a natural. -/
theorem gridStep_nudge (large : 1000 ≤ count) : gridStep (count + nudge) = gridStep count := by
  have low : (1000 : ℚ) ≤ count := by exact_mod_cast large
  obtain ⟨least, -, most⟩ := nudge_bounds
  have positive : (0 : ℚ) < count + nudge := by linarith
  have below : ((2 : ℕ) : ℚ) ^ Int.log 2 (count : ℚ) ≤ count :=
    Int.zpow_log_le_self Nat.one_lt_two (by linarith)
  have above := succ_le_gridStep large
  rw [gridStep_mul] at above
  have atLeast : Int.log 2 (count : ℚ) ≤ Int.log 2 ((count : ℚ) + nudge) :=
    (Int.zpow_le_iff_le_log Nat.one_lt_two positive).mp (by linarith)
  have atMost : Int.log 2 ((count : ℚ) + nudge) < Int.log 2 (count : ℚ) - 52 + (53 : ℕ) :=
    (Int.lt_zpow_iff_log_lt Nat.one_lt_two positive).mp (by
      rw [Nat.cast_ofNat]
      linarith)
  have logs : Int.log 2 ((count : ℚ) + nudge) = Int.log 2 (count : ℚ) := by omega
  rw [gridStep, gridStep, logs]

private theorem gridStep_le_of_lt {power : ℤ} (large : 1000 ≤ count)
    (small : (count : ℚ) < 2 ^ power) :
    gridStep count ≤ 2 ^ (power - 53) := by
  have positive : (0 : ℚ) < count := by exact_mod_cast (by omega : 0 < count)
  have less : Int.log 2 (count : ℚ) < power :=
    (Int.lt_zpow_iff_log_lt Nat.one_lt_two positive).mp (by exact_mod_cast small)
  exact zpow_le_zpow_right₀ one_le_two (by omega)

private theorem le_gridStep_of_le {power : ℤ} (large : 1000 ≤ count)
    (least : (2 : ℚ) ^ power ≤ count) :
    2 ^ (power - 52) ≤ gridStep count := by
  have positive : (0 : ℚ) < count := by exact_mod_cast (by omega : 0 < count)
  have more : power ≤ Int.log 2 (count : ℚ) :=
    (Int.zpow_le_iff_le_log Nat.one_lt_two positive).mp (by exact_mod_cast least)
  exact zpow_le_zpow_right₀ one_le_two (by omega)

/-- Below 2 ^ 34 the quotient lies above the exact one, and near it. -/
theorem Approximates.above (approximates : Approximates count near sum quotient)
    (large : 1000 ≤ count) (small : count < 2 ^ 34) :
    (count : ℚ) / 1000 < quotient ∧ quotient < count / 1000 + 1 / 10 ^ 6 := by
  have low : (1000 : ℚ) ≤ count := by exact_mod_cast large
  have high : (count : ℚ) < 2 ^ 34 := by exact_mod_cast small
  have below : count < 2 ^ 53 := small.trans (by norm_num)
  obtain ⟨least, most, -⟩ := nudge_bounds
  obtain ⟨point, on⟩ := Magnitude.natural_on_grid (by omega) below
  have adds := approximates.adds
  rw [near_eq approximates.counts large below] at adds
  have step := gridStep_nudge large
  have coarse : gridStep count ≤ (2 : ℚ) ^ ((34 : ℤ) - 53) :=
    gridStep_le_of_lt large (by exact_mod_cast high)
  norm_num at coarse
  -- the sum lies on the next point of the grid or above it
  have raised : count + gridStep count ≤ sum := by
    have up : (point + 1) * gridStep (count + nudge) ≤ sum :=
      adds.above (by rw [step, ← on]; linarith)
    rw [step, add_mul, ← on, one_mul] at up
    exact up
  have sumClose := abs_le.mp adds.error
  rw [step] at sumClose
  have positive : 0 < sum / 1000 := by linarith
  have quotientClose := abs_le.mp (approximates.divides.relative positive)
  have last := succ_le_gridStep large
  constructor
  · linarith
  · linarith

/-- From 2 ^ 34 on the number that is added is lost. -/
theorem Approximates.lost (approximates : Approximates count near sum quotient)
    (large : 2 ^ 34 ≤ count) (small : count < 2 ^ 53) : sum = count := by
  have enough : 1000 ≤ count := le_trans (by norm_num) large
  have low : (2 : ℚ) ^ 34 ≤ count := by exact_mod_cast large
  obtain ⟨least, -, most⟩ := nudge_bounds
  obtain ⟨point, on⟩ := Magnitude.natural_on_grid (by omega) small
  have adds := approximates.adds
  rw [near_eq approximates.counts enough small] at adds
  have step := gridStep_nudge enough
  have fine : (2 : ℚ) ^ ((34 : ℤ) - 52) ≤ gridStep count :=
    le_gridStep_of_le enough (by exact_mod_cast low)
  norm_num at fine
  have same : sum = point * gridStep (count + nudge) := adds.eq_of_near (by
    rw [step, ← on, add_sub_cancel_left, abs_of_pos (by linarith)]
    linarith)
  rw [same, step]
  exact on.symm

/-- What is left of a count is off by a small part of the count. -/
theorem Approximates.close (approximates : Approximates count near sum quotient)
    (large : 1000 ≤ count) (bounded : count < countBound) :
    |1000 * quotient - count| ≤ count / 2 ^ 51 + 1 := by
  obtain ⟨nearLow, nearHigh, close⟩ := near_bounds approximates.counts large bounded
  obtain ⟨least, most, -⟩ := nudge_bounds
  have sumClose := abs_le.mp (approximates.adds.relative (by linarith))
  have quotientClose := abs_le.mp (approximates.divides.relative (by linarith))
  have nearClose := abs_le.mp close
  rw [abs_le]
  constructor
  · linarith
  · linarith

/-- Where the number that is added is lost, the quotient is off by less than a thousandth. -/
theorem Approximates.beside (approximates : Approximates count near sum quotient)
    (large : 2 ^ 34 ≤ count) (small : count < 2 ^ 53) : |1000 * quotient - count| < 1 := by
  have low : (2 ^ 34 : ℚ) ≤ count := by exact_mod_cast large
  have high : (count : ℚ) < 2 ^ 53 := by exact_mod_cast small
  have divides := approximates.divides
  rw [approximates.lost large small] at divides
  have close := abs_le.mp (divides.relative (by linarith))
  rw [abs_lt]
  constructor
  · linarith
  · linarith

private theorem quarter_on_grid {quarters : ℕ} (low : (1 : ℚ) ≤ quarters / 4)
    (high : (quarters / 4 : ℚ) < 2 ^ 50) :
    ∃ point : ℕ, (quarters / 4 : ℚ) = point * gridStep (quarters / 4) := by
  have less : Int.log 2 (quarters / 4 : ℚ) < 50 :=
    (Int.lt_zpow_iff_log_lt Nat.one_lt_two (by linarith)).mp (by exact_mod_cast high)
  obtain ⟨power, same⟩ := Int.eq_ofNat_of_zero_le (by omega : 0 ≤ 50 - Int.log 2 (quarters / 4 : ℚ))
  refine ⟨quarters * 2 ^ power, ?_⟩
  have exponent : Int.log 2 (quarters / 4 : ℚ) - 52 = -((power + 2 : ℕ) : ℤ) := by
    push_cast
    omega
  rw [gridStep, exponent, zpow_neg, zpow_natCast]
  push_cast
  rw [pow_add]
  field_simp
  norm_num

/-- Quarters of a thousand are divided without any rounding. -/
theorem Approximates.quarter (approximates : Approximates count near sum quotient)
    (large : 2 ^ 34 ≤ count) (small : count < 2 ^ 53) (quarters : count % 250 = 0) :
    quotient = count / 1000 := by
  have low : (2 ^ 34 : ℚ) ≤ count := by exact_mod_cast large
  have high : (count : ℚ) < 2 ^ 53 := by exact_mod_cast small
  have divides := approximates.divides
  have whole : (count : ℚ) = 250 * (count / 250 : ℕ) := by
    exact_mod_cast (by omega : count = 250 * (count / 250))
  have same : (count : ℚ) / 1000 = (count / 250 : ℕ) / 4 := by
    rw [whole]
    ring
  rw [approximates.lost large small, same] at divides
  obtain ⟨point, on⟩ := @quarter_on_grid (count / 250) (by linarith) (by linarith)
  rw [divides.eq_of_grid on, same]

end Doubles

/-! ## The rounded text -/

section Rounded

variable {count : Nat} {near sum quotient : ℚ}

/-- The tenths of a count, in numbers. -/
theorem tenthsOf_bounds (count : Nat) :
    (100 * tenthsOf count : ℚ) ≤ count + 50 ∧ (count : ℚ) ≤ 100 * tenthsOf count + 49 := by
  have high : 100 * tenthsOf count ≤ count + 50 := by
    unfold tenthsOf
    omega
  have low : count ≤ 100 * tenthsOf count + 49 := by
    unfold tenthsOf
    omega
  exact ⟨by exact_mod_cast high, by exact_mod_cast low⟩

/-- A quotient that is right up to a thousandth gives the right tenths, unless it lies on the wrong
side of the middle between two tenths. -/
theorem writeCount_of_beside (is : (thousands count).Is quotient) (large : 1000 ≤ count)
    (beside : |1000 * quotient - count| < 1)
    (clear : (count : ℚ) < 1000 * quotient ∨ count % 100 ≠ 50 ∨ count % 1000 = 950) :
    String.ofList (writeCount count) = inThousands (tenthsOf count) := by
  obtain ⟨high, low⟩ := tenthsOf_bounds count
  obtain ⟨least, most⟩ := abs_lt.mp beside
  have whole := decimals_eq_zero_iff large
  rcases Nat.eq_zero_or_pos (decimals count) with coarse | fine
  · have tens := whole.mp coarse
    have split_ : (tenthsOf count : ℚ) = 10 * (tenthsOf count / 10 : ℕ) := by
      exact_mod_cast (by omega : tenthsOf count = 10 * (tenthsOf count / 10))
    refine writeCount_of_coarse large coarse (withPlaces_of_near is ?_) tens
    rw [abs_lt]
    constructor <;> linarith
  · have decimal : decimals count = 1 := by
      unfold decimals at fine ⊢
      split_ifs at fine ⊢ <;> simp_all
    have shown : tenthsOf count % 10 ≠ 0 := fun zero => by omega
    have atLeast : 10 ≤ tenthsOf count := by
      unfold tenthsOf
      omega
    refine writeCount_of_fine large decimal (withPlaces_of_near is ?_) shown atLeast
    have above : (100 * tenthsOf count : ℚ) < 1000 * quotient + 50 := by
      obtain raised | other | ends := clear
      · linarith
      · have more : 100 * tenthsOf count ≤ count + 49 := by
          unfold tenthsOf
          omega
        have more' : (100 * tenthsOf count : ℚ) ≤ count + 49 := by exact_mod_cast more
        linarith
      · unfold tenthsOf at shown
        omega
    rw [abs_lt]
    constructor <;> linarith

variable {near sum : ℚ}

/-- Below 2 ^ 34 a half goes up. -/
theorem writeCount_of_small (large : 1000 ≤ count) (small : count < 2 ^ 34) :
    String.ofList (writeCount count) = inThousands (tenthsOf count) := by
  have bounded : count < countBound := small.trans (by decide)
  obtain ⟨near, sum, quotient, approximates⟩ := exists_approximates large bounded
  obtain ⟨above, below⟩ := approximates.above large small
  refine writeCount_of_beside approximates.is large ?_ (.inl (by linarith))
  rw [abs_lt]
  constructor <;> linarith

/-- From 2 ^ 34 on a half goes to the even tenth if it is divided without rounding. -/
theorem writeCount_of_half (large : 2 ^ 34 ≤ count) (small : count < 2 ^ 53)
    (half : count % 500 = 250) : String.ofList (writeCount count) =
      inThousands (if count % 1000 = 750 then tenthsOf count else tenthsOf count - 1) := by
  have enough : 1000 ≤ count := le_trans (by norm_num) large
  have bounded : count < countBound := small.trans (by decide)
  obtain ⟨near, sum, quotient, approximates⟩ := exists_approximates enough bounded
  have exact_ := approximates.quarter large small (by omega)
  have middle : quotient * 10 ^ 1 = ((tenthsOf count - 1 : ℕ) : ℚ) + 1 / 2 := by
    have same : count = 100 * (tenthsOf count - 1) + 50 := by
      unfold tenthsOf
      omega
    have same' : (count : ℚ) = 100 * (tenthsOf count - 1 : ℕ) + 50 := by exact_mod_cast same
    rw [exact_, same']
    ring
  have decimal : decimals count = 1 := by
    unfold decimals
    rw [if_pos (by omega)]
  have written := withPlaces_of_half approximates.is middle
  have rounded : (if (tenthsOf count - 1) % 2 = 0 then tenthsOf count - 1
      else tenthsOf count - 1 + 1) =
      if count % 1000 = 750 then tenthsOf count else tenthsOf count - 1 := by
    unfold tenthsOf
    split <;> split <;> omega
  rw [rounded] at written
  refine writeCount_of_fine enough decimal written ?_ ?_
  · unfold tenthsOf
    split <;> omega
  · unfold tenthsOf
    split <;> omega

private theorem writeCount_of_clear (large : 2 ^ 34 ≤ count) (small : count < 2 ^ 53)
    (clear : count % 100 ≠ 50 ∨ count % 1000 = 950) :
    String.ofList (writeCount count) = inThousands (tenthsOf count) := by
  have enough : 1000 ≤ count := le_trans (by norm_num) large
  have bounded : count < countBound := small.trans (by decide)
  obtain ⟨near, sum, quotient, approximates⟩ := exists_approximates enough bounded
  exact writeCount_of_beside approximates.is enough (approximates.beside large small) (.inr clear)

/-- Every count is shown up to half a unit of the last place and a small part of the count. -/
theorem writeCount_near (large : 1000 ≤ count) (bounded : count < countBound) :
    (∃ whole : Nat, writeCount count = Nat.toDigits 10 whole ++ ['k'] ∧
        |(1000 * whole : ℚ) - count| ≤ 501 + count / 2 ^ 51) ∨
      ∃ tenths : Nat, writeCount count =
          Nat.toDigits 10 (tenths / 10) ++ '.' :: Nat.toDigits 10 (tenths % 10) ++ ['k'] ∧
        |(100 * tenths : ℚ) - count| ≤ 51 + count / 2 ^ 51 := by
  obtain ⟨near, sum, quotient, approximates⟩ := exists_approximates large bounded
  have close := abs_le.mp (approximates.close large bounded)
  have low : (1000 : ℚ) ≤ count := by exact_mod_cast large
  unfold writeCount
  rw [if_neg (by omega)]
  unfold decimals
  split
  · obtain ⟨tenths, written, error⟩ := withPlaces_error approximates.is 1
    obtain ⟨least, most⟩ := abs_le.mp error
    have enough : 10 ≤ tenths := by
      have more : (9 : ℚ) < tenths := by linarith
      exact_mod_cast more
    refine .inr ⟨tenths, by rw [written, positional_tenths enough], ?_⟩
    rw [abs_le]
    constructor <;> linarith
  · obtain ⟨whole, written, error⟩ := withPlaces_error approximates.is 0
    obtain ⟨least, most⟩ := abs_le.mp error
    refine .inl ⟨whole, by rw [written, positional_whole], ?_⟩
    rw [abs_le]
    constructor <;> linarith

end Rounded

/-- What becomes of a text that is shortened. -/
structure Shortens (text : String) : Prop where
  /-- A text that denotes no count below the bound stays as it is. -/
  other : (∀ count, Denotes text count → countBound ≤ count) → compact text = text
  /-- A count below a thousand is written out, without its spelling. -/
  small : ∀ count, Denotes text count → count ≤ 999 →
    compact text = String.ofList (Nat.toDigits 10 count)
  /-- Below 2 ^ 34 every count is rounded to tenths of a thousand, a half going up. -/
  halfUp : ∀ count, Denotes text count → 1000 ≤ count → count < 2 ^ 34 →
    compact text = inThousands (tenthsOf count)
  /-- Below 2 ^ 53 so is every count that is not half way between two tenths, and every one that
  is rounded to whole thousands. -/
  clear : ∀ count, Denotes text count → 2 ^ 34 ≤ count → count < 2 ^ 53 →
    count % 100 ≠ 50 ∨ count % 1000 = 950 → compact text = inThousands (tenthsOf count)
  /-- From 2 ^ 34 on a quarter of a thousand goes down, to the even tenth, and three quarters go
  up. -/
  half : ∀ count, Denotes text count → 2 ^ 34 ≤ count → count < 2 ^ 53 → count % 500 = 250 →
    compact text =
      inThousands (if count % 1000 = 750 then tenthsOf count else tenthsOf count - 1)
  /-- Any other count is shown in whole thousands or tenths of a thousand, off by half a unit of
  the last place and a small part of the count at most. -/
  near : ∀ count, Denotes text count → 1000 ≤ count → count < countBound →
    (∃ whole : Nat, compact text = String.ofList (Nat.toDigits 10 whole ++ ['k']) ∧
        |(1000 * whole : ℚ) - count| ≤ 501 + count / 2 ^ 51) ∨
      ∃ tenths : Nat, compact text = String.ofList
          (Nat.toDigits 10 (tenths / 10) ++ '.' :: Nat.toDigits 10 (tenths % 10) ++ ['k']) ∧
        |(100 * tenths : ℚ) - count| ≤ 51 + count / 2 ^ 51

private theorem compact_of_denotes {text : String} {count : Nat} (denotes : Denotes text count)
    (bounded : count < countBound) : compact text = String.ofList (writeCount count) := by
  unfold compact
  rw [readCount?_eq_some_iff.mpr ⟨denotes, bounded⟩]

theorem compact_shortens (text : String) : Shortens text := by
  have far : 2 ^ 53 < countBound := by decide
  refine ⟨fun none => ?_, ?_, ?_, ?_, ?_, ?_⟩
  · unfold compact
    split
    · next count read =>
      obtain ⟨denotes, bounded⟩ := readCount?_eq_some_iff.mp read
      exact absurd bounded (Nat.not_lt.mpr (none count denotes))
    · rfl
  · intro count denotes small
    rw [compact_of_denotes denotes (by omega), writeCount, if_pos small]
    rfl
  · intro count denotes large small
    rw [compact_of_denotes denotes (by omega), writeCount_of_small large small]
  · intro count denotes large small clear
    rw [compact_of_denotes denotes (by omega), writeCount_of_clear large small clear]
  · intro count denotes large small half
    rw [compact_of_denotes denotes (by omega), writeCount_of_half large small half]
  · intro count denotes large bounded
    rw [compact_of_denotes denotes bounded]
    obtain ⟨whole, written, close⟩ | ⟨tenths, written, close⟩ := writeCount_near large bounded
    · exact .inl ⟨whole, congrArg String.ofList written, close⟩
    · exact .inr ⟨tenths, congrArg String.ofList written, close⟩

/-- The least count whose half goes down, and one that is rounded before it is divided, so that a
decimal that is zero is shown. -/
theorem large_counts_off :
    (Denotes "17179869250" 17179869250 ∧ compact "17179869250" = "17179869.2k" ∧
      inThousands (tenthsOf 17179869250) = "17179869.3k") ∧
    Denotes "9223372036854775807" 9223372036854775807 ∧
      compact "9223372036854775807" = "9223372036854776.0k" ∧
      inThousands (tenthsOf 9223372036854775807) = "9223372036854775.8k" :=
  ⟨⟨⟨[], [], 0, [], by simp, by simp, .inl rfl, by decide +kernel⟩, by decide +kernel,
    by decide +kernel⟩, ⟨[], [], 0, [], by simp, by simp, .inl rfl, by decide +kernel⟩,
    by decide +kernel, by decide +kernel⟩

end Render
end LinkFacts
