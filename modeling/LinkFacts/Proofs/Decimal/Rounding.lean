import Mathlib.Data.Int.Log
import Mathlib.Tactic
import LinkFacts.Decimal.Layout

/-!
# Rounding to double precision

What the operations on doubles do to the values that doubles stand for.  Each operation rounds its
exact result to a grid of 53 binary digits, so that it is off by half a step of the grid at most,
and exact results on the grid stay as they are.
-/

namespace LinkFacts
namespace Decimal

/-! ## Rounded quotients -/

section Quotients

variable {numerator denominator whole : Nat}

/-- A rounded quotient is off by a half at most. -/
theorem divideToEven_bounds (positive : 0 < denominator) :
    2 * (denominator * divideToEven numerator denominator) ≤ 2 * numerator + denominator ∧
      2 * numerator ≤ 2 * (denominator * divideToEven numerator denominator) + denominator := by
  have split_ := Nat.div_add_mod numerator denominator
  have small := Nat.mod_lt numerator positive
  unfold divideToEven
  dsimp only
  split_ifs
  all_goals
    try rw [Nat.mul_add, Nat.mul_one]
    omega

private theorem divideToEven_error (positive : 0 < denominator) :
    |(divideToEven numerator denominator : ℚ) - numerator / denominator| ≤ 1 / 2 := by
  obtain ⟨above, below⟩ := @divideToEven_bounds numerator denominator positive
  have positive' : (0 : ℚ) < denominator := by exact_mod_cast positive
  have above' : 2 * ((denominator : ℚ) * divideToEven numerator denominator) ≤
      2 * numerator + denominator := by exact_mod_cast above
  have below' : 2 * (numerator : ℚ) ≤
      2 * (denominator * divideToEven numerator denominator) + denominator := by
    exact_mod_cast below
  have scaled : (numerator : ℚ) / denominator * denominator = numerator :=
    div_mul_cancel₀ _ positive'.ne'
  rw [abs_le]
  constructor <;> nlinarith

/-- A quotient half way between two naturals goes to the even one. -/
theorem divideToEven_half (positive : 0 < denominator)
    (half : 2 * numerator = (2 * whole + 1) * denominator) :
    divideToEven numerator denominator = if whole % 2 = 0 then whole else whole + 1 := by
  have split_ := Nat.div_add_mod numerator denominator
  have small := Nat.mod_lt numerator positive
  have same : numerator / denominator = whole := by
    refine Nat.div_eq_of_lt_le ?_ ?_ <;> nlinarith
  have rest : 2 * (numerator % denominator) = denominator := by
    rw [same] at split_
    nlinarith
  unfold divideToEven
  simp only [same, rest, lt_irrefl, if_false]

end Quotients

/-! ## The exponent of a fraction -/

section Exponents

variable {numerator denominator : Nat}

private theorem quotient_shiftRatio (numerator denominator : Nat) (exponent : Int) :
    ((shiftRatio numerator denominator exponent).1 : ℚ) /
        (shiftRatio numerator denominator exponent).2 =
      numerator / denominator / 2 ^ exponent := by
  unfold shiftRatio
  split
  · next nonneg =>
    obtain ⟨power, rfl⟩ := Int.eq_ofNat_of_zero_le nonneg
    simp [Nat.pow_eq, div_mul_eq_div_div]
  · next negative =>
    obtain ⟨power, same⟩ := Int.eq_ofNat_of_zero_le (by omega : 0 ≤ -exponent)
    have flipped : exponent = -(power : Int) := by omega
    subst flipped
    simp only [neg_neg, Int.toNat_natCast, Nat.pow_eq, Nat.cast_mul, Nat.cast_pow,
      Nat.cast_ofNat, zpow_neg, zpow_natCast, div_inv_eq_mul]
    exact mul_div_right_comm _ _ _

private theorem shiftRatio_pos (positive : 0 < denominator) (exponent : Int) :
    0 < (shiftRatio numerator denominator exponent).2 := by
  unfold shiftRatio
  split
  · exact Nat.mul_pos positive (Nat.pow_pos Nat.two_pos)
  · exact positive

private theorem floorLog2_eq (above : 0 < numerator) (below : 0 < denominator) :
    floorLog2 numerator denominator = Int.log 2 ((numerator : ℚ) / denominator) := by
  have above' : (0 : ℚ) < numerator := by exact_mod_cast above
  have below' : (0 : ℚ) < denominator := by exact_mod_cast below
  have positive : (0 : ℚ) < numerator / denominator := div_pos above' below'
  let guess : Int := (Nat.log2 numerator : Int) - Nat.log2 denominator
  have scales : ((shiftRatio numerator denominator guess).2 ≤
      (shiftRatio numerator denominator guess).1) ↔ (2 : ℚ) ^ guess ≤ numerator / denominator := by
    have shifted := quotient_shiftRatio numerator denominator guess
    have bottom : (0 : ℚ) < (shiftRatio numerator denominator guess).2 := by
      exact_mod_cast shiftRatio_pos below guess
    rw [← one_le_div₀ (by positivity : (0 : ℚ) < 2 ^ guess), ← shifted, one_le_div₀ bottom]
    exact_mod_cast Iff.rfl
  -- the numerator and the denominator lie between powers of two, and so does the fraction
  have numeratorLow : (2 : ℚ) ^ numerator.log2 ≤ numerator := by
    exact_mod_cast Nat.log2_self_le above.ne'
  have numeratorHigh : (numerator : ℚ) < 2 ^ (numerator.log2 + 1) := by
    exact_mod_cast Nat.lt_log2_self
  have denominatorLow : (2 : ℚ) ^ denominator.log2 ≤ denominator := by
    exact_mod_cast Nat.log2_self_le below.ne'
  have denominatorHigh : (denominator : ℚ) < 2 ^ (denominator.log2 + 1) := by
    exact_mod_cast Nat.lt_log2_self
  have high : (numerator : ℚ) / denominator < 2 ^ (guess + 1) := by
    rw [div_lt_iff₀ below']
    calc (numerator : ℚ) < 2 ^ (numerator.log2 + 1) := numeratorHigh
      _ = 2 ^ (guess + 1) * 2 ^ denominator.log2 := by
        rw [← zpow_natCast, ← zpow_natCast, ← zpow_add₀ two_ne_zero]
        congr 1
        push_cast
        omega
      _ ≤ 2 ^ (guess + 1) * denominator :=
        mul_le_mul_of_nonneg_left denominatorLow (by positivity)
  have low : (2 : ℚ) ^ (guess - 1) ≤ numerator / denominator := by
    rw [le_div_iff₀ below']
    calc (2 : ℚ) ^ (guess - 1) * denominator
        ≤ 2 ^ (guess - 1) * 2 ^ (denominator.log2 + 1) :=
        mul_le_mul_of_nonneg_left denominatorHigh.le (by positivity)
      _ = 2 ^ numerator.log2 := by
        rw [← zpow_natCast, ← zpow_natCast, ← zpow_add₀ two_ne_zero]
        congr 1
        push_cast
        omega
      _ ≤ numerator := numeratorLow
  have one_lt : 1 < 2 := Nat.one_lt_two
  unfold floorLog2
  dsimp only
  split
  · next fits =>
    have atLeast := (Int.zpow_le_iff_le_log one_lt positive).mp (scales.mp fits)
    have atMost := (Int.lt_zpow_iff_log_lt one_lt positive).mp high
    omega
  · next exceeds =>
    have below_ := not_le.mp fun fits => exceeds (scales.mpr fits)
    have atMost := (Int.lt_zpow_iff_log_lt one_lt positive).mp below_
    have atLeast := (Int.zpow_le_iff_le_log one_lt positive).mp low
    omega

end Exponents

/-! ## Rounding to the grid -/

section Grid

variable {exact rounded value : ℚ} {point : ℕ}

/-- A step of the grid of 53 binary digits on which a value lies. -/
def gridStep (value : ℚ) : ℚ := 2 ^ (Int.log 2 value - 52)

/-- A value is rounded to a nearest point of its grid. -/
def Rounds (exact rounded : ℚ) : Prop :=
  ∃ point : ℕ, rounded = point * gridStep exact ∧ |(point : ℚ) - exact / gridStep exact| ≤ 1 / 2

private theorem gridStep_pos (value : ℚ) : 0 < gridStep value := by
  unfold gridStep
  positivity

theorem gridStep_mul (value : ℚ) (digits : Nat) :
    gridStep value * 2 ^ digits = 2 ^ (Int.log 2 value - 52 + digits) := by
  rw [gridStep, ← zpow_natCast, ← zpow_add₀ two_ne_zero]

private theorem gridStep_le (positive : 0 < value) : gridStep value * 2 ^ 52 ≤ value := by
  rw [gridStep_mul]
  simpa using Int.zpow_log_le_self Nat.one_lt_two positive

theorem lt_gridStep (value : ℚ) : value < gridStep value * 2 ^ 53 := by
  have high := Int.lt_zpow_succ_log_self Nat.one_lt_two value
  have exponent : Int.log 2 value - 52 + (53 : ℕ) = Int.log 2 value + 1 := by
    push_cast
    ring
  rw [gridStep_mul, exponent]
  exact_mod_cast high

theorem Rounds.error (rounds : Rounds exact rounded) :
    |rounded - exact| ≤ gridStep exact / 2 := by
  obtain ⟨point, rfl, near⟩ := rounds
  have step := gridStep_pos exact
  have scaled : exact / gridStep exact * gridStep exact = exact := div_mul_cancel₀ _ step.ne'
  rw [abs_le] at near ⊢
  constructor <;> nlinarith [near.1, near.2]

theorem Rounds.relative (rounds : Rounds exact rounded) (positive : 0 < exact) :
    |rounded - exact| ≤ exact / 2 ^ 53 := by
  have step := gridStep_le positive
  have half := rounds.error
  rw [le_div_iff₀ (by positivity)]
  linarith

/-- A value near a point of its grid is rounded to this point. -/
theorem Rounds.eq_of_near (rounds : Rounds exact rounded)
    (near : |exact - point * gridStep exact| < gridStep exact / 2) :
    rounded = point * gridStep exact := by
  obtain ⟨nearest, rfl, close⟩ := rounds
  have step := gridStep_pos exact
  have scaled : exact / gridStep exact * gridStep exact = exact := div_mul_cancel₀ _ step.ne'
  rw [abs_le] at close
  rw [abs_lt] at near
  have high : exact / gridStep exact < point + 1 / 2 := by
    rw [div_lt_iff₀ step]
    linarith [near.2]
  have low : point - 1 / 2 < exact / gridStep exact := by
    rw [lt_div_iff₀ step]
    linarith [near.1]
  have less : (nearest : ℚ) < point + 1 := by linarith [close.2]
  have more : (point : ℚ) < nearest + 1 := by linarith [close.1]
  have less' : nearest < point + 1 := by exact_mod_cast less
  have more' : point < nearest + 1 := by exact_mod_cast more
  have same : nearest = point := by omega
  rw [same]

/-- A value on the grid stays as it is. -/
theorem Rounds.eq_of_grid (rounds : Rounds exact rounded) (on : exact = point * gridStep exact) :
    rounded = exact := by
  have step := gridStep_pos exact
  have near : |exact - point * gridStep exact| < gridStep exact / 2 := by
    rw [← on, sub_self, abs_zero]
    linarith
  exact (rounds.eq_of_near near).trans on.symm

/-- A value past the middle of two points of the grid is rounded to the upper one at least. -/
theorem Rounds.above (rounds : Rounds exact rounded)
    (past : point * gridStep exact + gridStep exact / 2 < exact) :
    (point + 1) * gridStep exact ≤ rounded := by
  obtain ⟨nearest, rfl, near⟩ := rounds
  have step := gridStep_pos exact
  have far : (point : ℚ) + 1 / 2 < exact / gridStep exact := by
    rw [lt_div_iff₀ step]
    linarith
  have more : (point : ℚ) < nearest := by linarith [(abs_le.mp near).1]
  have next : point + 1 ≤ nearest := by exact_mod_cast more
  have next' : (point : ℚ) + 1 ≤ nearest := by exact_mod_cast next
  exact mul_le_mul_of_nonneg_right next' step.le

end Grid

/-! ## Operations -/

namespace Magnitude

variable {magnitude first second : Magnitude} {value left right : ℚ} {numerator denominator : Nat}

/-- A magnitude is finite and stands for a value. -/
def Is (magnitude : Magnitude) (value : ℚ) : Prop :=
  ∃ mantissa exponent, magnitude = .finite mantissa exponent ∧ value = mantissa * 2 ^ exponent

private theorem quotient_ratio (mantissa : Nat) (exponent : Int) :
    ((ratio mantissa exponent).1 : ℚ) / (ratio mantissa exponent).2 =
      mantissa * 2 ^ exponent := by
  unfold ratio
  split
  · next nonneg =>
    obtain ⟨power, rfl⟩ := Int.eq_ofNat_of_zero_le nonneg
    simp [Nat.pow_eq]
  · next negative =>
    obtain ⟨power, same⟩ := Int.eq_ofNat_of_zero_le (by omega : 0 ≤ -exponent)
    have flipped : exponent = -(power : Int) := by omega
    subst flipped
    simp [Nat.pow_eq, div_eq_mul_inv]

private theorem ratio_pos (mantissa : Nat) (exponent : Int) : 0 < (ratio mantissa exponent).2 := by
  unfold ratio
  split
  · exact Nat.one_pos
  · exact Nat.pow_pos Nat.two_pos

/-- A fraction far from the ends of the format is rounded to its grid. -/
theorem rounds_ofRatio (above : 0 < numerator) (below : 0 < denominator)
    (quotient : (numerator : ℚ) / denominator = value) (low : 1 ≤ value) (high : value < 2 ^ 100) :
    ∃ rounded, Rounds value rounded ∧ (ofRatio numerator denominator).Is rounded := by
  have positive : 0 < value := one_pos.trans_le low
  have logLow : 0 ≤ Int.log 2 value :=
    (Int.zpow_le_iff_le_log Nat.one_lt_two positive).mp (by simpa using low)
  have logHigh : Int.log 2 value < 100 :=
    (Int.lt_zpow_iff_log_lt Nat.one_lt_two positive).mp (by exact_mod_cast high)
  have exponent : max (floorLog2 numerator denominator - 52) leastExponent =
      Int.log 2 value - 52 := by
    rw [floorLog2_eq above below, quotient, leastExponent]
    omega
  let scaled := shiftRatio numerator denominator (Int.log 2 value - 52)
  have near := @divideToEven_error scaled.1 scaled.2
    (shiftRatio_pos below (Int.log 2 value - 52))
  rw [quotient_shiftRatio, quotient] at near
  refine ⟨divideToEven scaled.1 scaled.2 * gridStep value, ⟨_, rfl, near⟩, ?_⟩
  unfold ofRatio
  rw [if_neg above.ne', exponent]
  dsimp only
  have bounded : ¬ greatestExponent < Int.log 2 value - 52 + 1 := by
    rw [greatestExponent]
    omega
  by_cases carried : divideToEven scaled.1 scaled.2 = Nat.pow 2 53
  · rw [if_pos carried, if_neg bounded, carried]
    refine ⟨_, _, rfl, ?_⟩
    simp only [Nat.pow_eq, Nat.cast_pow, Nat.cast_ofNat]
    rw [mul_comm, gridStep_mul, ← zpow_natCast, ← zpow_add₀ two_ne_zero]
    congr 1
    push_cast
    ring
  · rw [if_neg carried, if_neg (by dsimp only; omega)]
    exact ⟨_, _, rfl, rfl⟩

theorem rounds_add (one : first.Is left) (two : second.Is right) (low : 1 ≤ left + right)
    (high : left + right < 2 ^ 100) :
    ∃ rounded, Rounds (left + right) rounded ∧ (first.add second).Is rounded := by
  obtain ⟨mantissa, exponent, rfl, rfl⟩ := one
  obtain ⟨other, power, rfl, rfl⟩ := two
  have bottom : (0 : ℚ) < (ratio mantissa exponent).2 := by
    exact_mod_cast ratio_pos mantissa exponent
  have bottom' : (0 : ℚ) < (ratio other power).2 := by exact_mod_cast ratio_pos other power
  rw [← quotient_ratio, ← quotient_ratio] at low high ⊢
  rw [div_add_div _ _ bottom.ne' bottom'.ne'] at low high ⊢
  have above : 0 < (ratio mantissa exponent).1 * (ratio other power).2 +
      (ratio other power).1 * (ratio mantissa exponent).2 := by
    by_contra none
    have zero := Nat.eq_zero_of_not_pos none
    have zero' : ((ratio mantissa exponent).1 : ℚ) * (ratio other power).2 +
        (ratio mantissa exponent).2 * (ratio other power).1 = 0 := by
      rw [mul_comm ((ratio mantissa exponent).2 : ℚ)]
      exact_mod_cast zero
    rw [zero', zero_div] at low
    linarith
  refine rounds_ofRatio above (Nat.mul_pos (ratio_pos _ _) (ratio_pos _ _)) ?_ low high
  push_cast
  rw [mul_comm ((ratio other power).1 : ℚ)]

theorem rounds_div (one : first.Is left) (two : second.Is right) (positive : 0 < right)
    (low : 1 ≤ left / right) (high : left / right < 2 ^ 100) :
    ∃ rounded, Rounds (left / right) rounded ∧ (first.div second).Is rounded := by
  obtain ⟨mantissa, exponent, rfl, rfl⟩ := one
  obtain ⟨other, power, rfl, rfl⟩ := two
  rw [← quotient_ratio] at positive
  rw [← quotient_ratio, ← quotient_ratio] at low high ⊢
  have top : 0 < (ratio other power).1 := by
    by_contra none
    rw [Nat.eq_zero_of_not_pos none] at positive
    simp at positive
  have top' : 0 < (ratio mantissa exponent).1 := by
    by_contra none
    rw [Nat.eq_zero_of_not_pos none] at low
    norm_num at low
  refine rounds_ofRatio (Nat.mul_pos top' (ratio_pos _ _)) (Nat.mul_pos (ratio_pos _ _) top) ?_
    low high
  push_cast
  rw [div_div_div_eq]

theorem rounds_ofNat {natural : Nat} (low : 1 ≤ natural) (high : natural < 2 ^ 100) :
    ∃ rounded, Rounds natural rounded ∧ (ofNat natural).Is rounded :=
  rounds_ofRatio low Nat.one_pos (by simp) (by exact_mod_cast low) (by exact_mod_cast high)

/-- A natural below the bound of mantissas is on the grid. -/
theorem natural_on_grid {natural : Nat} (low : 1 ≤ natural) (high : natural < 2 ^ 53) :
    ∃ point : ℕ, (natural : ℚ) = point * gridStep natural := by
  have positive : (0 : ℚ) < natural := by exact_mod_cast low
  have logHigh : Int.log 2 (natural : ℚ) < 53 :=
    (Int.lt_zpow_iff_log_lt Nat.one_lt_two positive).mp (by exact_mod_cast high)
  obtain ⟨power, same⟩ := Int.eq_ofNat_of_zero_le (by omega : 0 ≤ 52 - Int.log 2 (natural : ℚ))
  refine ⟨natural * 2 ^ power, ?_⟩
  have exponent : Int.log 2 (natural : ℚ) - 52 = -(power : ℤ) := by omega
  rw [gridStep, exponent, zpow_neg, zpow_natCast]
  push_cast
  field_simp

theorem is_ofNat {natural : Nat} (low : 1 ≤ natural) (high : natural < 2 ^ 53) :
    (ofNat natural).Is natural := by
  have far : natural < 2 ^ 100 := high.trans_le (Nat.pow_le_pow_right Nat.two_pos (by omega))
  obtain ⟨rounded, rounds, is⟩ := rounds_ofNat low far
  obtain ⟨point, on⟩ := natural_on_grid low high
  rwa [rounds.eq_of_grid on] at is

end Magnitude

/-! ## Fixed places -/

section Places

variable {magnitude : Magnitude} {value : ℚ} {places digits : Nat}

/-- A finite value is written as the rounded quotient of a fraction that is equal to it. -/
theorem withPlaces_of_is (is : magnitude.Is value) (places : Nat) :
    ∃ numerator denominator : ℕ, 0 < denominator ∧
      (numerator : ℚ) / denominator = value * 10 ^ places ∧
      withPlaces places magnitude =
        positional ⟨divideToEven numerator denominator, -(places : Int)⟩ := by
  obtain ⟨mantissa, exponent, rfl, rfl⟩ := is
  refine ⟨_, _, Magnitude.ratio_pos mantissa exponent, ?_, rfl⟩
  rw [← Magnitude.quotient_ratio, Nat.pow_eq]
  push_cast
  exact mul_div_right_comm _ _ _

theorem withPlaces_error (is : magnitude.Is value) (places : Nat) :
    ∃ digits : ℕ, withPlaces places magnitude = positional ⟨digits, -(places : Int)⟩ ∧
      |(digits : ℚ) - value * 10 ^ places| ≤ 1 / 2 := by
  obtain ⟨numerator, denominator, positive, quotient, written⟩ := withPlaces_of_is is places
  have near := @divideToEven_error numerator denominator positive
  rw [quotient] at near
  exact ⟨_, written, near⟩

theorem withPlaces_of_near (is : magnitude.Is value)
    (near : |value * 10 ^ places - digits| < 1 / 2) :
    withPlaces places magnitude = positional ⟨digits, -(places : Int)⟩ := by
  obtain ⟨nearest, written, close⟩ := withPlaces_error is places
  rw [abs_le] at close
  rw [abs_lt] at near
  have less : (nearest : ℚ) < digits + 1 := by linarith [close.2, near.2]
  have more : (digits : ℚ) < nearest + 1 := by linarith [close.1, near.1]
  have less' : nearest < digits + 1 := by exact_mod_cast less
  have more' : digits < nearest + 1 := by exact_mod_cast more
  rw [written, show nearest = digits by omega]

/-- A value half way between two decimals is written as the even one. -/
theorem withPlaces_of_half (is : magnitude.Is value)
    (half : value * 10 ^ places = digits + 1 / 2) :
    withPlaces places magnitude =
      positional ⟨if digits % 2 = 0 then digits else digits + 1, -(places : Int)⟩ := by
  obtain ⟨numerator, denominator, positive, quotient, written⟩ := withPlaces_of_is is places
  have positive' : (denominator : ℚ) ≠ 0 := by exact_mod_cast positive.ne'
  have doubled : 2 * numerator = (2 * digits + 1) * denominator := by
    rw [half, div_eq_iff positive'] at quotient
    have scaled : 2 * (numerator : ℚ) = (2 * digits + 1) * denominator := by linarith
    exact_mod_cast scaled
  rw [written, divideToEven_half positive doubled]

end Places

end Decimal
end LinkFacts
