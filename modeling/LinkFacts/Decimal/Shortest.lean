import LinkFacts.Decimal.Binary64

/-!
# Shortest digits that read back

The decimal digits of a finite double: the fewest digits whose value rounds back to it, and among
those the nearest.  For one digit, two digits and so on the two neighbours of the value on that
decimal grid are tried against the interval of values that round to it.
-/

namespace LinkFacts
namespace Decimal

/-- A decimal number `digits * 10 ^ exponent`. -/
structure Scientific where
  /-- All digits as one natural. -/
  digits : Nat
  /-- The power of ten that the digits count. -/
  exponent : Int
  deriving DecidableEq, Repr

/-- The reals that round to a double, as numerators over one denominator. -/
structure RoundingInterval where
  /-- The double itself. -/
  value : Nat
  /-- The lower end. -/
  lower : Nat
  /-- The upper end. -/
  upper : Nat
  /-- The common denominator. -/
  denominator : Nat
  /-- Both ends belong to the interval. -/
  closed : Bool

/-- The interval of reals that round to `mantissa * 2 ^ exponent`. -/
def RoundingInterval.of (mantissa : Nat) (exponent : Int) : RoundingInterval :=
  let unit := if 0 ≤ exponent then Nat.pow 2 exponent.toNat else 1
  let scale := if 0 ≤ exponent then 1 else Nat.pow 2 (-exponent).toNat
  let below := if mantissa = Nat.pow 2 52 ∧ Magnitude.leastExponent < exponent then 1 else 2
  { value := 4 * mantissa * unit
    lower := 4 * mantissa * unit - below * unit
    upper := 4 * mantissa * unit + 2 * unit
    denominator := 4 * scale
    closed := mantissa % 2 = 0 }

/-- The decimal `candidate * 10 ^ exponent` lies in the interval. -/
def RoundingInterval.holds (interval : RoundingInterval) (candidate : Nat) (exponent : Int) :
    Bool :=
  let point := candidate * interval.denominator * Nat.pow 10 exponent.toNat
  let scale := Nat.pow 10 (-exponent).toNat
  if interval.closed then
    interval.lower * scale ≤ point && point ≤ interval.upper * scale
  else
    interval.lower * scale < point && point < interval.upper * scale

/-- The greatest power of ten that does not exceed the value of the interval. -/
def RoundingInterval.floorLog10 (interval : RoundingInterval) : Int :=
  let scaled := interval.value * Nat.pow 10 330 / interval.denominator
  ((Nat.toDigits 10 scaled).length : Int) - 331

/-- The candidate on the grid of `10 ^ exponent` that lies in the interval, the nearer of two. -/
def RoundingInterval.onGrid? (interval : RoundingInterval) (exponent : Int) : Option Nat :=
  let numerator := interval.value * Nat.pow 10 (-exponent).toNat
  let denominator := interval.denominator * Nat.pow 10 exponent.toNat
  let low := numerator / denominator
  match interval.holds low exponent, interval.holds (low + 1) exponent with
  | true, true => some (divideToEven numerator denominator)
  | true, false => some low
  | false, true => some (low + 1)
  | false, false => none

/-- Tries grids of growing fineness. -/
def RoundingInterval.search (interval : RoundingInterval) (top : Int) : Nat → Nat → Scientific
  | places, 0 =>
    let exponent := top - places
    ⟨interval.value * Nat.pow 10 (-exponent).toNat /
        (interval.denominator * Nat.pow 10 exponent.toNat),
      exponent⟩
  | places, remaining + 1 =>
    let exponent := top - places
    match interval.onGrid? exponent with
    | some digits => ⟨digits, exponent⟩
    | none => interval.search top (places + 1) remaining

/-- The shortest decimal that reads back as `mantissa * 2 ^ exponent`. -/
def shortest (mantissa : Nat) (exponent : Int) : Scientific :=
  if mantissa = 0 then ⟨0, 0⟩
  else
    let interval := RoundingInterval.of mantissa exponent
    interval.search interval.floorLog10 0 17

end Decimal
end LinkFacts
