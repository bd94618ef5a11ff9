/-!
# Double precision magnitudes

The nonnegative values of the 64-bit binary floating-point format, as exact pairs of naturals and
binary exponents, with the correctly rounded operations that numbers in documents and counts need.
Every operation forms the exact quotient of two naturals and rounds it once.
-/

namespace LinkFacts
namespace Decimal

/-- A nonnegative value of the 64-bit binary floating-point format. -/
inductive Magnitude where
  /-- The value `mantissa * 2 ^ exponent`. -/
  | finite (mantissa : Nat) (exponent : Int)
  /-- What lies above every finite value. -/
  | infinite
  deriving DecidableEq, Repr

/-- The quotient rounded to the nearest natural; a half goes to the even neighbour. -/
def divideToEven (numerator denominator : Nat) : Nat :=
  let quotient := numerator / denominator
  let twice := 2 * (numerator % denominator)
  if twice < denominator then quotient
  else if denominator < twice then quotient + 1
  else if quotient % 2 = 0 then quotient
  else quotient + 1

/-- The fraction divided by a power of two, as numerator and denominator. -/
def shiftRatio (numerator denominator : Nat) (exponent : Int) : Nat × Nat :=
  if 0 ≤ exponent then (numerator, denominator * Nat.pow 2 exponent.toNat)
  else (numerator * Nat.pow 2 (-exponent).toNat, denominator)

/-- The greatest exponent of a power of two that does not exceed the fraction. -/
def floorLog2 (numerator denominator : Nat) : Int :=
  let guess : Int := (Nat.log2 numerator : Int) - (Nat.log2 denominator : Int)
  let scaled := shiftRatio numerator denominator guess
  if scaled.2 ≤ scaled.1 then guess else guess - 1

namespace Magnitude

/-- The least binary exponent of the format. -/
def leastExponent : Int := -1074

/-- The greatest binary exponent of the format. -/
def greatestExponent : Int := 971

/-- The value zero. -/
def zero : Magnitude := finite 0 leastExponent

/-- The value nearest to a fraction; a half goes to the even mantissa. -/
def ofRatio (numerator denominator : Nat) : Magnitude :=
  if numerator = 0 then zero
  else
    let exponent := max (floorLog2 numerator denominator - 52) leastExponent
    let scaled := shiftRatio numerator denominator exponent
    let mantissa := divideToEven scaled.1 scaled.2
    let rounded :=
      if mantissa = Nat.pow 2 53 then (Nat.pow 2 52, exponent + 1) else (mantissa, exponent)
    if greatestExponent < rounded.2 then infinite else finite rounded.1 rounded.2

/-- The exact value of a finite magnitude as a fraction. -/
def ratio (mantissa : Nat) (exponent : Int) : Nat × Nat :=
  if 0 ≤ exponent then (mantissa * Nat.pow 2 exponent.toNat, 1)
  else (mantissa, Nat.pow 2 (-exponent).toNat)

/-- The value nearest to a natural. -/
def ofNat (value : Nat) : Magnitude := ofRatio value 1

/-- The value nearest to `digits * 10 ^ exponent`. -/
def ofDecimal (digits : Nat) (exponent : Int) : Magnitude :=
  if digits = 0 then zero
  else
    let size : Int := (Nat.toDigits 10 digits).length
    if 400 < exponent + size then infinite
    else if exponent + size < -400 then zero
    else if 0 ≤ exponent then ofRatio (digits * Nat.pow 10 exponent.toNat) 1
    else ofRatio digits (Nat.pow 10 (-exponent).toNat)

/-- The rounded sum. -/
def add : Magnitude → Magnitude → Magnitude
  | finite m₁ e₁, finite m₂ e₂ =>
    let left := ratio m₁ e₁
    let right := ratio m₂ e₂
    ofRatio (left.1 * right.2 + right.1 * left.2) (left.2 * right.2)
  | _, _ => infinite

/-- The rounded product with a finite factor. -/
def mul : Magnitude → Magnitude → Magnitude
  | finite m₁ e₁, finite m₂ e₂ =>
    let left := ratio m₁ e₁
    let right := ratio m₂ e₂
    ofRatio (left.1 * right.1) (left.2 * right.2)
  | _, _ => infinite

/-- The rounded quotient by a positive finite divisor. -/
def div : Magnitude → Magnitude → Magnitude
  | finite m₁ e₁, finite m₂ e₂ =>
    let left := ratio m₁ e₁
    let right := ratio m₂ e₂
    ofRatio (left.1 * right.2) (left.2 * right.1)
  | _, _ => infinite

/-- The value is zero. -/
def isZero : Magnitude → Bool
  | finite mantissa _ => mantissa == 0
  | infinite => false

/-- The value nearest to a power of ten. -/
def powerOfTen (exponent : Nat) : Magnitude := ofDecimal 1 exponent

end Magnitude

/-- A number of the 64-bit binary floating-point format, with its sign. -/
structure Real64 where
  /-- The sign is a minus. -/
  negative : Bool
  /-- The value without its sign. -/
  magnitude : Magnitude
  deriving DecidableEq, Repr

end Decimal
end LinkFacts
