import LinkFacts.Decimal.Shortest

/-!
# Layout of decimal digits

Where the point stands, and when an exponent is written.  `Layout` is the record of a format's
decisions; `positional` and `withPlaces` write plain and fixed-point text.
-/

namespace LinkFacts
namespace Decimal

/-- How a format writes a double. -/
structure Layout where
  /-- The least decimal exponent of the leading digit that is written positionally. -/
  leastPositional : Int
  /-- The greatest decimal exponent of the leading digit that is written positionally. -/
  greatestPositional : Int

/-- Digits with a point after the digit of weight one. -/
def positional (number : Scientific) : List Char :=
  let digits := Nat.toDigits 10 number.digits
  if 0 ≤ number.exponent then
    if number.digits = 0 then ['0'] else digits ++ List.replicate number.exponent.toNat '0'
  else
    let places := (-number.exponent).toNat
    let padded := List.replicate (places + 1 - digits.length) '0' ++ digits
    padded.take (padded.length - places) ++ '.' :: padded.drop (padded.length - places)

/-- Drops the zeros at the end of the digits and counts them into the exponent. -/
def Scientific.normalize (number : Scientific) : Scientific :=
  let digits := Nat.toDigits 10 number.digits
  let zeros := (digits.reverse.takeWhile (· == '0')).length
  if number.digits = 0 then ⟨0, 0⟩ else ⟨number.digits / Nat.pow 10 zeros, number.exponent + zeros⟩

/-- The decimal exponent of the leading digit. -/
def Scientific.leading (number : Scientific) : Int :=
  ((Nat.toDigits 10 number.digits).length : Int) - 1 + number.exponent

/-- An exponent with a sign. -/
def signedExponent (exponent : Int) : List Char :=
  (if exponent < 0 then '-' else '+') :: Nat.toDigits 10 exponent.natAbs

/-- Mantissa digits with a point after the first, and the exponent. -/
def exponential (number : Scientific) : List Char :=
  match Nat.toDigits 10 number.digits with
  | [] => []
  | [digit] => digit :: 'e' :: writeExponent
  | digit :: more => digit :: '.' :: more ++ 'e' :: writeExponent
where
  /-- The exponent of the leading digit. -/
  writeExponent : List Char := signedExponent number.leading

/-- Positional text with at least one decimal. -/
def positionalWithPoint (number : Scientific) : List Char :=
  let text := positional number
  if text.contains '.' then text else text ++ ['.', '0']

/-- The text of a magnitude in a layout that always marks it as a fraction. -/
def Layout.write (layout : Layout) : Magnitude → List Char
  | .infinite => ['i', 'n', 'f']
  | .finite mantissa exponent =>
    let number := (shortest mantissa exponent).normalize
    if layout.leastPositional ≤ number.leading && number.leading ≤ layout.greatestPositional then
      positionalWithPoint number
    else exponential number

/-- The shortest text of a magnitude without an exponent. -/
def plain : Magnitude → List Char
  | .infinite => ['i', 'n', 'f']
  | .finite mantissa exponent => positional (shortest mantissa exponent).normalize

/-- A finite value rounded to a number of decimal places, a half to the even neighbour. -/
def withPlaces (places : Nat) : Magnitude → List Char
  | .infinite => ['i', 'n', 'f']
  | .finite mantissa exponent =>
    let fraction := Magnitude.ratio mantissa exponent
    positional ⟨divideToEven (fraction.1 * Nat.pow 10 places) fraction.2, -(places : Int)⟩

/-- Puts a minus before the text of a negative number. -/
def signed (negative : Bool) (text : List Char) : List Char :=
  if negative then '-' :: text else text

end Decimal
end LinkFacts
