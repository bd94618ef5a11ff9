import LinkFacts.Decimal.Binary64
import LinkFacts.Text.Digits

/-!
# Reading decimals

Integers with a sign, and decimals with a point and an exponent, as configuration texts write them.
-/

namespace LinkFacts
namespace Decimal

open Text

/-- The integer that an optional sign and a nonempty list of digits denote. -/
def readInteger? : List Char → Option Int
  | '-' :: digits => (readDigits? 10 digits).map fun value => -(value : Int)
  | '+' :: digits => (readDigits? 10 digits).map fun value => (value : Int)
  | digits => (readDigits? 10 digits).map fun value => (value : Int)

/-- The exponent that a mark and an integer denote; without a mark it is zero. -/
def readExponent? : List Char → Option Int
  | [] => some 0
  | mark :: rest => if mark == 'e' || mark == 'E' then readInteger? rest else none

/-- The double nearest to a decimal without a sign: digits before a point, after it, or both, and
an optional exponent. -/
def readMagnitude? (source : List Char) : Option Magnitude :=
  let whole := source.takeWhile isDecimal
  let tail := source.dropWhile isDecimal
  let places := if tail.head? = some '.' then tail.drop 1 else []
  let fraction := places.takeWhile isDecimal
  let power := if tail.head? = some '.' then places.dropWhile isDecimal else tail
  match readDigits? 10 (whole ++ fraction), readExponent? power with
  | some digits, some exponent => some (.ofDecimal digits (exponent - fraction.length))
  | _, _ => none

/-- A text without its sign. -/
def dropSign : List Char → List Char
  | '-' :: rest => rest
  | '+' :: rest => rest
  | source => source

end Decimal
end LinkFacts
