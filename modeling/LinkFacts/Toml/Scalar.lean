import LinkFacts.Decimal.Reading
import LinkFacts.Settings.Value
import LinkFacts.Toml.Quoted

/-!
# Numbers, dates and times in TOML

Digits may be grouped by single underscores.  Integers have 64 bits; a decimal integer has no
leading zero.  Dates and times must exist, and nothing is kept of them but that.
-/

namespace LinkFacts
namespace Toml

open Settings (Value)
open Text

/-- Reads the digits that continue a number, without the underscores between them. -/
def readMoreDigits (radix : Nat) : List Char → Read (List Char)
  | '_' :: c :: rest => if isDigitOf radix c then (readMoreDigits radix rest).cons c else none
  | ['_'] => none
  | c :: rest =>
    if isDigitOf radix c then (readMoreDigits radix rest).cons c else some ([], c :: rest)
  | [] => some ([], [])

/-- Reads a nonempty list of digits. -/
def readDigitRun (radix : Nat) : List Char → Read (List Char)
  | c :: rest => if isDigitOf radix c then (readMoreDigits radix rest).cons c else none
  | [] => none

/-- Reads digits without a leading zero. -/
def readWhole : List Char → Read (List Char)
  | '0' :: rest => some (['0'], rest)
  | source => readDigitRun 10 source

/-- An integer of 64 bits. -/
def integerOf? (negative : Bool) (value : Nat) : Option Value :=
  if negative then if value ≤ Nat.pow 2 63 then some (.integer (-(value : Int))) else none
  else if value < Nat.pow 2 63 then some (.integer value) else none

/-- Reads an integer in a radix other than ten after its mark. -/
def readRadix (radix : Nat) (source : List Char) : Read Value :=
  (readDigitRun radix source).bind fun digits =>
    (integerOf? false (foldDigits radix 0 digits.1)).map fun value => (value, digits.2)

/-- Reads the places after a point. -/
def readPlaces : List Char → Read (List Char)
  | '.' :: rest => readDigitRun 10 rest
  | source => some ([], source)

/-- Reads an exponent after its mark. -/
def readPower : List Char → Read Int
  | '-' :: rest =>
    (readDigitRun 10 rest).map fun digits => (-(foldDigits 10 0 digits.1 : Int), digits.2)
  | '+' :: rest =>
    (readDigitRun 10 rest).map fun digits => ((foldDigits 10 0 digits.1 : Int), digits.2)
  | source =>
    (readDigitRun 10 source).map fun digits => ((foldDigits 10 0 digits.1 : Int), digits.2)

/-- Reads an exponent if there is one. -/
def readExponent : List Char → Read Int
  | 'e' :: rest => readPower rest
  | 'E' :: rest => readPower rest
  | source => some (0, source)

/-- A number with a fraction or an exponent; only a negative one may be too great. -/
def realOf? (negative : Bool) (digits : List Char) (exponent : Int) : Option Value :=
  match Decimal.Magnitude.ofDecimal (foldDigits 10 0 digits) exponent with
  | .infinite => if negative then some .real else none
  | .finite _ _ => some .real

/-- Text that goes on with a fraction or an exponent. -/
def isRealMark (source : List Char) : Bool :=
  match source with
  | c :: _ => c == '.' || c == 'e' || c == 'E'
  | [] => false

/-- Reads a decimal number after its sign. -/
def readDecimal (negative : Bool) (source : List Char) : Read Value :=
  (readWhole source).bind fun whole =>
    if isRealMark whole.2 then
      (readPlaces whole.2).bind fun places =>
        (readExponent places.2).bind fun power =>
          (realOf? negative (whole.1 ++ places.1) (power.1 - places.1.length)).map fun value =>
            (value, power.2)
    else (integerOf? negative (foldDigits 10 0 whole.1)).map fun value => (value, whole.2)

/-- Reads a number after its sign. -/
def readUnsigned (negative : Bool) : List Char → Read Value
  | 'i' :: 'n' :: 'f' :: rest => some (.real, rest)
  | 'n' :: 'a' :: 'n' :: rest => some (.real, rest)
  | source => readDecimal negative source

/-- Reads a number. -/
def readNumber : List Char → Read Value
  | '0' :: 'x' :: rest => readRadix 16 rest
  | '0' :: 'o' :: rest => readRadix 8 rest
  | '0' :: 'b' :: rest => readRadix 2 rest
  | '-' :: rest => readUnsigned true rest
  | '+' :: rest => readUnsigned false rest
  | source => readUnsigned false source

/-- Reads a number of exactly the given width within bounds. -/
def readBounded (width least greatest : Nat) (source : List Char) : Read Nat :=
  (readDigits? 10 (source.take width)).bind fun value =>
    if (source.take width).length = width ∧ least ≤ value ∧ value ≤ greatest then
      some (value, source.drop width)
    else none

/-- Leaves a character out. -/
def expect (c : Char) : List Char → Option (List Char)
  | d :: rest => if c = d then some rest else none
  | [] => none

/-- How many days a month has. -/
def daysOf (year month : Nat) : Nat :=
  if month = 2 then
    if year % 4 = 0 ∧ (year % 100 ≠ 0 ∨ year % 400 = 0) then 29 else 28
  else if month = 4 ∨ month = 6 ∨ month = 9 ∨ month = 11 then 30
  else 31

/-- Leaves a date out. -/
def skipDate (source : List Char) : Option (List Char) := do
  let (year, afterYear) ← readBounded 4 0 9999 source
  let (month, afterMonth) ← readBounded 2 1 12 (← expect '-' afterYear)
  let (_, rest) ← readBounded 2 1 (daysOf year month) (← expect '-' afterMonth)
  return rest

/-- Leaves an hour and a minute out. -/
def skipMinutes (source : List Char) : Option (List Char) := do
  let (_, afterHour) ← readBounded 2 0 23 source
  let (_, rest) ← readBounded 2 0 59 (← expect ':' afterHour)
  return rest

/-- Leaves decimal places out. -/
def skipFraction : List Char → List Char
  | '.' :: c :: rest => if isDecimal c then rest.dropWhile isDecimal else '.' :: c :: rest
  | source => source

/-- Leaves a time out. -/
def skipTime (source : List Char) : Option (List Char) := do
  let afterMinute ← skipMinutes source
  let (_, rest) ← readBounded 2 0 60 (← expect ':' afterMinute)
  return skipFraction rest

/-- Leaves the distance to universal time out. -/
def skipZone : List Char → List Char
  | 'Z' :: rest => rest
  | 'z' :: rest => rest
  | '+' :: rest => (skipMinutes rest).getD ('+' :: rest)
  | '-' :: rest => (skipMinutes rest).getD ('-' :: rest)
  | source => source

/-- A character between a date and a time. -/
def isTimeMark (c : Char) : Bool := c == 'T' || c == 't' || c == ' '

/-- Leaves the time after a date out. -/
def skipDayTime (source : List Char) : List Char :=
  match source with
  | c :: rest => if isTimeMark c then ((skipTime rest).map skipZone).getD source else source
  | [] => source

/-- Leaves a date, a time or both out. -/
def skipMoment (source : List Char) : Option (List Char) :=
  match skipDate source with
  | some rest => some (skipDayTime rest)
  | none => skipTime source

/-- Reads a value other than a list or a table. -/
def readScalar (source : List Char) : Read Value :=
  match source with
  | '"' :: _ => (readText source).map fun read => (.text (String.ofList read.1), read.2)
  | '\'' :: _ => (readText source).map fun read => (.text (String.ofList read.1), read.2)
  | 't' :: 'r' :: 'u' :: 'e' :: rest => some (.flag true, rest)
  | 'f' :: 'a' :: 'l' :: 's' :: 'e' :: rest => some (.flag false, rest)
  | _ =>
    match skipMoment source with
    | some rest => some (.moment, rest)
    | none => readNumber source

end Toml
end LinkFacts
