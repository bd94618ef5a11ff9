import LinkFacts.Decimal.Layout
import LinkFacts.Text.Blank
import LinkFacts.Text.Digits

/-!
# Compact counts

Counts of a thousand and more are shown in thousands with at most one decimal: `1204` becomes
`1.2k`.  A text that is no count stays as it is.
-/

namespace LinkFacts
namespace Render

open Decimal

/-- Counts lie below this bound. -/
def countBound : Nat := Nat.pow 2 64

/-- The count that a text denotes: digits after an optional plus, between blank characters. -/
def readCount? (text : String) : Option Nat :=
  let digits :=
    match Text.strip Text.isBlank text.toList with
    | '+' :: rest => rest
    | other => other
  match Text.readDigits? 10 digits with
  | some count => if count < countBound then some count else none
  | none => none

/-- One decimal is shown unless the count rounds to whole thousands. -/
def decimals (count : Nat) : Nat := if 99 < (count - 950) % 1000 then 1 else 0

/-- A count in thousands, as a double a little above the exact quotient. -/
def thousands (count : Nat) : Magnitude :=
  ((Magnitude.ofNat count).add (Magnitude.ofDecimal 1 (-6))).div (Magnitude.ofNat 1000)

/-- The characters of a count. -/
def writeCount (count : Nat) : List Char :=
  if count ≤ 999 then Text.writeDigits 10 count
  else withPlaces (decimals count) (thousands count) ++ ['k']

/-- Shortens a count to at most one decimal place in thousands. -/
def compact (text : String) : String :=
  match readCount? text with
  | some count => String.ofList (writeCount count)
  | none => text

end Render
end LinkFacts
