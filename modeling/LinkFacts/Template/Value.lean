import LinkFacts.Decimal.Layout
import LinkFacts.Text.Digits

/-!
# Values of templates

The values that expressions of templates have, what counts as true, and how a value is written.
-/

namespace LinkFacts
namespace Template

open Decimal

/-- The value of an expression. -/
inductive Value where
  | none
  | flag (value : Bool)
  | integer (value : Int)
  | real (value : Real64)
  | text (value : String)
  | list (items : List Value)
  /-- Entries in ascending key order. -/
  | map (entries : List (String × Value))

namespace Value

/-- A value that counts as true in a condition. -/
def isTruthy : Value → Bool
  | none => false
  | flag value => value
  | integer value => value != 0
  | real value => !value.magnitude.isZero
  | text value => !value.isEmpty
  | list items => !items.isEmpty
  | map entries => !entries.isEmpty

/-- The text of a value; lists and maps have none. -/
def write? : Value → Option String
  | none => some ""
  | flag true => some "true"
  | flag false => some "false"
  | integer value =>
    some (String.ofList (signed (decide (value < 0)) (Nat.toDigits 10 value.natAbs)))
  | real value => some (String.ofList (signed value.negative (plain value.magnitude)))
  | text value => some value
  | list _ => Option.none
  | map _ => Option.none

end Value

/-- Puts an entry into a map in place of an earlier one. -/
def insertEntry {α : Type} (key : String) (value : α) : List (String × α) → List (String × α)
  | [] => [(key, value)]
  | entry :: rest =>
    if key < entry.1 then (key, value) :: entry :: rest
    else if entry.1 < key then entry :: insertEntry key value rest
    else (key, value) :: rest

/-- Integers of templates lie within 64 bits. -/
def integerOf? (negative : Bool) (value : Nat) : Option Value :=
  if negative then if value ≤ Nat.pow 2 63 then some (.integer (-(value : Int))) else none
  else if value < Nat.pow 2 63 then some (.integer value) else none

/-- The exponent of a number after its mark. -/
def readExponent? : List Char → Option Int
  | '-' :: digits => (Text.readDigits? 10 digits).map fun value => -(value : Int)
  | '+' :: digits => (Text.readDigits? 10 digits).map fun value => (value : Int)
  | digits => (Text.readDigits? 10 digits).map fun value => (value : Int)

/-- An exponent mark. -/
def isExponentMark (c : Char) : Bool := c == 'e' || c == 'E'

/-- The double that a decimal denotes. -/
def readReal? (source : List Char) : Option Magnitude :=
  let mantissa := source.takeWhile (!isExponentMark ·)
  let whole := mantissa.takeWhile (· != '.')
  let fraction := (mantissa.drop whole.length).drop 1
  let exponent? :=
    match source.drop mantissa.length with
    | [] => some 0
    | _ :: digits => readExponent? digits
  match Text.readDigits? 10 (whole ++ fraction), exponent? with
  | some digits, some exponent => some (Magnitude.ofDecimal digits (exponent - fraction.length))
  | _, _ => none

/-- An integer in a radix other than ten. -/
def readInRadix? (radix : Nat) (negative : Bool) (digits : List Char) : Option Value :=
  (Text.readDigits? radix digits).bind (integerOf? negative)

/-- The value of a number that is written with digits, underscores, a point and an exponent. -/
def readNumber? (negative : Bool) (written : List Char) : Option Value :=
  match written.filter (· != '_') with
  | '0' :: 'x' :: digits => readInRadix? 16 negative digits
  | '0' :: 'o' :: digits => readInRadix? 8 negative digits
  | '0' :: 'b' :: digits => readInRadix? 2 negative digits
  | digits =>
    match readInRadix? 10 negative digits with
    | some value => some value
    | none => (readReal? digits).map fun magnitude => .real ⟨negative, magnitude⟩

end Template
end LinkFacts
