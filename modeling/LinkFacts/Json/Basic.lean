import LinkFacts.Decimal.Layout

/-!
# JSON values

Values of JSON documents, the numbers they hold, and the ways in which a document can be refused.
-/

namespace LinkFacts
namespace Json

/-- A number of a document: an integer within 64 bits, or a double. -/
inductive Number where
  /-- A natural number below `2 ^ 64`. -/
  | natural (value : Nat)
  /-- The negative integer `-value`, down to `-2 ^ 63`. -/
  | negative (value : Nat)
  /-- Everything else. -/
  | real (value : Decimal.Real64)
  deriving DecidableEq, Repr

/-- A value of a document.  Members keep their order and may repeat a key. -/
inductive Value where
  | null
  | flag (value : Bool)
  | number (value : Number)
  | text (value : String)
  | list (items : List Value)
  | object (members : List (String × Value))

/-- Why a document is refused. -/
inductive Fault where
  /-- The text ends too early. -/
  | unfinished
  /-- The text is no JSON. -/
  | malformed
  /-- The text is well formed so far, but the value is of the wrong type. -/
  | unsuitable
  deriving DecidableEq, Repr

/-- Doubles are written positionally from `0.00001` up to below `1e16`. -/
def layout : Decimal.Layout := ⟨-5, 15⟩

/-- The text of a number. -/
def Number.write : Number → List Char
  | .natural value => Nat.toDigits 10 value
  | .negative value => '-' :: Nat.toDigits 10 value
  | .real value => Decimal.signed value.negative (layout.write value.magnitude)

end Json
end LinkFacts
