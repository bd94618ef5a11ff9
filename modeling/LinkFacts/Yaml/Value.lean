import LinkFacts.Decimal.Reading
import LinkFacts.Settings.Value
import LinkFacts.Yaml.Node

/-!
# Settings in YAML documents

A plain scalar without a tag is nothing, a truth value, an integer, another number, or else text.  A
standard tag says which of these it has to be; no setting has a tag of another kind.
-/

namespace LinkFacts
namespace Yaml

open Settings (Value Layer)
open Text

/-- The plain scalars that stand for nothing. -/
def isNothing (text : String) : Bool := ["null", "Null", "NULL", "~"].contains text

/-- The truth value that a scalar is. -/
def flag? (text : String) : Option Bool :=
  if ["true", "True", "TRUE"].contains text then some true
  else if ["false", "False", "FALSE"].contains text then some false
  else none

/-- Digits with a needless zero in front are no number. -/
def hasLeadingZero (text : List Char) : Bool :=
  match Decimal.dropSign text with
  | '0' :: c :: rest => (c :: rest).all isDecimal
  | _ => false

/-- The number after the mark of a radix. -/
def readMarked? : List Char → Option Nat
  | '0' :: 'x' :: digits => readDigits? 16 digits
  | '0' :: 'o' :: digits => readDigits? 8 digits
  | '0' :: 'b' :: digits => readDigits? 2 digits
  | _ => none

/-- The integer that a scalar is. -/
def integer? (text : List Char) : Option Int :=
  let sign : Int := if text.head? = some '-' then -1 else 1
  match readMarked? (Decimal.dropSign text) with
  | some value => some (sign * value)
  | none => if hasLeadingZero text then none else Decimal.readInteger? text

/-- The names of numbers that have no digits. -/
def isNamedReal (text : String) : Bool :=
  [".inf", ".Inf", ".INF", "+.inf", "+.Inf", "+.INF", "-.inf", "-.Inf", "-.INF", ".nan", ".NaN",
    ".NAN"].contains text

/-- The scalar is a number with a fraction or an exponent that is not too great. -/
def isReal (text : List Char) : Bool :=
  isNamedReal (String.ofList text) ||
    match Decimal.readMagnitude? (Decimal.dropSign text) with
    | some (.finite _ _) => true
    | _ => false

/-- An integer of at most 128 bits. -/
def fits (value : Int) : Bool := -(Nat.pow 2 127 : Int) ≤ value && value < (Nat.pow 2 128 : Int)

/-- The integer of at most 128 bits that a scalar is. -/
def boundedInteger? (text : List Char) : Option Int := (integer? text).filter fits

/-- The value of a plain scalar without a tag. -/
def plainValue (text : List Char) : Value :=
  let written := String.ofList text
  if text.isEmpty || isNothing written then .nothing
  else
    match flag? written, boundedInteger? text with
    | some flag, _ => .flag flag
    | none, some value => .integer value
    | none, none => if !hasLeadingZero text && isReal text then .real else .text written

/-- What the standard tags start with. -/
def standardTag (name : String) : String := "tag:yaml.org,2002:" ++ name

/-- A tag that the document defines for itself. -/
def isLocalTag (tag : String) : Bool := tag.toList.head? == some '!'

/-- The value of a scalar with a tag. -/
def taggedValue (tag : String) (text : List Char) : Option Value :=
  let written := String.ofList text
  if tag = standardTag "bool" then (flag? written).map .flag
  else if tag = standardTag "int" then (boundedInteger? text).map .integer
  else if tag = standardTag "float" then if isReal text then some .real else none
  else if tag = standardTag "null" then if isNothing written then some .nothing else none
  else some (.text written)

/-- The key that a node is. -/
def Node.key? : Node → Option String
  | .scalar _ _ text => some (String.ofList text)
  | _ => none

/-- The layer of the entries of a mapping. -/
def entryLayer? (read : Node → Option Value) (entries : List (Node × Node)) : Option Layer :=
  let readEntry : Node × Node → Option (String × Value) := fun entry =>
    entry.1.key?.bind fun key => (read entry.2).map fun value => (key, value)
  (entries.mapM readEntry).map Layer.ofEntries

/-- The value of a node whose collections nest at most `depth` deep. -/
def Node.value? : Nat → Node → Option Value
  | _, .scalar tag plain text =>
    match tag with
    | some tag => if isLocalTag tag then none else taggedValue tag text
    | none => some (if plain then plainValue text else .text (String.ofList text))
  | 0, _ => none
  | depth + 1, .sequence tag items =>
    if tag.any isLocalTag then none else (items.mapM (Node.value? depth)).map .list
  | depth + 1, .mapping tag entries =>
    if tag.any isLocalTag then none
    else (entryLayer? (Node.value? depth) entries).map .table

/-- How deep collections may nest below the root of a document. -/
def greatestDepth : Nat := 127

/-- The settings of a document: the entries of a mapping, or none if nothing is written. -/
def rootLayer? : Node → Option Layer
  | .scalar _ plain text => if plain && text.isEmpty then some [] else none
  | .sequence _ _ => none
  | .mapping _ entries => entryLayer? (Node.value? greatestDepth) entries

/-- The settings of a text with at most one document. -/
def layer? (text : List Char) : Option Layer :=
  match parse text with
  | none => none
  | some none => some []
  | some (some root) => rootLayer? root

end Yaml
end LinkFacts
