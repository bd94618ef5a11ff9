import LinkFacts.Facts.Basic
import LinkFacts.Json.Document

/-!
# Facts as documents

Facts are written as a JSON object of texts.  They are read from an object whose values are texts,
numbers and truth values; every one of them becomes a text.
-/

namespace LinkFacts
namespace Facts

open Json

/-- The text of a value that a fact may have. -/
def scalarText? : Value → Option String
  | .text value => some value
  | .number value => some (String.ofList value.write)
  | .flag true => some "true"
  | .flag false => some "false"
  | _ => none

/-- Reads the value of a fact. -/
def readScalarText (depth : Nat) : Reader String := fun source =>
  match readValue depth source with
  | .error fault => .error fault
  | .ok taken =>
    match scalarText? taken.value with
    | some text => .ok (taken.map fun _ => text)
    | none => .error .unsuitable

/-- Reads facts; a later member replaces an earlier one with its key. -/
def read (depth : Nat) : Reader Facts := fun source =>
  match readObject readScalarText depth source with
  | .error fault => .error fault
  | .ok taken => .ok (taken.map ofList)

/-- The facts of a document. -/
def ofJson (text : String) : Except Fault Facts :=
  readDocument (read greatestDepth) text.toList

/-- The members of an object, separated by commas. -/
def writeMembers : List (String × String) → List Char
  | [] => []
  | [(key, value)] => quote key ++ ':' :: quote value
  | (key, value) :: rest => quote key ++ ':' :: quote value ++ ',' :: writeMembers rest

/-- The facts as a compact document. -/
def toJson (facts : Facts) : String :=
  String.ofList ('{' :: writeMembers facts.entries ++ ['}'])

end Facts
end LinkFacts
