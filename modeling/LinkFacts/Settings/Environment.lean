import LinkFacts.Decimal.Reading
import LinkFacts.Settings.Value
import LinkFacts.Text.Blank
import LinkFacts.Text.Escape

/-!
# Settings in the environment

Variables whose names start with a common beginning give settings.  A variable holds a truth value,
a number, a quoted text, a list, a table, or else the text that it is; what cannot be read to its
end is text as it stands.
-/

namespace LinkFacts
namespace Settings
namespace Environment

open Text

/-- The ASCII characters that may surround a value. -/
def isSpace (c : Char) : Bool :=
  c == ' ' || c == '\t' || c == '\n' || c == '\r' || c.toNat == 0x0C

/-- A character that separates the parts of lists and tables. -/
def isSeparator (c : Char) : Bool :=
  c == ',' || c == '{' || c == '}' || c == '[' || c == ']'

/-- A character of a key that needs no quotes. -/
def isKeyCharacter (c : Char) : Bool := isAlphanumeric c || c == '_' || c == '-'

/-- The characters up to the closing quote, escapes as they stand, and what follows the quote. -/
def splitQuoted : List Char → Option (List Char × List Char)
  | [] => none
  | '"' :: rest => some ([], rest)
  | '\\' :: c :: rest => (splitQuoted rest).map fun split => ('\\' :: c :: split.1, split.2)
  | c :: rest => (splitQuoted rest).map fun split => (c :: split.1, split.2)

/-- The text that characters with escapes stand for. -/
def unescape (source : List Char) : Option (List Char) :=
  match source with
  | [] => some []
  | '\\' :: rest =>
    match h : readEscape rest with
    | some (c, rest') =>
      have : rest'.length < rest.length := readEscape_length h
      (unescape rest').map (c :: ·)
    | none => none
  | c :: rest => (unescape rest).map (c :: ·)
termination_by source.length

/-- Reads a quoted text after its opening quote. -/
def readQuoted (source : List Char) : Option (String × List Char) :=
  (splitQuoted source).bind fun split =>
    (unescape split.1).map fun text => (String.ofList text, split.2)

/-- Reads a key. -/
def readKey : List Char → Option (String × List Char)
  | '"' :: rest => readQuoted rest
  | source =>
    let key := source.takeWhile isKeyCharacter
    if key.isEmpty then none else some (String.ofList key, source.dropWhile isKeyCharacter)

/-- An integer that fits into 64 bits, with or without a sign. -/
def fits (value : Int) : Bool := -(Nat.pow 2 63 : Int) ≤ value && value < (Nat.pow 2 64 : Int)

/-- The value that an unquoted text stands for. -/
def bareValue (bare : List Char) : Value :=
  if bare.contains '.' && (Decimal.readMagnitude? (Decimal.dropSign bare)).isSome then .real
  else
    match (Decimal.readInteger? bare).filter fits with
    | some value => .integer value
    | none => .text (String.ofList bare)

/-- Leaves the space after a value out. -/
def finish (value : Value) (rest : List Char) : Option (Value × List Char) :=
  some (value, rest.dropWhile isSpace)

mutual

/-- Reads a value and the space around it; the first argument bounds the nesting. -/
def readValue : Nat → List Char → Option (Value × List Char)
  | 0, _ => none
  | depth + 1, source =>
    match source.dropWhile isSpace with
    | 't' :: 'r' :: 'u' :: 'e' :: rest => finish (.flag true) rest
    | 'f' :: 'a' :: 'l' :: 's' :: 'e' :: rest => finish (.flag false) rest
    | '{' :: rest =>
      (readEntries depth rest).bind fun read => finish (.table (Layer.ofEntries read.1)) read.2
    | '[' :: rest => (readItems depth rest).bind fun read => finish (.list read.1) read.2
    | '"' :: rest => (readQuoted rest).bind fun read => finish (.text read.1) read.2
    | '\'' :: c :: '\'' :: rest => finish (.text (String.singleton c)) rest
    | '\'' :: _ => none
    | bare =>
      finish (bareValue (strip isBlank (bare.takeWhile (!isSeparator ·))))
        (bare.dropWhile (!isSeparator ·))

/-- Reads the values of a list up to its closing bracket. -/
def readItems : Nat → List Char → Option (List Value × List Char)
  | _, ']' :: rest => some ([], rest)
  | 0, _ => none
  | depth + 1, source =>
    match readValue depth source with
    | some (value, ',' :: rest) =>
      (readItems depth rest).map fun read => (value :: read.1, read.2)
    | some (value, ']' :: rest) => some ([value], rest)
    | _ => none

/-- Reads the entries of a table up to its closing brace. -/
def readEntries : Nat → List Char → Option (List (String × Value) × List Char)
  | _, '}' :: rest => some ([], rest)
  | 0, _ => none
  | depth + 1, source =>
    match readKey (source.dropWhile isSpace) with
    | none => none
    | some (key, after) =>
      match after.dropWhile isSpace with
      | '=' :: written =>
        match readValue depth written with
        | some (value, ',' :: rest) =>
          (readEntries depth rest).map fun read => ((key, value) :: read.1, read.2)
        | some (value, '}' :: rest) => some ([(key, value)], rest)
        | _ => none
      | _ => none

end

/-- The value of a variable. -/
def parse (content : String) : Value :=
  match readValue (2 * content.length + 2) content.toList with
  | some (value, []) => value
  | _ => .text content

/-- What the names of variables that give settings start with, in lower case. -/
def beginning : List Char := "srcfacts_".toList

/-- The components of the setting that a variable gives. -/
def keyOf? (variableName : String) : Option (List (List Char)) :=
  let name := strip isBlank variableName.toList
  if (name.take beginning.length).map lowerAscii = beginning then
    let parts := (strip isBlank (name.drop beginning.length)).splitOn '.'
    if parts.any List.isEmpty then none else some (parts.map (·.map lowerAscii))
  else none

/-- A value below the keys of the tables that contain it. -/
def nest (value : Value) : List (List Char) → Value
  | [] => value
  | key :: keys => .table [(String.ofList key, nest value keys)]

/-- The entry of a variable. -/
def entryOf? (variableName content : String) : Option (String × Value) :=
  match keyOf? variableName with
  | some (key :: keys) => some (String.ofList key, nest (parse content) keys)
  | _ => none

/-- The settings that variables give. -/
def layer (environment : List (String × String)) : Layer :=
  Layer.ofEntries (environment.filterMap fun entry => entryOf? entry.1 entry.2)

end Environment
end Settings
end LinkFacts
