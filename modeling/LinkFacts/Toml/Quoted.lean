import LinkFacts.Text.Escape

/-!
# Quoted texts in TOML

Basic texts stand between double quotes and know escapes, literal texts stand between single quotes
and know none.  Three quotes open a text of several lines, whose line ends become line feeds; up to
two quotes more at its end belong to the text.
-/

namespace LinkFacts
namespace Toml

open Text

/-- What was read from the front of a source, and what is left. -/
abbrev Read (α : Type) := Option (α × List Char)

/-- Puts a character in front of what was read. -/
def Read.cons (c : Char) (read : Read (List Char)) : Read (List Char) :=
  read.map fun taken => (c :: taken.1, taken.2)

/-- A blank within a line. -/
def isSpace (c : Char) : Bool := c == ' ' || c == '\t'

/-- A character that may occur in a comment and, apart from quotes and backslashes, in a text. -/
def isPrintable (c : Char) : Bool := c == '\t' || (0x20 ≤ c.toNat && c.toNat != 0x7F)

/-- The text after its leading spaces and tabs. -/
def skipSpace (source : List Char) : List Char := source.dropWhile isSpace

/-- What follows a line end, if the text starts with one. -/
def lineEnd? : List Char → Option (List Char)
  | '\n' :: rest => some rest
  | '\r' :: '\n' :: rest => some rest
  | _ => none

/-- Reads a basic text after its opening quote. -/
def readBasic (source : List Char) : Read (List Char) :=
  match source with
  | [] => none
  | '"' :: rest => some ([], rest)
  | '\\' :: rest =>
    match h : readEscape rest with
    | some (c, rest') =>
      have : rest'.length < rest.length := readEscape_length h
      (readBasic rest').cons c
    | none => none
  | c :: rest => if isPrintable c then Read.cons c (readBasic rest) else none
termination_by source.length

/-- Reads a literal text after its opening quote. -/
def readLiteral : List Char → Read (List Char)
  | [] => none
  | '\'' :: rest => some ([], rest)
  | c :: rest => if isPrintable c then (readLiteral rest).cons c else none

/-- What stands at the end of a text of several lines after its three closing quotes: quotes that
still belong to it. -/
def readClosing (quote : Char) : List Char → List Char × List Char
  | a :: b :: rest =>
    if a = quote then
      if b = quote then ([a, b], rest) else ([a], b :: rest)
    else ([], a :: b :: rest)
  | [a] => if a = quote then ([a], []) else ([], [a])
  | [] => ([], [])

/-- Nothing but blanks stands before the next line end. -/
def endsLine (source : List Char) : Bool := (lineEnd? (skipSpace source)).isSome

/-- Reads a basic text of several lines; while `skipping`, blanks and line ends are left out. -/
def readBasicLines (skipping : Bool) (source : List Char) : Read (List Char) :=
  match source with
  | [] => none
  | '"' :: '"' :: '"' :: rest => some (readClosing '"' rest)
  | '\n' :: rest =>
    if skipping then readBasicLines true rest else (readBasicLines false rest).cons '\n'
  | '\r' :: '\n' :: rest =>
    if skipping then readBasicLines true rest else (readBasicLines false rest).cons '\n'
  | '\\' :: rest =>
    if endsLine rest then readBasicLines true rest
    else
      match h : readEscape rest with
      | some (c, rest') =>
        have : rest'.length < rest.length := readEscape_length h
        (readBasicLines false rest').cons c
      | none => none
  | c :: rest =>
    if skipping && isSpace c then readBasicLines true rest
    else if isPrintable c then (readBasicLines false rest).cons c
    else none
termination_by source.length

/-- Reads a literal text of several lines. -/
def readLiteralLines : List Char → Read (List Char)
  | [] => none
  | '\'' :: '\'' :: '\'' :: rest => some (readClosing '\'' rest)
  | '\n' :: rest => (readLiteralLines rest).cons '\n'
  | '\r' :: '\n' :: rest => (readLiteralLines rest).cons '\n'
  | c :: rest => if isPrintable c then (readLiteralLines rest).cons c else none

/-- The text without a line end at its front. -/
def skipLineEnd (source : List Char) : List Char := (lineEnd? source).getD source

/-- Reads a quoted text of any kind. -/
def readText : List Char → Read (List Char)
  | '"' :: '"' :: '"' :: rest => readBasicLines false (skipLineEnd rest)
  | '"' :: rest => readBasic rest
  | '\'' :: '\'' :: '\'' :: rest => readLiteralLines (skipLineEnd rest)
  | '\'' :: rest => readLiteral rest
  | _ => none

end Toml
end LinkFacts
