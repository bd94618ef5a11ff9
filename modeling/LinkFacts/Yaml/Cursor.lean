/-!
# Places in a YAML text

A cursor is what is left of a text together with the line and the column that were reached.  Besides
line feeds and carriage returns three more characters end a line.
-/

namespace LinkFacts
namespace Yaml

/-- A blank within a line. -/
def isSpace (c : Char) : Bool := c == ' ' || c == '\t'

/-- A character that ends a line. -/
def isBreak (c : Char) : Bool :=
  c == '\n' || c == '\r' || c.toNat == 0x85 || c.toNat == 0x2028 || c.toNat == 0x2029

/-- A blank or a line end. -/
def isGap (c : Char) : Bool := isSpace c || isBreak c

/-- The mark of an encoding, which may stand at the start of a line. -/
def isMark (c : Char) : Bool := c.toNat == 0xFEFF

/-- A character that may occur in a text at all. -/
def isAllowed (c : Char) : Bool :=
  let code := c.toNat
  code == 0x09 || code == 0x0A || code == 0x0D || (0x20 ≤ code && code ≤ 0x7E) || code == 0x85 ||
    (0xA0 ≤ code && code ≤ 0xD7FF) || (0xE000 ≤ code && code ≤ 0xFFFD) || 0x10000 ≤ code

/-- A place in a text. -/
structure Cursor where
  /-- What is left of the text. -/
  rest : List Char
  /-- How many characters were passed. -/
  index : Nat
  /-- How many lines were passed. -/
  line : Nat
  /-- How many characters of the current line were passed. -/
  column : Nat

namespace Cursor

/-- The start of a text. -/
def start (text : List Char) : Cursor := ⟨text, 0, 0, 0⟩

/-- The next character. -/
def peek? (cursor : Cursor) : Option Char := cursor.rest.head?

/-- The next character satisfies a test. -/
def sees (cursor : Cursor) (test : Char → Bool) : Bool := cursor.peek?.any test

/-- The character at a distance is a blank, a line end, or missing. -/
def gapAt (cursor : Cursor) (distance : Nat) : Bool := (cursor.rest[distance]?).all isGap

/-- The line is over. -/
def atLineEnd (cursor : Cursor) : Bool := cursor.peek?.all isBreak

/-- Passes characters of the current line. -/
def skip (cursor : Cursor) (count : Nat) : Cursor :=
  { cursor with
    rest := cursor.rest.drop count
    index := cursor.index + count
    column := cursor.column + count }

/-- Passes the characters of the current line that satisfy a test. -/
def skipWhile (cursor : Cursor) (test : Char → Bool) : Cursor :=
  cursor.skip (cursor.rest.takeWhile test).length

/-- Passes what is before a rest in the current line. -/
def skipTo (cursor : Cursor) (rest : List Char) : Cursor :=
  cursor.skip (cursor.rest.length - rest.length)

/-- Passes a line end; gives the text that it stands for. -/
def takeBreak (cursor : Cursor) : List Char × Cursor :=
  let pass := fun (rest : List Char) (count : Nat) =>
    ({ rest, index := cursor.index + count, line := cursor.line + 1, column := 0 } : Cursor)
  match cursor.rest with
  | '\r' :: '\n' :: rest => (['\n'], pass rest 2)
  | c :: rest =>
    if isBreak c then
      (if c.toNat = 0x2028 ∨ c.toNat = 0x2029 then [c] else ['\n'], pass rest 1)
    else ([], cursor)
  | [] => ([], cursor)

/-- Passes a line end. -/
def skipBreak (cursor : Cursor) : Cursor := cursor.takeBreak.2

/-- Passes a comment up to the end of the line, if one starts here. -/
def skipComment (cursor : Cursor) : Cursor :=
  if cursor.sees (· == '#') then cursor.skipWhile (!isBreak ·) else cursor

/-- A line of three dashes or three dots that separates documents starts here. -/
def atSeparator (cursor : Cursor) : Bool :=
  cursor.column == 0 && cursor.gapAt 3 &&
    (cursor.rest.take 3 == ['-', '-', '-'] || cursor.rest.take 3 == ['.', '.', '.'])

end Cursor
end Yaml
end LinkFacts
