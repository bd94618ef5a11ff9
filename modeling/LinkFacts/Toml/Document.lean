import LinkFacts.Toml.Scalar
import LinkFacts.Toml.Table

/-!
# Reading TOML documents

A document is read line by line: a header says to which table the following keys belong.  Lists and
inline tables nest less than eighty deep, and keys have less than eighty components.
-/

namespace LinkFacts
namespace Toml

open Settings (Value)
open Text

/-- How deep values and keys may go. -/
def greatestDepth : Nat := 79

/-- Leaves blanks, line ends and comments out; `comment` tells whether a comment is going on. -/
def skipFiller (comment : Bool) : List Char → List Char
  | [] => []
  | '\r' :: '\n' :: rest => skipFiller false rest
  | c :: rest =>
    if c = '\n' then skipFiller false rest
    else if comment && isPrintable c then skipFiller true rest
    else if isSpace c then skipFiller false rest
    else if c = '#' then skipFiller true rest
    else c :: rest

/-- What follows the end of a line, which may have a comment before it. -/
def finishLine (source : List Char) : Option (List Char) :=
  let rest :=
    match skipSpace source with
    | '#' :: comment => comment.dropWhile isPrintable
    | other => other
  if rest.isEmpty then some [] else lineEnd? rest

/-- A character of a key that needs no quotes. -/
def isKeyCharacter (c : Char) : Bool := isAlphanumeric c || c == '_' || c == '-'

/-- Reads one component of a key. -/
def readKeyPart : List Char → Read String
  | '"' :: rest => (readBasic rest).map fun read => (String.ofList read.1, read.2)
  | '\'' :: rest => (readLiteral rest).map fun read => (String.ofList read.1, read.2)
  | source =>
    let key := source.takeWhile isKeyCharacter
    if key.isEmpty then none else some (String.ofList key, source.dropWhile isKeyCharacter)

/-- Reads a key of a limited number of components and the blanks around it. -/
def readKey : Nat → List Char → Read (List String)
  | 0, _ => none
  | limit + 1, source =>
    (readKeyPart (skipSpace source)).bind fun part =>
      match skipSpace part.2 with
      | '.' :: rest => (readKey limit rest).map fun key => (part.1 :: key.1, key.2)
      | rest => some ([part.1], rest)

/-- Reads the values of a list up to its closing bracket; a comma may follow the last one. -/
def readItems (element : List Char → Read Value) : Nat → List Char → Read (List Value)
  | 0, _ => none
  | limit + 1, source =>
    match skipFiller false source with
    | ']' :: rest => some ([], rest)
    | start =>
      (element start).bind fun item =>
        match skipFiller false item.2 with
        | ',' :: rest =>
          (readItems element limit rest).map fun items => (item.1 :: items.1, items.2)
        | ']' :: rest => some ([item.1], rest)
        | _ => none

/-- Reads a key, an equals sign and a value. -/
def readAssignment (element : List Char → Read Value) (source : List Char) :
    Read (List String × Value) :=
  (readKey greatestDepth source).bind fun key =>
    match key.2 with
    | '=' :: rest => (element (skipSpace rest)).map fun value => ((key.1, value.1), value.2)
    | _ => none

/-- Reads the assignments of an inline table up to its closing brace. -/
def readAssignments (element : List Char → Read Value) : Nat → List Char →
    Read (List (List String × Value))
  | 0, _ => none
  | limit + 1, source =>
    (readAssignment element source).bind fun assignment =>
      match skipSpace assignment.2 with
      | ',' :: rest =>
        (readAssignments element limit rest).map fun others =>
          (assignment.1 :: others.1, others.2)
      | '}' :: rest => some ([assignment.1], rest)
      | _ => none

/-- The table that assignments make. -/
def tableOf? (assignments : List (List String × Value)) : Option Value :=
  (assignments.foldlM (fun entries assignment => assign assignment.1 assignment.2 entries) []).map
    fun entries => .table (entriesValue entries)

/-- Reads a value whose lists and tables nest at most `depth` deep. -/
def readValue : Nat → List Char → Read Value
  | 0, source =>
    match source with
    | '[' :: _ => none
    | '{' :: _ => none
    | _ => readScalar source
  | depth + 1, source =>
    match source with
    | '[' :: rest =>
      (readItems (readValue depth) (rest.length + 1) rest).map fun items =>
        (.list items.1, items.2)
    | '{' :: rest =>
      match skipSpace rest with
      | '}' :: rest' => some (.table [], rest')
      | _ =>
        (readAssignments (readValue depth) (rest.length + 1) rest).bind fun assignments =>
          (tableOf? assignments.1).map fun table => (table, assignments.2)
    | _ => readScalar source

/-- The tables of a document so far, and the header that the next keys belong to. -/
structure Progress where
  /-- The entries outside of every header. -/
  root : Entries
  /-- The path of the last header. -/
  header : List String

/-- Reads the rest of a header of a table. -/
def readHeader (progress : Progress) (source : List Char) : Read Progress :=
  (readKey greatestDepth source).bind fun key =>
    match key.2 with
    | ']' :: rest =>
      (define key.1 progress.root).bind fun root =>
        (finishLine rest).map fun rest' => (⟨root, key.1⟩, rest')
    | _ => none

/-- Reads the rest of a header of listed tables. -/
def readListHeader (progress : Progress) (source : List Char) : Read Progress :=
  (readKey greatestDepth source).bind fun key =>
    match key.2 with
    | ']' :: ']' :: rest =>
      (append key.1 progress.root).bind fun root =>
        (finishLine rest).map fun rest' => (⟨root, key.1⟩, rest')
    | _ => none

/-- Reads a line that gives a key a value. -/
def readKeyLine (progress : Progress) (source : List Char) : Read Progress :=
  (readAssignment (readValue greatestDepth) source).bind fun assignment =>
    (assignUnder progress.header assignment.1.1 assignment.1.2 progress.root).bind fun root =>
      (finishLine assignment.2).map fun rest => ({ progress with root }, rest)

/-- Reads one line that is not blank. -/
def readLine (progress : Progress) (source : List Char) : Read Progress :=
  match source with
  | '#' :: _ => (finishLine source).map fun rest => (progress, rest)
  | '\n' :: rest => some (progress, rest)
  | '\r' :: '\n' :: rest => some (progress, rest)
  | '[' :: '[' :: rest => readListHeader progress rest
  | '[' :: rest => readHeader progress rest
  | _ => readKeyLine progress source

/-- Reads a limited number of lines up to the end of a document. -/
def readLines : Nat → Progress → List Char → Option Progress
  | 0, _, _ => none
  | limit + 1, progress, source =>
    match skipSpace source with
    | [] => some progress
    | start => (readLine progress start).bind fun read => readLines limit read.1 read.2

/-- The text without the mark of its encoding. -/
def skipMark : List Char → List Char
  | c :: rest => if c.toNat = 0xFEFF then rest else c :: rest
  | [] => []

/-- The entries of a document. -/
def readDocument (source : List Char) : Option (List (String × Value)) :=
  (readLines (source.length + 1) ⟨[], []⟩ (skipMark source)).map fun progress =>
    entriesValue progress.root

end Toml
end LinkFacts
