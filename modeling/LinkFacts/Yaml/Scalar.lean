import LinkFacts.Text.Escape
import LinkFacts.Yaml.Cursor

/-!
# Scalars in YAML texts

Plain and quoted scalars may go over several lines, which are joined by spaces or by the empty lines
between them.  Block scalars keep their lines, or fold them in the same way.
-/

namespace LinkFacts
namespace Yaml

open Text

/-- Blanks and line ends between two parts of a scalar. -/
structure Gap where
  /-- There is a line end. -/
  broken : Bool
  /-- The blanks, if there is no line end; the latest first. -/
  blanks : List Char
  /-- What the first line end stands for. -/
  first : List Char
  /-- What the other line ends stand for. -/
  others : List Char

namespace Gap

/-- No gap. -/
def empty : Gap := ⟨false, [], [], []⟩

/-- What joins the parts before and after a gap. -/
def join (gap : Gap) : List Char :=
  if gap.broken then
    if gap.first = ['\n'] then if gap.others.isEmpty then [' '] else gap.others
    else gap.first ++ gap.others
  else gap.blanks.reverse

/-- Adds a blank. -/
def addBlank (gap : Gap) (c : Char) : Gap :=
  if gap.broken then gap else { gap with blanks := c :: gap.blanks }

/-- Adds a line end. -/
def addBreak (gap : Gap) (text : List Char) : Gap :=
  if gap.broken then { gap with others := gap.others ++ text }
  else { gap with broken := true, blanks := [], first := text }

/-- Passes blanks and line ends; no tab may stand before the column `indent` of a new line. -/
def read (indent : Nat) : Nat → Gap → Cursor → Option (Gap × Cursor)
  | 0, gap, cursor => some (gap, cursor)
  | limit + 1, gap, cursor =>
    match cursor.peek? with
    | none => some (gap, cursor)
    | some c =>
      if isSpace c then
        if gap.broken && decide (cursor.column < indent) && c == '\t' then none
        else read indent limit (gap.addBlank c) (cursor.skip 1)
      else if isBreak c then
        read indent limit (gap.addBreak cursor.takeBreak.1) cursor.takeBreak.2
      else some (gap, cursor)

end Gap

/-- A character that separates the parts of collections in braces and brackets. -/
def isFlowMark (c : Char) : Bool := c == ',' || c == '[' || c == ']' || c == '{' || c == '}'

/-- Splits off the characters of a plain scalar up to a gap or a mark; no mark may follow a colon
directly inside braces and brackets. -/
def splitPlain (inFlow : Bool) : List Char → Option (List Char × List Char)
  | [] => some ([], [])
  | c :: rest =>
    if isGap c then some ([], c :: rest)
    else if c == ':' && inFlow && rest.head?.any (fun d => isFlowMark d || d == '?') then none
    else if c == ':' && rest.head?.all isGap then some ([], c :: rest)
    else if inFlow && isFlowMark c then some ([], c :: rest)
    else (splitPlain inFlow rest).map fun split => (c :: split.1, split.2)

/-- A scalar that was read. -/
structure ScannedScalar where
  /-- The text. -/
  text : List Char
  /-- The place after it. -/
  cursor : Cursor
  /-- Line ends were passed after the last part of the text. -/
  broken : Bool

/-- Reads a plain scalar after some text and a gap; in a block its lines start at the column
`indent` or later. -/
def readPlain (inFlow : Bool) (indent : Nat) : Nat → List Char → Gap → Cursor →
    Option ScannedScalar
  | 0, text, gap, cursor => some ⟨text, cursor, gap.broken⟩
  | limit + 1, text, gap, cursor =>
    if cursor.atSeparator || cursor.sees (· == '#') then some ⟨text, cursor, gap.broken⟩
    else
      match splitPlain inFlow cursor.rest with
      | none => none
      | some (word, rest) =>
        let longer := if word.isEmpty then text else text ++ gap.join ++ word
        let after := if word.isEmpty then gap else .empty
        let reached := cursor.skipTo rest
        if reached.sees isGap then
          match after.read indent rest.length reached with
          | none => none
          | some (next, start) =>
            if !inFlow && decide (start.column < indent) then some ⟨longer, start, next.broken⟩
            else readPlain inFlow indent limit longer next start
        else some ⟨longer, reached, after.broken⟩

/-- The character that a letter stands for after a backslash. -/
def letterChar? : Char → Option Char
  | '0' => some (Char.ofNat 0x00)
  | 'a' => some (Char.ofNat 0x07)
  | 'b' => some (Char.ofNat 0x08)
  | 't' => some '\t'
  | '\t' => some '\t'
  | 'n' => some '\n'
  | 'v' => some (Char.ofNat 0x0B)
  | 'f' => some (Char.ofNat 0x0C)
  | 'r' => some '\r'
  | 'e' => some (Char.ofNat 0x1B)
  | ' ' => some ' '
  | '"' => some '"'
  | '/' => some '/'
  | '\\' => some '\\'
  | 'N' => some (Char.ofNat 0x85)
  | '_' => some (Char.ofNat 0xA0)
  | 'L' => some (Char.ofNat 0x2028)
  | 'P' => some (Char.ofNat 0x2029)
  | _ => none

/-- How many hexadecimal digits follow a letter after a backslash. -/
def digitCount : Char → Nat
  | 'x' => 2
  | 'u' => 4
  | 'U' => 8
  | _ => 0

/-- The character of an escape after its backslash, and what follows the escape. -/
def readEscaped : List Char → Option (Char × List Char)
  | [] => none
  | letter :: rest =>
    let count := digitCount letter
    if count = 0 then (letterChar? letter).map fun c => (c, rest)
    else if (rest.take count).length = count then
      (numberedChar? (rest.take count)).map fun c => (c, rest.drop count)
    else none

private theorem readEscaped_length {source rest : List Char} {c : Char}
    (h : readEscaped source = some (c, rest)) : rest.length < source.length := by
  cases source with
  | nil => simp [readEscaped] at h
  | cons letter tail =>
    simp only [readEscaped] at h
    split at h
    · simp only [Option.map_eq_some_iff, Prod.mk.injEq] at h
      obtain ⟨_, _, _, rfl⟩ := h
      simp
    · split at h
      · simp only [Option.map_eq_some_iff, Prod.mk.injEq] at h
        obtain ⟨_, _, _, rfl⟩ := h
        simp only [List.length_drop, List.length_cons]
        omega
      · simp at h

/-- Splits off the characters of a text in single quotes up to a gap or the closing quote. -/
def splitSingle : List Char → List Char × List Char
  | '\'' :: '\'' :: rest => ('\'' :: (splitSingle rest).1, (splitSingle rest).2)
  | c :: rest =>
    if c = '\'' ∨ isGap c then ([], c :: rest)
    else (c :: (splitSingle rest).1, (splitSingle rest).2)
  | [] => ([], [])

/-- Splits off the characters of a text in double quotes up to a gap, the closing quote, or the
backslash at the end of a line. -/
def splitDouble (source : List Char) : Option (List Char × List Char) :=
  match source with
  | [] => some ([], [])
  | '\\' :: rest =>
    if rest.head?.any isBreak then some ([], '\\' :: rest)
    else
      match h : readEscaped rest with
      | some (c, rest') =>
        have : rest'.length < rest.length := readEscaped_length h
        (splitDouble rest').map fun split => (c :: split.1, split.2)
      | none => none
  | c :: rest =>
    if c = '"' ∨ isGap c then some ([], c :: rest)
    else (splitDouble rest).map fun split => (c :: split.1, split.2)
termination_by source.length

/-- Reads a quoted scalar after its opening quote and some text. -/
def readQuoted (single : Bool) : Nat → List Char → Cursor → Option ScannedScalar
  | 0, _, _ => none
  | limit + 1, text, cursor =>
    if cursor.atSeparator then none
    else
      match if single then some (splitSingle cursor.rest) else splitDouble cursor.rest with
      | none => none
      | some (word, rest) =>
        let reached := cursor.skipTo rest
        let longer := text ++ word
        match rest with
        | [] => none
        | c :: _ =>
          if c = (if single then '\'' else '"') then some ⟨longer, reached.skip 1, false⟩
          else
            let continued := c == '\\'
            let start := if continued then (reached.skip 1).skipBreak else reached
            let gap : Gap := if continued then { Gap.empty with broken := true } else .empty
            if continued && start.sees (· == '"') then some ⟨longer, start.skip 1, false⟩
            else
              match gap.read 0 rest.length start with
              | none => none
              | some (gap, next) => readQuoted single limit (longer ++ gap.join) next

/-- Passes the empty lines before a line of a block scalar; as long as its column is unknown, `0`,
the greatest column of these lines is kept. -/
def readEmptyLines (indent : Nat) : Nat → Nat → List Char → Cursor →
    Option (Nat × List Char × Cursor)
  | 0, greatest, breaks, cursor => some (greatest, breaks, cursor)
  | limit + 1, greatest, breaks, cursor =>
    let spaces := (cursor.rest.takeWhile (· == ' ')).length
    let passed := if indent = 0 then spaces else min spaces (indent - cursor.column)
    let reached := cursor.skip passed
    let widest := max greatest reached.column
    if (indent == 0 || decide (reached.column < indent)) && reached.sees (· == '\t') then none
    else if reached.sees isBreak then
      readEmptyLines indent limit widest (breaks ++ reached.takeBreak.1) reached.takeBreak.2
    else some (widest, breaks, reached)

/-- How a block scalar ends. -/
inductive Chomping where
  /-- Without line ends. -/
  | strip
  /-- With one line end. -/
  | clip
  /-- With all its line ends. -/
  | keep
  deriving DecidableEq, Repr

/-- The lines of a block scalar so far. -/
structure BlockLines where
  /-- The text. -/
  text : List Char
  /-- The end of the last line. -/
  last : List Char
  /-- The empty lines after it. -/
  empty : List Char
  /-- The last line starts with a blank. -/
  indented : Bool

namespace BlockLines

/-- The text before the next line; lines that do not start with blanks are folded. -/
def join (lines : BlockLines) (literal indented : Bool) : List Char :=
  if !literal && lines.last.head? == some '\n' && !lines.indented && !indented then
    lines.text ++ (if lines.empty.isEmpty then [' '] else []) ++ lines.empty
  else lines.text ++ lines.last ++ lines.empty

/-- The text of a block scalar that is over. -/
def finish (lines : BlockLines) : Chomping → List Char
  | .strip => lines.text
  | .clip => lines.text ++ lines.last
  | .keep => lines.text ++ lines.last ++ lines.empty

end BlockLines

/-- Reads the lines of a block scalar that start at the column `indent`. -/
def readBlockLines (literal : Bool) (indent : Nat) : Nat → BlockLines → Cursor →
    Option (BlockLines × Cursor)
  | 0, lines, cursor => some (lines, cursor)
  | limit + 1, lines, cursor =>
    if cursor.column = indent ∧ !cursor.rest.isEmpty then
      let indented := cursor.sees isSpace
      let content := cursor.rest.takeWhile (!isBreak ·)
      let ended := cursor.skip content.length
      let text := lines.join literal indented ++ content
      match readEmptyLines indent cursor.rest.length 0 [] ended.takeBreak.2 with
      | none => none
      | some (_, empty, next) =>
        readBlockLines literal indent limit ⟨text, ended.takeBreak.1, empty, indented⟩ next
    else some (lines, cursor)

/-- The sign of a chomping. -/
def chompingOf? (c : Char) : Option Chomping :=
  if c = '+' then some .keep else if c = '-' then some .strip else none

/-- Reads the signs after the mark of a block scalar: the chomping and the indentation, in any
order. -/
def readBlockSigns (cursor : Cursor) : Option (Chomping × Nat × Cursor) :=
  let chomping := cursor.peek?.bind chompingOf?
  let afterFirst := if chomping.isSome then cursor.skip 1 else cursor
  match afterFirst.peek?.bind fun c => if isDecimal c then digitValue? c else none with
  | some 0 => none
  | some width =>
    let afterDigit := afterFirst.skip 1
    match chomping, afterDigit.peek?.bind chompingOf? with
    | some known, _ => some (known, width, afterDigit)
    | none, some found => some (found, width, afterDigit.skip 1)
    | none, none => some (.clip, width, afterDigit)
  | none => some (chomping.getD .clip, 0, afterFirst)

/-- Reads a block scalar after its mark; `parent` is the column of the block around it. -/
def readBlock (literal : Bool) (parent : Int) (cursor : Cursor) : Option ScannedScalar := do
  let (chomping, width, afterSigns) ← readBlockSigns cursor
  let ended := (afterSigns.skipWhile isSpace).skipComment
  if ended.atLineEnd then
    let start := ended.skipBreak
    let given := if width = 0 then 0 else (max parent 0).toNat + width
    let (widest, breaks, first) ← readEmptyLines given (start.rest.length + 1) 0 [] start
    let indent := if width = 0 then max (max widest (parent + 1).toNat) 1 else given
    let (lines, cursor) ← readBlockLines literal indent (start.rest.length + 1)
      ⟨[], [], breaks, false⟩ first
    return ⟨lines.finish chomping, cursor, false⟩
  else none

end Yaml
end LinkFacts
