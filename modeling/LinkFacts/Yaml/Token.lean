import LinkFacts.Yaml.Scalar
import LinkFacts.Yaml.Tag

/-!
# Tokens of YAML texts

The columns at which blocks start are kept on a stack; tokens say where a block begins and ends.
That something was the key of a mapping is known only when its colon is found; then the tokens for
the mapping and the key are put in before it.
-/

namespace LinkFacts
namespace Yaml

/-- A token of a text. -/
inductive Token where
  | directive (directive : Directive)
  | documentStart
  | documentEnd
  | sequenceStart
  | mappingStart
  | blockEnd
  | flowSequenceStart
  | flowSequenceEnd
  | flowMappingStart
  | flowMappingEnd
  | entry
  | flowEntry
  | key
  | value
  | alias (name : String)
  | anchor (name : String)
  | tag (tag : WrittenTag)
  | scalar (plain : Bool) (text : List Char)
  deriving DecidableEq, Repr

/-- Something that is the key of a mapping if a colon follows. -/
structure PossibleKey where
  /-- How many tokens are before it. -/
  position : Nat
  /-- Nothing but a key can stand there. -/
  required : Bool
  /-- The line in which it starts. -/
  line : Nat
  /-- The column in which it starts. -/
  column : Nat
  /-- How many characters are before it. -/
  index : Nat

/-- What is known after some tokens. -/
structure Scanner where
  /-- The place. -/
  cursor : Cursor
  /-- The tokens, the latest first. -/
  tokens : List Token
  /-- The column of the innermost block; `-1` outside of all blocks. -/
  indent : Int
  /-- The columns of the blocks around it, the nearest first. -/
  outer : List Int
  /-- The possible key in the innermost collection. -/
  possible : Option PossibleKey
  /-- The possible keys around the open braces and brackets, the nearest first. -/
  enclosing : List (Option PossibleKey)
  /-- A key may start here. -/
  allowed : Bool

namespace Scanner

/-- The start of a text. -/
def start (text : List Char) : Scanner := ⟨.start text, [], -1, [], none, [], true⟩

/-- Some braces or brackets are open. -/
def inFlow (scanner : Scanner) : Bool := !scanner.enclosing.isEmpty

/-- Adds a token. -/
def push (scanner : Scanner) (token : Token) : Scanner :=
  { scanner with tokens := token :: scanner.tokens }

/-- Puts a token in before the tokens from a position on. -/
def insert (scanner : Scanner) (position : Nat) (token : Token) : Scanner :=
  { scanner with tokens := scanner.tokens.insertIdx (scanner.tokens.length - position) token }

/-- Passes characters of the line. -/
def skip (scanner : Scanner) (count : Nat) : Scanner :=
  { scanner with cursor := scanner.cursor.skip count }

/-- A key that may start here, or may not. -/
def allow (scanner : Scanner) (allowed : Bool) : Scanner := { scanner with allowed }

/-- Passes blanks, comments and line ends. -/
def skipBlank : Nat → Scanner → Scanner
  | 0, scanner => scanner
  | limit + 1, scanner =>
    let unmarked :=
      if scanner.cursor.column = 0 ∧ scanner.cursor.sees isMark then scanner.cursor.skip 1
      else scanner.cursor
    let tabs := scanner.inFlow || !scanner.allowed
    let reached := (unmarked.skipWhile fun c => c == ' ' || (tabs && c == '\t')).skipComment
    if reached.sees isBreak then
      skipBlank limit { scanner with
        cursor := reached.skipBreak
        allowed := !scanner.inFlow || scanner.allowed }
    else { scanner with cursor := reached }

/-- A possible key that is too far away to be one. -/
def isStale (cursor : Cursor) (key : PossibleKey) : Bool :=
  key.line < cursor.line || key.index + 1024 < cursor.index

/-- Forgets a possible key that is too far away; nothing else may stand where one is required. -/
def refresh (cursor : Cursor) : Option PossibleKey → Option (Option PossibleKey)
  | some key => if isStale cursor key then if key.required then none else some none else some key
  | none => some none

/-- Forgets the possible keys that are too far away. -/
def dropStale (scanner : Scanner) : Option Scanner := do
  let possible ← refresh scanner.cursor scanner.possible
  let enclosing ← scanner.enclosing.mapM (refresh scanner.cursor)
  return { scanner with possible, enclosing }

/-- Forgets the possible key. -/
def dropKey (scanner : Scanner) : Option Scanner :=
  if scanner.possible.any (·.required) then none else some { scanner with possible := none }

/-- Remembers that a key may start here. -/
def saveKey (scanner : Scanner) : Option Scanner :=
  if scanner.allowed then
    scanner.dropKey.map fun cleared =>
      { cleared with
        possible := some
          { position := scanner.tokens.length
            required := !scanner.inFlow && scanner.indent == scanner.cursor.column
            line := scanner.cursor.line
            column := scanner.cursor.column
            index := scanner.cursor.index } }
  else some scanner

/-- Ends the blocks that start after a column. -/
def closeBlocks (column : Int) (tokens : List Token) : Int → List Int → List Token × Int × List Int
  | indent, [] => (tokens, indent, [])
  | indent, next :: outer =>
    if column < indent then closeBlocks column (.blockEnd :: tokens) next outer
    else (tokens, indent, next :: outer)

/-- Ends the blocks that start after a column, outside of braces and brackets. -/
def unroll (scanner : Scanner) (column : Int) : Scanner :=
  if scanner.inFlow then scanner
  else
    let closed := closeBlocks column scanner.tokens scanner.indent scanner.outer
    { scanner with tokens := closed.1, indent := closed.2.1, outer := closed.2.2 }

/-- Begins a block at a column, before the tokens from a position on. -/
def roll (scanner : Scanner) (column position : Nat) (token : Token) : Scanner :=
  if !scanner.inFlow && decide (scanner.indent < (column : Int)) then
    { scanner.insert position token with
      indent := column, outer := scanner.indent :: scanner.outer }
  else scanner

/-- Begins a block at the current column, after all tokens. -/
def rollHere (scanner : Scanner) (token : Token) : Scanner :=
  scanner.roll scanner.cursor.column scanner.tokens.length token

/-- A directive. -/
def fetchDirective (scanner : Scanner) : Option Scanner := do
  let cleared ← (scanner.unroll (-1)).dropKey
  let (directive, cursor) ← readDirective (cleared.cursor.skip 1)
  return { (cleared.push (.directive directive)).allow false with cursor }

/-- A line that separates documents. -/
def fetchSeparator (scanner : Scanner) (token : Token) : Option Scanner := do
  let cleared ← (scanner.unroll (-1)).dropKey
  return ((cleared.push token).skip 3).allow false

/-- An opening brace or bracket. -/
def fetchOpening (scanner : Scanner) (token : Token) : Option Scanner := do
  let saved ← scanner.saveKey
  let opened := { saved with possible := none, enclosing := saved.possible :: saved.enclosing }
  return ((opened.push token).skip 1).allow true

/-- A closing brace or bracket. -/
def fetchClosing (scanner : Scanner) (token : Token) : Option Scanner := do
  let cleared ← scanner.dropKey
  let closed :=
    match cleared.enclosing with
    | [] => cleared
    | possible :: enclosing => { cleared with possible, enclosing }
  return ((closed.push token).skip 1).allow false

/-- A comma between entries. -/
def fetchComma (scanner : Scanner) : Option Scanner := do
  let cleared ← scanner.dropKey
  return ((cleared.push .flowEntry).skip 1).allow true

/-- The dash of an entry of a block. -/
def fetchEntry (scanner : Scanner) : Option Scanner := do
  if !scanner.inFlow && !scanner.allowed then none
  else
    let cleared ← (scanner.rollHere .sequenceStart).dropKey
    return ((cleared.push .entry).skip 1).allow true

/-- The question mark of a key. -/
def fetchKey (scanner : Scanner) : Option Scanner := do
  if !scanner.inFlow && !scanner.allowed then none
  else
    let cleared ← (scanner.rollHere .mappingStart).dropKey
    return ((cleared.push .key).skip 1).allow (!scanner.inFlow)

/-- The colon of a value. -/
def fetchValue (scanner : Scanner) : Option Scanner :=
  match scanner.possible with
  | some key =>
    let marked := (scanner.insert key.position .key).roll key.column key.position .mappingStart
    some ((({ marked with possible := none }.push .value).skip 1).allow false)
  | none =>
    if !scanner.inFlow && !scanner.allowed then none
    else some ((((scanner.rollHere .mappingStart).push .value).skip 1).allow (!scanner.inFlow))

/-- The name of an anchor, or of the anchor that an alias stands for. -/
def fetchName (scanner : Scanner) (token : String → Token) : Option Scanner := do
  let saved ← scanner.saveKey
  let (name, cursor) ← readName (saved.cursor.skip 1)
  return { (saved.push (token name)).allow false with cursor }

/-- A tag. -/
def fetchTag (scanner : Scanner) : Option Scanner := do
  let saved ← scanner.saveKey
  let (tag, cursor) ← readTag saved.inFlow saved.cursor
  return { (saved.push (.tag tag)).allow false with cursor }

/-- A block scalar. -/
def fetchBlock (scanner : Scanner) (literal : Bool) : Option Scanner := do
  let cleared ← scanner.dropKey
  let scanned ← readBlock literal cleared.indent (cleared.cursor.skip 1)
  return { (cleared.push (.scalar false scanned.text)).allow true with cursor := scanned.cursor }

/-- A quoted scalar. -/
def fetchQuoted (scanner : Scanner) (single : Bool) : Option Scanner := do
  let saved ← scanner.saveKey
  let cursor := saved.cursor.skip 1
  let scanned ← readQuoted single (cursor.rest.length + 1) [] cursor
  return { (saved.push (.scalar false scanned.text)).allow false with cursor := scanned.cursor }

/-- A plain scalar. -/
def fetchPlain (scanner : Scanner) : Option Scanner := do
  let saved ← scanner.saveKey
  let scanned ← readPlain saved.inFlow (saved.indent + 1).toNat (saved.cursor.rest.length + 1) []
    .empty saved.cursor
  return { (saved.push (.scalar true scanned.text)).allow scanned.broken with
    cursor := scanned.cursor }

/-- A character that may start no plain scalar, or only if no gap follows. -/
def isIndicator (c : Char) : Bool :=
  isFlowMark c || "-?:#&*!|>'\"%@".toList.contains c || c.toNat == 0x60

/-- A plain scalar starts here. -/
def startsPlain (scanner : Scanner) (c : Char) : Bool :=
  !isIndicator c || (c == '-' && (scanner.cursor.rest[1]?).all (!isSpace ·)) ||
    (!scanner.inFlow && (c == '?' || c == ':') && !scanner.cursor.gapAt 1)

/-- The token that starts with a character. -/
def fetchAt (scanner : Scanner) (c : Char) : Option Scanner :=
  let cursor := scanner.cursor
  let marksKey := scanner.inFlow || cursor.gapAt 1
  if cursor.column = 0 ∧ c = '%' then scanner.fetchDirective
  else if cursor.atSeparator then
    scanner.fetchSeparator (if c = '-' then .documentStart else .documentEnd)
  else if c = '[' then scanner.fetchOpening .flowSequenceStart
  else if c = '{' then scanner.fetchOpening .flowMappingStart
  else if c = ']' then scanner.fetchClosing .flowSequenceEnd
  else if c = '}' then scanner.fetchClosing .flowMappingEnd
  else if c = ',' then scanner.fetchComma
  else if c = '-' ∧ cursor.gapAt 1 then scanner.fetchEntry
  else if c = '?' ∧ marksKey then scanner.fetchKey
  else if c = ':' ∧ marksKey then scanner.fetchValue
  else if c = '*' then scanner.fetchName .alias
  else if c = '&' then scanner.fetchName .anchor
  else if c = '!' then scanner.fetchTag
  else if c = '|' ∧ !scanner.inFlow then scanner.fetchBlock true
  else if c = '>' ∧ !scanner.inFlow then scanner.fetchBlock false
  else if c = '\'' then scanner.fetchQuoted true
  else if c = '"' then scanner.fetchQuoted false
  else if scanner.startsPlain c then scanner.fetchPlain
  else none

/-- The end of the text, which ends all blocks. -/
def finish (scanner : Scanner) : Option (List Token) :=
  (scanner.unroll (-1)).dropKey.map fun ended => ended.tokens.reverse

/-- Reads a limited number of tokens up to the end of the text. -/
def run : Nat → Scanner → Option (List Token)
  | 0, _ => none
  | limit + 1, scanner => do
    let fresh ← (scanner.skipBlank (scanner.cursor.rest.length + 1)).dropStale
    let reached := fresh.unroll fresh.cursor.column
    match reached.cursor.peek? with
    | none => reached.finish
    | some c => run limit (← reached.fetchAt c)

end Scanner

/-- The tokens of a text; a mark of the encoding at its start does not count. -/
def scan (text : List Char) : Option (List Token) :=
  let content :=
    match text with
    | c :: rest => if isMark c then rest else text
    | [] => []
  if content.all isAllowed then Scanner.run (content.length + 1) (.start content) else none

end Yaml
end LinkFacts
