import LinkFacts.Text.Blank
import LinkFacts.Text.Digits
import LinkFacts.Unicode.Identifier

/-!
# Tokens of templates

A template is raw text with tags in it: double braces emit an expression, braces with percent signs
hold a statement, and braces with number signs a comment.  A hyphen at the inner side of a tag
trims the raw text on its outer side.
-/

namespace LinkFacts
namespace Template

open Text

/-- The delimiters of tags. -/
inductive Tag where
  | beginEmit
  | endEmit
  | beginBlock
  | endBlock
  | beginComment
  | endComment
  deriving DecidableEq, Repr

/-- A reserved word. -/
inductive Keyword where
  | ifWord
  | notWord
  | elseWord
  | endIf
  | forWord
  | inWord
  | endFor
  | includeWord
  | withWord
  | asWord
  | endWith
  | trueWord
  | falseWord
  deriving DecidableEq, Repr

/-- The reserved words by their spelling. -/
def keywords : List (String × Keyword) :=
  [("if", .ifWord), ("not", .notWord), ("else", .elseWord), ("endif", .endIf),
    ("for", .forWord), ("in", .inWord), ("endfor", .endFor), ("include", .includeWord),
    ("with", .withWord), ("as", .asWord), ("endwith", .endWith), ("true", .trueWord),
    ("false", .falseWord)]

/-- A token of a template. -/
inductive Token where
  /-- Text outside of tags. -/
  | raw (text : List Char)
  | tag (tag : Tag)
  | dot
  | optionalDot
  | pipe
  | colon
  | comma
  | plus
  | minus
  | openBracket
  | closeBracket
  | openBrace
  | closeBrace
  | openParen
  | closeParen
  | number (digits : List Char)
  | index (value : Nat)
  | text (value : List Char)
  | keyword (keyword : Keyword)
  | name (name : String)
  deriving DecidableEq, Repr

/-- The tag at the front of a text, whether it trims, and what follows it. -/
def tagAt? : List Char → Option (Tag × Bool × List Char)
  | '{' :: '{' :: '-' :: rest => some (.beginEmit, true, rest)
  | '{' :: '{' :: rest => some (.beginEmit, false, rest)
  | '{' :: '%' :: '-' :: rest => some (.beginBlock, true, rest)
  | '{' :: '%' :: rest => some (.beginBlock, false, rest)
  | '{' :: '#' :: '-' :: rest => some (.beginComment, true, rest)
  | '{' :: '#' :: rest => some (.beginComment, false, rest)
  | '-' :: '}' :: '}' :: rest => some (.endEmit, true, rest)
  | '}' :: '}' :: rest => some (.endEmit, false, rest)
  | '-' :: '%' :: '}' :: rest => some (.endBlock, true, rest)
  | '%' :: '}' :: rest => some (.endBlock, false, rest)
  | '-' :: '#' :: '}' :: rest => some (.endComment, true, rest)
  | '#' :: '}' :: rest => some (.endComment, false, rest)
  | _ => none

theorem tagAt?_length {source : List Char} {tag : Tag} {trims : Bool} {rest : List Char}
    (h : tagAt? source = some (tag, trims, rest)) : rest.length < source.length := by
  unfold tagAt? at h
  split at h <;> simp only [Option.some.injEq, Prod.mk.injEq, reduceCtorEq] at h <;>
    · obtain ⟨-, -, rfl⟩ := h
      simp only [List.length_cons]
      omega

/-- The text before the first tag, and the text from the tag on. -/
def splitAtTag : List Char → List Char × List Char
  | [] => ([], [])
  | c :: rest =>
    if (tagAt? (c :: rest)).isSome then ([], c :: rest)
    else (c :: (splitAtTag rest).1, (splitAtTag rest).2)

private theorem splitAtTag_length (source : List Char) :
    (splitAtTag source).2.length ≤ source.length := by
  fun_induction splitAtTag source with
  | case1 => simp
  | case2 => simp
  | case3 c rest _ ih => simp only [List.length_cons]; omega

/-- The character of an escape in a quoted text. -/
def escapedChar? : Char → Option Char
  | 'n' => some '\n'
  | 'r' => some '\r'
  | 't' => some '\t'
  | '\\' => some '\\'
  | '"' => some '"'
  | _ => none

/-- Reads a quoted text after its opening quote. -/
def readQuoted? : List Char → Option (List Char × List Char)
  | [] => none
  | '"' :: rest => some ([], rest)
  | '\n' :: _ => none
  | ['\\'] => none
  | '\\' :: c :: rest =>
    match escapedChar? c, readQuoted? rest with
    | some char, some (text, after) => some (char :: text, after)
    | _, _ => none
  | c :: rest => (readQuoted? rest).map fun read => (c :: read.1, read.2)

private theorem readQuoted?_length {source : List Char} {read : List Char × List Char}
    (h : readQuoted? source = some read) : read.2.length ≤ source.length := by
  fun_induction readQuoted? source generalizing read with
  | case1 => simp at h
  | case2 => cases h; simp
  | case3 => simp at h
  | case4 => simp at h
  | case5 c rest char text after hread _ ih =>
    cases h
    have := ih hread
    simp only [List.length_cons] at this ⊢
    omega
  | case6 => simp at h
  | case7 c rest _ _ _ _ ih =>
    obtain ⟨inner, hinner, rfl⟩ := Option.map_eq_some_iff.mp h
    have := ih hinner
    simp only [List.length_cons]
    omega

/-- A character that may stand in a number after `previous`. -/
def continuesNumber (previous c : Char) : Bool :=
  isAlphanumeric c || c == '.' || c == '_' ||
    ((c == '+' || c == '-') && (previous == 'e' || previous == 'E'))

/-- The rest of a number and what follows it. -/
def takeNumber (previous : Char) : List Char → List Char × List Char
  | [] => ([], [])
  | c :: rest =>
    if continuesNumber previous c then (c :: (takeNumber c rest).1, (takeNumber c rest).2)
    else ([], c :: rest)

private theorem takeNumber_length (previous : Char) (source : List Char) :
    (takeNumber previous source).2.length ≤ source.length := by
  fun_induction takeNumber previous source with
  | case1 => simp
  | case2 previous c rest _ ih => simp only [List.length_cons]; omega
  | case3 => simp

/-- The token of a name or of a reserved word. -/
def wordToken (word : String) : Token :=
  match keywords.lookup word with
  | some keyword => .keyword keyword
  | none => .name word

/-- A character that may start a name. -/
def startsName (c : Char) : Bool := c == '_' || Unicode.startsName c

/-- The token of a single character. -/
def markToken? : Char → Option Token
  | '.' => some .dot
  | '|' => some .pipe
  | ':' => some .colon
  | ',' => some .comma
  | '+' => some .plus
  | '-' => some .minus
  | '[' => some .openBracket
  | ']' => some .closeBracket
  | '{' => some .openBrace
  | '}' => some .closeBrace
  | '(' => some .openParen
  | ')' => some .closeParen
  | _ => none

/-- The token that starts with a character; after a dot digits are an index. -/
def readToken? (afterDot : Bool) (c : Char) (rest : List Char) : Option (Token × List Char) :=
  match markToken? c with
  | some token => some (token, rest)
  | none =>
    if c = '?' then
      match rest with
      | '.' :: after => some (.optionalDot, after)
      | _ => none
    else if c = '"' then (readQuoted? rest).map fun read => (.text read.1, read.2)
    else if isDecimal c then
      if afterDot then
        some (.index (foldDigits 10 0 (c :: rest.takeWhile isDecimal)), rest.dropWhile isDecimal)
      else some (.number (c :: (takeNumber c rest).1), (takeNumber c rest).2)
    else if startsName c then
      some (wordToken (String.ofList (c :: rest.takeWhile Unicode.continuesName)),
        rest.dropWhile Unicode.continuesName)
    else none

private theorem readToken?_length {afterDot : Bool} {c : Char} {rest : List Char}
    {read : Token × List Char} (h : readToken? afterDot c rest = some read) :
    read.2.length ≤ rest.length := by
  unfold readToken? at h
  split at h
  · cases h; exact Nat.le_refl _
  · split at h
    · split at h
      · cases h; simp
      · simp at h
    · split at h
      · obtain ⟨inner, hinner, rfl⟩ := Option.map_eq_some_iff.mp h
        exact readQuoted?_length hinner
      · split at h
        · split at h
          · cases h; exact (List.dropWhile_suffix _).length_le
          · cases h; exact takeNumber_length _ _
        · split at h
          · cases h; exact (List.dropWhile_suffix _).length_le
          · simp at h

/-- Where in a template the reading stands. -/
inductive Place where
  /-- Outside of tags; a tag before may trim what follows. -/
  | outside (trims : Bool)
  /-- Inside a tag that the given one closes. -/
  | inside (close : Tag) (afterDot : Bool)

/-- The tokens of a stretch of raw text; an empty stretch gives none. -/
def rawTokens (text : List Char) (trimsStart trimsEnd : Bool) : List Token :=
  if text.isEmpty then []
  else
    let started := if trimsStart then text.dropWhile isBlank else text
    [.raw (if trimsEnd then dropTail isBlank started else started)]

/-- The tokens of a template; comments give none. -/
def tokens? (place : Place) (source : List Char) : Option (List Token) :=
  match place with
  | .outside trims =>
    match htag : tagAt? (splitAtTag source).2 with
    | none => some (rawTokens (splitAtTag source).1 trims false)
    | some (tag, trimsBefore, rest) =>
      have hrest : rest.length < source.length :=
        Nat.lt_of_lt_of_le (tagAt?_length htag) (splitAtTag_length source)
      let before := rawTokens (splitAtTag source).1 trims trimsBefore
      match tag with
      | .beginEmit =>
        (tokens? (.inside .endEmit false) rest).map fun more => before ++ .tag .beginEmit :: more
      | .beginBlock =>
        (tokens? (.inside .endBlock false) rest).map fun more => before ++ .tag .beginBlock :: more
      | .beginComment =>
        if (splitAtTag rest).1.isEmpty then none
        else
          match hclose : tagAt? (splitAtTag rest).2 with
          | some (.endComment, trimsAfter, after) =>
            have : after.length < source.length :=
              Nat.lt_trans (Nat.lt_of_lt_of_le (tagAt?_length hclose) (splitAtTag_length rest))
                hrest
            (tokens? (.outside trimsAfter) after).map fun more => before ++ more
          | _ => none
      | _ => none
  | .inside close afterDot =>
    match htag : tagAt? source with
    | some (tag, trims, rest) =>
      have : rest.length < source.length := tagAt?_length htag
      if tag = close then (tokens? (.outside trims) rest).map fun more => .tag tag :: more
      else none
    | none =>
      match source with
      | [] => none
      | c :: rest =>
        if isBlank c then tokens? (.inside close false) rest
        else
          match hread : readToken? afterDot c rest with
          | none => none
          | some (token, after) =>
            have : after.length < rest.length + 1 := Nat.lt_succ_of_le (readToken?_length hread)
            (tokens? (.inside close (token = .dot || token = .optionalDot)) after).map fun more =>
              token :: more
termination_by source.length

end Template
end LinkFacts
