import LinkFacts.Json.Cursor
import LinkFacts.Text.Digits
import LinkFacts.Text.Utf8

/-!
# Quoted text

Writing a text between quotes, and reading one back.  Writing escapes the quote, the backslash and
the control characters below a space; reading accepts every escape of the format and refuses bare
control characters and unpaired surrogates.
-/

namespace LinkFacts
namespace Json

open Text

/-- The escape of a control character below a space. -/
def controlEscape (code : Nat) : List Char :=
  if code = 8 then ['\\', 'b']
  else if code = 9 then ['\\', 't']
  else if code = 10 then ['\\', 'n']
  else if code = 12 then ['\\', 'f']
  else if code = 13 then ['\\', 'r']
  else '\\' :: 'u' :: writePadded 16 4 code

/-- One character inside quotes. -/
def quoteChar (c : Char) : List Char :=
  if c = '"' then ['\\', '"']
  else if c = '\\' then ['\\', '\\']
  else if c.toNat < 32 then controlEscape c.toNat
  else [c]

/-- The characters of a text as they stand between quotes. -/
def quoteBody (cs : List Char) : List Char := cs.flatMap quoteChar

/-- A text between quotes. -/
def quote (text : String) : List Char := '"' :: quoteBody text.toList ++ ['"']

/-- The four hexadecimal digits at the front. -/
def readHex4 : (source : List Char) → Except Fault (Taken Nat source)
  | a :: b :: c :: d :: rest =>
    match readDigits? 16 [a, b, c, d] with
    | some value => .ok ⟨value, rest, by simp only [List.length_cons]; omega⟩
    | none => .error .malformed
  | short => if (encodeUtf8 short).length < 4 then .error .unfinished else .error .malformed

/-- A leading surrogate. -/
def isLeading (unit : Nat) : Bool := 0xD800 ≤ unit && unit ≤ 0xDBFF

/-- A trailing surrogate. -/
def isTrailing (unit : Nat) : Bool := 0xDC00 ≤ unit && unit ≤ 0xDFFF

/-- The character of a pair of surrogates. -/
def joinSurrogates (leading trailing : Nat) : Char :=
  Char.ofNat (0x10000 + (leading - 0xD800) * 0x400 + (trailing - 0xDC00))

/-- Reads the escape of a trailing surrogate. -/
def readTrailing (leading : Nat) : (source : List Char) → Except Fault (Taken Char source)
  | '\\' :: 'u' :: rest =>
    match readHex4 rest with
    | .error fault => .error fault
    | .ok taken =>
      if isTrailing taken.value then
        .ok (taken.map (joinSurrogates leading)).afterOne.afterOne
      else .error .malformed
  | [] => .error .unfinished
  | ['\\'] => .error .unfinished
  | _ => .error .malformed

/-- Reads an escape after its `u`. -/
def readUnicode (source : List Char) : Except Fault (Taken Char source) :=
  match readHex4 source with
  | .error fault => .error fault
  | .ok taken =>
    if isTrailing taken.value then .error .malformed
    else if isLeading taken.value then
      match readTrailing taken.value taken.rest with
      | .error fault => .error fault
      | .ok char => .ok (char.within (Nat.le_of_lt taken.shorter))
    else .ok (taken.map Char.ofNat)

/-- The character of a one-letter escape. -/
def simpleEscape? : Char → Option Char
  | '"' => some '"'
  | '\\' => some '\\'
  | '/' => some '/'
  | 'b' => some '\x08'
  | 'f' => some '\x0c'
  | 'n' => some '\n'
  | 'r' => some '\r'
  | 't' => some '\t'
  | _ => none

/-- Reads an escape after its backslash. -/
def readEscape : (source : List Char) → Except Fault (Taken Char source)
  | [] => .error .unfinished
  | c :: rest =>
    match simpleEscape? c with
    | some char => .ok ⟨char, rest, by simp⟩
    | none =>
      if c = 'u' then
        match readUnicode rest with
        | .error fault => .error fault
        | .ok taken => .ok taken.afterOne
      else .error .malformed

/-- Reads the characters up to the closing quote, which is consumed. -/
def readQuoteBody (source : List Char) : Except Fault (Taken (List Char) source) :=
  match source with
  | [] => .error .unfinished
  | c :: rest =>
    if c = '"' then .ok ⟨[], rest, by simp⟩
    else if c = '\\' then
      match readEscape rest with
      | .error fault => .error fault
      | .ok taken =>
        have : taken.rest.length < rest.length + 1 := Nat.lt_succ_of_lt taken.shorter
        match readQuoteBody taken.rest with
        | .error fault => .error fault
        | .ok body =>
          .ok ((body.map (taken.value :: ·)).within (by simp only [List.length_cons]; omega))
    else if c.toNat < 32 then .error .malformed
    else
      match readQuoteBody rest with
      | .error fault => .error fault
      | .ok body => .ok (body.map (c :: ·)).afterOne
termination_by source.length

end Json
end LinkFacts
