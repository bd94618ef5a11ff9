import LinkFacts.Text.Percent
import LinkFacts.Yaml.Cursor

/-!
# Names, tags and directives in YAML texts

Anchors and aliases have names.  A tag is written out in angle brackets, or starts with a handle
that stands for the first part of it.  Directives before a document give its version or define
handles.
-/

namespace LinkFacts
namespace Yaml

open Text

/-- A character of a name. -/
def isNameCharacter (c : Char) : Bool := isAlphanumeric c || c == '_' || c == '-'

/-- A character that may follow the name of an anchor directly. -/
def endsName (c : Char) : Bool :=
  isGap c || c == '?' || c == ':' || c == ',' || c == ']' || c == '}' || c == '%' || c == '@' ||
    c.toNat == 0x60

/-- Reads the name of an anchor. -/
def readName (cursor : Cursor) : Option (String × Cursor) :=
  let name := cursor.rest.takeWhile isNameCharacter
  let reached := cursor.skip name.length
  if !name.isEmpty && reached.peek?.all endsName then some (String.ofList name, reached) else none

/-- A character of a tag; commas and brackets only belong to tags that are written out. -/
def isTagCharacter (writtenOut : Bool) (c : Char) : Bool :=
  isNameCharacter c || ";/?:@&=+$.!~*'()%".toList.contains c ||
    (writtenOut && ",[]".toList.contains c)

/-- Every percent sign is followed by two hexadecimal digits. -/
def percentsAreWhole : List Char → Bool
  | '%' :: high :: low :: rest => isHex high && isHex low && percentsAreWhole rest
  | c :: rest => c != '%' && percentsAreWhole rest
  | [] => true

/-- Reads a part of a tag and resolves the percent signs in it. -/
def readTagPart (writtenOut : Bool) (cursor : Cursor) : Option (String × Cursor) :=
  let part := cursor.rest.takeWhile (isTagCharacter writtenOut)
  if percentsAreWhole part then
    (decodeUtf8? (percentDecode part)).map fun decoded =>
      (String.ofList decoded, cursor.skip part.length)
  else none

/-- Reads a handle: an exclamation mark, or a name between two of them. -/
def readHandle (cursor : Cursor) : Option (List Char × Cursor) :=
  if cursor.sees (· == '!') then
    let name := (cursor.rest.drop 1).takeWhile isNameCharacter
    let reached := cursor.skip (name.length + 1)
    if reached.sees (· == '!') then some ('!' :: name ++ ['!'], reached.skip 1)
    else some ('!' :: name, reached)
  else none

/-- A tag as it is written. -/
structure WrittenTag where
  /-- The handle; a tag that is written out has none. -/
  handle : String
  /-- What follows the handle. -/
  suffix : String
  deriving DecidableEq, Repr

/-- The tag may end here. -/
def tagEnds (inFlow : Bool) (cursor : Cursor) : Bool :=
  cursor.gapAt 0 || (inFlow && cursor.sees (· == ','))

/-- Reads a tag that is written out, after its exclamation mark and bracket. -/
def readWholeTag (cursor : Cursor) : Option (WrittenTag × Cursor) :=
  match readTagPart true cursor with
  | none => none
  | some (suffix, reached) =>
    if !suffix.isEmpty && reached.sees (· == '>') then some (⟨"", suffix⟩, reached.skip 1) else none

/-- Reads a tag that starts with a handle; an exclamation mark alone is a whole tag. -/
def readShortTag (cursor : Cursor) : Option (WrittenTag × Cursor) :=
  match readHandle cursor with
  | none => none
  | some (handle, reached) =>
    match readTagPart false reached with
    | none => none
    | some (part, next) =>
      if 1 < handle.length ∧ handle.getLast? = some '!' then
        if part.isEmpty then none else some (⟨String.ofList handle, part⟩, next)
      else
        let suffix := String.ofList (handle.drop 1) ++ part
        some (if suffix.isEmpty then ⟨"", "!"⟩ else ⟨"!", suffix⟩, next)

/-- Reads a tag. -/
def readTag (inFlow : Bool) (cursor : Cursor) : Option (WrittenTag × Cursor) :=
  let read :=
    if cursor.rest[1]? = some '<' then readWholeTag (cursor.skip 2) else readShortTag cursor
  read.filter fun found => tagEnds inFlow found.2

/-- What a directive says. -/
inductive Directive where
  | version (major minor : Nat)
  /-- A handle stands for the first part of tags. -/
  | handle (handle lead : String)
  deriving DecidableEq, Repr

/-- Reads a part of a version, at most nine digits. -/
def readVersionPart (cursor : Cursor) : Option (Nat × Cursor) :=
  let digits := cursor.rest.takeWhile isDecimal
  if digits.length ≤ 9 then
    (readDigits? 10 digits).map fun value => (value, cursor.skip digits.length)
  else none

/-- Reads the two parts of a version. -/
def readVersion (cursor : Cursor) : Option (Directive × Cursor) :=
  match readVersionPart cursor with
  | none => none
  | some (major, reached) =>
    if reached.sees (· == '.') then
      (readVersionPart (reached.skip 1)).map fun (minor, next) => (.version major minor, next)
    else none

/-- Reads a handle and what it stands for. -/
def readHandleDirective (cursor : Cursor) : Option (Directive × Cursor) :=
  match readHandle cursor with
  | none => none
  | some (handle, reached) =>
    if (handle = ['!'] ∨ (1 < handle.length ∧ handle.getLast? = some '!')) ∧
        reached.sees isSpace = true then
      match readTagPart true (reached.skipWhile isSpace) with
      | some (lead, next) =>
        if !lead.isEmpty && next.gapAt 0 then
          some (.handle (String.ofList handle) lead, next)
        else none
      | none => none
    else none

/-- Reads a directive after its percent sign, and passes the rest of its line. -/
def readDirective (cursor : Cursor) : Option (Directive × Cursor) :=
  let name := cursor.rest.takeWhile isNameCharacter
  let reached := cursor.skip name.length
  let content := reached.skipWhile isSpace
  let read :=
    if reached.gapAt 0 then
      if name = "YAML".toList then readVersion content
      else if name = "TAG".toList then readHandleDirective content
      else none
    else none
  read.bind fun (directive, next) =>
    let ended := (next.skipWhile isSpace).skipComment
    if ended.atLineEnd then some (directive, ended.skipBreak) else none

end Yaml
end LinkFacts
