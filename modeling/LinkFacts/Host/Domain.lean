import LinkFacts.Host.Punycode
import LinkFacts.Unicode.Direction
import LinkFacts.Unicode.HostMapping
import LinkFacts.Unicode.Joining
import LinkFacts.Unicode.Mark
import LinkFacts.Unicode.Normal

/-!
# Domain names

The ASCII form of a domain name.  A name of ASCII labels without encoded ones is only put in lower
case; any other name is mapped, normalized, checked label by label and encoded.
-/

namespace LinkFacts
namespace Host

open Text Unicode

/-- The labels between the dots of a name. -/
def labels (name : List Char) : List (List Char) := name.splitOn '.'

/-- A name with dots between its labels. -/
def joinLabels (parts : List (List Char)) : List Char := List.intercalate ['.'] parts

/-- The ASCII characters that no domain name may hold. -/
def isForbidden (c : Char) : Bool :=
  c.toNat ≤ 0x20 || c.toNat = 0x7F ||
    ['#', '%', '/', ':', '<', '>', '?', '@', '[', '\\', ']', '^', '|'].contains c

/-- The start of an encoded label. -/
def encodedMark : List Char := ['x', 'n', '-', '-']

/-- A label whose ASCII form is encoded. -/
def isEncoded (label : List Char) : Bool := encodedMark.isPrefixOf (label.map lowerAscii)

/-- The rest of a label after the mark of an encoded one. -/
def afterMark (label : List Char) : List Char := label.drop encodedMark.length

/-- Maps the characters of a name. -/
def mapName (name : List Char) : Option (List Char) :=
  (name.mapM fun c =>
    match hostMapping c with
    | .kept => some [c]
    | .ignored => some []
    | .replaced target => some target
    | .refused => none).map List.flatten

/-- A character that an encoded label may stand for. -/
def isKept (c : Char) : Bool := hostMapping c == .kept

/-- The text of a label, decoded if it is an encoded one. -/
def labelText? (label : List Char) : Option (List Char) :=
  if isEncoded label then
    match Punycode.decode (afterMark label) with
    | none => none
    | some text =>
      if text.all isAscii || !text.all isKept || normalize text != text then none else some text
  else some label

/-- Letters before a non-joiner join it, and so do letters after it. -/
def joinsAcross (before after : List Char) : Bool :=
  let passes := fun c => joiningOf c == .transparent
  (match before.dropWhile passes with
    | c :: _ => joiningOf c == .toRight || joiningOf c == .dual
    | [] => false) &&
  match after.dropWhile passes with
  | c :: _ => joiningOf c == .toLeft || joiningOf c == .dual
  | [] => false

/-- Joiners stand where they have an effect; `before` is what precedes, the last one first. -/
def joinersFit : List Char → List Char → Bool
  | _, [] => true
  | before, c :: rest =>
    let afterVirama :=
      match before with
      | mark :: _ => combiningClass mark == viramaClass
      | [] => false
    (if c.toNat = 0x200C then afterVirama || joinsAcross before rest
      else if c.toNat = 0x200D then afterVirama
      else true) && joinersFit (c :: before) rest

/-- A label starts with no mark and its joiners have an effect. -/
def isWellFormed (label : List Char) : Bool :=
  (match label with
    | c :: _ => !isMark c
    | [] => true) && joinersFit [] label

/-- A character that makes a name one of a right-to-left script. -/
def isRightToLeft (c : Char) : Bool :=
  match directionOf c with
  | .rightToLeft | .arabicLetter | .arabicNumber => true
  | _ => false

/-- A class that labels of both directions may hold. -/
def isShared : Direction → Bool
  | .europeanNumber | .europeanSeparator | .commonSeparator | .europeanTerminator
  | .otherNeutral | .boundaryNeutral | .nonspacing => true
  | _ => false

/-- The class of the last character that is no nonspacing mark. -/
def lastDirection? (directions : List Direction) : Option Direction :=
  (directions.reverse.dropWhile (· == .nonspacing)).head?

/-- A label of a right-to-left name keeps to one direction. -/
def keepsDirection (label : List Char) : Bool :=
  let directions := label.map directionOf
  match directions with
  | [] => true
  | .leftToRight :: _ =>
    directions.all (fun d => d == .leftToRight || isShared d) &&
      (match lastDirection? directions with
        | some .leftToRight | some .europeanNumber => true
        | _ => false)
  | first :: _ =>
    (first == .rightToLeft || first == .arabicLetter) &&
      directions.all (fun d =>
        d == .rightToLeft || d == .arabicLetter || d == .arabicNumber || isShared d) &&
      (match lastDirection? directions with
        | some .rightToLeft | some .arabicLetter | some .europeanNumber | some .arabicNumber =>
          true
        | _ => false) &&
      !(directions.contains .europeanNumber && directions.contains .arabicNumber)

/-- The longest label that is encoded. -/
def longestEncodable : Nat := 1000

/-- The longest encoded label that is read. -/
def longestDecodable : Nat := 2000

/-- The ASCII form of a label whose text is known. -/
def encodeLabel? (label text : List Char) : Option (List Char) :=
  if text.all isAscii then some label
  else if isEncoded label then
    if longestDecodable < (afterMark label).length then none else some label
  else if longestEncodable < text.length then none
  else some (encodedMark ++ Punycode.encode text)

/-- The ASCII form of a name that is not plain. -/
def encodeName (name : List Char) : Option (List Char) :=
  match mapName name with
  | none => none
  | some mapped =>
    let parts := labels (normalize mapped)
    match parts.mapM labelText? with
    | none => none
    | some texts =>
      if texts.any (fun text => text.any fun c => isAscii c && isForbidden c) then none
      else if !texts.all isWellFormed then none
      else if texts.any (fun text => text.any isRightToLeft) && !texts.all keepsDirection then none
      else ((parts.zip texts).mapM fun pair => encodeLabel? pair.1 pair.2).map joinLabels

/-- A name of ASCII characters without encoded labels. -/
def isPlain (name : List Char) : Bool :=
  name.all isAscii && !(labels name).any isEncoded

/-- The ASCII form of a domain name, if it is a valid one. -/
def toAscii? (name : List Char) : Option (List Char) :=
  if isPlain name then if name.any isForbidden then none else some (name.map lowerAscii)
  else encodeName name

end Host
end LinkFacts
