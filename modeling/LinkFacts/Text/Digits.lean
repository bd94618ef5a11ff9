/-!
# Digits in a radix

Reading digits and writing numbers in radix two to sixteen, over lists of characters.
-/

namespace LinkFacts
namespace Text

/-- The value of a hexadecimal digit in either letter case. -/
def digitValue? (c : Char) : Option Nat :=
  if '0' ≤ c ∧ c ≤ '9' then some (c.toNat - '0'.toNat)
  else if 'a' ≤ c ∧ c ≤ 'f' then some (c.toNat - 'a'.toNat + 10)
  else if 'A' ≤ c ∧ c ≤ 'F' then some (c.toNat - 'A'.toNat + 10)
  else none

/-- A digit of the given radix. -/
def isDigitOf (radix : Nat) (c : Char) : Bool :=
  match digitValue? c with
  | some value => value < radix
  | none => false

/-- An ASCII decimal digit. -/
abbrev isDecimal (c : Char) : Bool := isDigitOf 10 c

/-- An ASCII hexadecimal digit. -/
abbrev isHex (c : Char) : Bool := isDigitOf 16 c

/-- The number that the characters denote after `value` in the given radix. -/
def foldDigits (radix value : Nat) (cs : List Char) : Nat :=
  cs.foldl (fun total c => total * radix + (digitValue? c).getD 0) value

/-- The number denoted by a nonempty list of digits of the radix, and of nothing else. -/
def readDigits? (radix : Nat) (cs : List Char) : Option Nat :=
  if cs.isEmpty || !cs.all (isDigitOf radix) then none else some (foldDigits radix 0 cs)

/-- A number in the given radix, with lower case letters. -/
def writeDigits (radix value : Nat) : List Char := Nat.toDigits radix value

/-- A number in the given radix, padded with zeros to a least width. -/
def writePadded (radix width value : Nat) : List Char :=
  let digits := writeDigits radix value
  List.replicate (width - digits.length) '0' ++ digits

/-- An ASCII letter. -/
def isLetter (c : Char) : Bool :=
  ('a' ≤ c && c ≤ 'z') || ('A' ≤ c && c ≤ 'Z')

/-- An ASCII letter or digit. -/
def isAlphanumeric (c : Char) : Bool := isLetter c || isDecimal c

/-- An ASCII character. -/
def isAscii (c : Char) : Bool := c.toNat < 0x80

/-- ASCII letters in lower case, everything else as it stands. -/
def lowerAscii (c : Char) : Char :=
  if 'A' ≤ c ∧ c ≤ 'Z' then Char.ofNat (c.toNat + 32) else c

end Text
end LinkFacts
