import LinkFacts.Text.Digits

/-!
# Addresses of four bytes

A host whose last label is a number is an address: up to four numbers, each decimal, octal after a
zero or hexadecimal after `0x`; the last of them fills the bytes that remain.
-/

namespace LinkFacts
namespace Host

open Text

/-- Reads a number of an address; `none` if the text is no number. -/
def readAddressPart? : List Char → Option Nat
  | [] => none
  | '0' :: 'x' :: digits => hexadecimal digits
  | '0' :: 'X' :: digits => hexadecimal digits
  | ['0'] => some 0
  | '0' :: digits => readDigits? 8 digits
  | digits => readDigits? 10 digits
where
  /-- No digits mean zero. -/
  hexadecimal (digits : List Char) : Option Nat :=
    if digits.isEmpty then some 0 else readDigits? 16 digits

/-- The parts of a name, without an empty last one. -/
def addressParts (parts : List (List Char)) : List (List Char) :=
  match parts.reverse with
  | [] :: before => before.reverse
  | _ => parts

/-- The last part of a name is a number, so the name has to be an address. -/
def endsInNumber (parts : List (List Char)) : Bool :=
  match (addressParts parts).reverse with
  | [] => false
  | last :: _ => (!last.isEmpty && last.all isDecimal) || (readAddressPart? last).isSome

/-- The address of the given parts: the last one fills the remaining bytes. -/
def joinAddress? (before : List Nat) (last : Nat) : Option Nat :=
  if 4 ≤ before.length then none
  else if before.any (255 < ·) then none
  else if Nat.pow 256 (4 - before.length) ≤ last then none
  else some (before.foldl (fun value byte => value * 256 + byte) 0 *
    Nat.pow 256 (4 - before.length) + last)

/-- Reads an address of four bytes. -/
def readIpv4? (parts : List (List Char)) : Option Nat :=
  match (addressParts parts).mapM readAddressPart? with
  | none => none
  | some numbers =>
    match numbers.reverse with
    | [] => none
    | last :: before => joinAddress? before.reverse last

/-- Four decimal numbers with dots between them. -/
def writeIpv4 (address : Nat) : List Char :=
  List.intercalate ['.'] ([3, 2, 1, 0].map fun place =>
    writeDigits 10 (address / Nat.pow 256 place % 256))

end Host
end LinkFacts
