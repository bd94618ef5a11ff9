import LinkFacts.Host.Domain
import LinkFacts.Host.Ipv6
import LinkFacts.Text.Percent

/-!
# Hosts

The host of an address: a name or a numeric address.  Addresses of schemes with domain names have
their names written in ASCII; other addresses have opaque names.
-/

namespace LinkFacts

open Text

/-- The host of an address. -/
inductive Host where
  /-- A domain name in ASCII, or an opaque name. -/
  | name (text : List Char)
  /-- An address of four bytes. -/
  | ipv4 (address : Nat)
  /-- An address of eight pieces. -/
  | ipv6 (pieces : List Nat)
  deriving DecidableEq, Repr

namespace Host

/-- Why a text is no host. -/
inductive Fault where
  /-- There is no name. -/
  | empty
  /-- The name has no ASCII form. -/
  | invalidName
  /-- The name ends in a number but is no address. -/
  | invalidIpv4
  /-- The text in brackets is no address. -/
  | invalidIpv6
  /-- An opaque name holds a character that it may not hold. -/
  | invalidCharacter
  deriving DecidableEq, Repr

/-- The text of a host. -/
def write : Host → List Char
  | name text => text
  | ipv4 address => writeIpv4 address
  | ipv6 pieces => '[' :: writeIpv6 pieces ++ [']']

/-- Reads an address after its opening bracket. -/
def readBracketed (source : List Char) : Except Fault Host :=
  match source.reverse with
  | ']' :: inner =>
    match readIpv6? inner.reverse with
    | some pieces => .ok (ipv6 pieces)
    | none => .error .invalidIpv6
  | _ => .error .invalidIpv6

/-- The host with a given ASCII name. -/
def ofAscii (text : List Char) : Except Fault Host :=
  if text.isEmpty then .error .empty
  else if endsInNumber (labels text) then
    match readIpv4? (labels text) with
    | some address => .ok (ipv4 address)
    | none => .error .invalidIpv4
  else .ok (name text)

/-- Reads a host of a scheme with domain names. -/
def read (source : List Char) : Except Fault Host :=
  match source with
  | '[' :: rest => readBracketed rest
  | _ =>
    match toAscii? (decodeUtf8Lossy (percentDecode source)) with
    | none => .error .invalidName
    | some text => ofAscii text

/-- The characters that no opaque name may hold. -/
def isForbiddenOpaque (c : Char) : Bool :=
  ['\x00', '\t', '\n', '\r', ' ', '#', '/', ':', '<', '>', '?', '@', '[', '\\', ']', '^',
    '|'].contains c

/-- The control characters. -/
def isControl (c : Char) : Bool := c.toNat < 0x20 || c.toNat = 0x7F

/-- Reads a host of any other scheme. -/
def readOpaque (source : List Char) : Except Fault Host :=
  match source with
  | '[' :: rest => readBracketed rest
  | _ =>
    if source.any isForbiddenOpaque then .error .invalidCharacter
    else .ok (name (percentEncode isControl source))

end Host
end LinkFacts
