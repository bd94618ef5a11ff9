import LinkFacts.Host.Basic

/-!
# Addresses

An address as its parts: the scheme, who and where, the path, the query and the fragment.  The
text of an address is determined by its parts.
-/

namespace LinkFacts

/-- Who is asked, and where. -/
structure Authority where
  /-- The user name, encoded. -/
  username : List Char
  /-- The password, encoded. -/
  password : Option (List Char)
  /-- The host; some schemes allow none. -/
  host : Option Host
  /-- The port, unless it is the usual one. -/
  port : Option Nat
  deriving DecidableEq

/-- An address, every part in its normal form. -/
structure Address where
  /-- The scheme in lower case. -/
  scheme : List Char
  /-- What follows a double slash. -/
  authority : Option Authority
  /-- The path; it starts with a slash unless it is empty or opaque. -/
  path : List Char
  /-- The query after its question mark. -/
  query : Option (List Char)
  /-- The fragment after its number sign. -/
  fragment : Option (List Char)
  deriving DecidableEq

/-- How the rest of an address is read after its scheme. -/
inductive SchemeKind where
  /-- Files of a machine. -/
  | file
  /-- A scheme with domain names and a usual port. -/
  | network
  /-- Any other scheme. -/
  | general
  deriving DecidableEq, Repr

namespace SchemeKind

/-- Backslashes separate, hosts are domain names, and paths are never empty. -/
def isSpecial : SchemeKind → Bool
  | general => false
  | _ => true

end SchemeKind

namespace Address

/-- The schemes with domain names and their usual ports. -/
def usualPorts : List (String × Nat) :=
  [("http", 80), ("https", 443), ("ws", 80), ("wss", 443), ("ftp", 21)]

/-- The usual port of a scheme. -/
def usualPort? (scheme : List Char) : Option Nat := usualPorts.lookup (String.ofList scheme)

/-- The kind of a scheme. -/
def kindOf (scheme : List Char) : SchemeKind :=
  if scheme = "file".toList then .file
  else if (usualPort? scheme).isSome then .network
  else .general

/-- Why a text is no address. -/
inductive Fault where
  /-- The host is missing. -/
  | emptyHost
  /-- The host is a domain name without ASCII form. -/
  | invalidDomainName
  /-- The port is no number below `2 ^ 16`. -/
  | invalidPort
  /-- The host looks like an address of four bytes but is none. -/
  | invalidIpv4
  /-- The host looks like an address of eight pieces but is none. -/
  | invalidIpv6
  /-- The host holds a character that it may not hold. -/
  | invalidDomainCharacter
  /-- There is no scheme, and nothing to resolve against. -/
  | relativeWithoutBase
  /-- There is no scheme, and the base has an opaque path. -/
  | relativeToOpaque
  deriving DecidableEq, Repr

/-- The wording of a fault. -/
def Fault.message : Fault → String
  | emptyHost => "empty host"
  | invalidDomainName => "invalid international domain name"
  | invalidPort => "invalid port number"
  | invalidIpv4 => "invalid IPv4 address"
  | invalidIpv6 => "invalid IPv6 address"
  | invalidDomainCharacter => "invalid domain character"
  | relativeWithoutBase => "relative URL without a base"
  | relativeToOpaque => "relative URL with a cannot-be-a-base base"

/-- The fault of an address whose host is refused. -/
def Fault.ofHost : Host.Fault → Fault
  | .empty => emptyHost
  | .invalidName => invalidDomainName
  | .invalidIpv4 => invalidIpv4
  | .invalidIpv6 => invalidIpv6
  | .invalidCharacter => invalidDomainCharacter

/-- The path is no hierarchy of segments. -/
def isOpaque (address : Address) : Bool :=
  address.authority.isNone && address.path.head? != some '/'

/-- Who is asked, before the host. -/
def writeCredentials (authority : Authority) : List Char :=
  match authority.password with
  | some password => authority.username ++ ':' :: password ++ ['@']
  | none => if authority.username.isEmpty then [] else authority.username ++ ['@']

/-- The port after its colon. -/
def writePort : Option Nat → List Char
  | some port => ':' :: Text.writeDigits 10 port
  | none => []

/-- What stands between the colon of the scheme and the path. -/
def writeAuthority (authority : Authority) : List Char :=
  ['/', '/'] ++ writeCredentials authority ++ (authority.host.elim [] Host.write) ++
    writePort authority.port

/-- A path that starts with two slashes is kept from being taken for an authority. -/
def guardPath (path : List Char) : List Char :=
  if ['/', '/'].isPrefixOf path then '/' :: '.' :: path else path

/-- An optional part after its mark. -/
def writePart (mark : Char) : Option (List Char) → List Char
  | some part => mark :: part
  | none => []

/-- The characters of an address. -/
def write (address : Address) : List Char :=
  address.scheme ++ ':' ::
    (match address.authority with
      | some authority => writeAuthority authority ++ address.path
      | none => guardPath address.path) ++
    writePart '?' address.query ++ writePart '#' address.fragment

/-- The text of an address. -/
def toText (address : Address) : String := String.ofList address.write

end Address
end LinkFacts
