import LinkFacts.Address.Path
import LinkFacts.Text.Blank

/-!
# Reading addresses

An address is read from a text, or resolved against a base the way a browser resolves a link.  The
text is read in one pass: scheme, authority, path, query, fragment; what is missing at the front is
taken from the base.
-/

namespace LinkFacts
namespace Address

open Text

/-- A control character or a space. -/
def isPadding (c : Char) : Bool := c.toNat ≤ 0x20

/-- A line break or tab, which is skipped wherever it stands. -/
def isSkipped (c : Char) : Bool := c == '\t' || c == '\n' || c == '\r'

/-- The characters of a text that matter. -/
def clean (source : List Char) : List Char := (strip isPadding source).filter (!isSkipped ·)

/-- A character that a scheme may hold after its first letter. -/
def isSchemeChar (c : Char) : Bool := isAlphanumeric c || c == '+' || c == '-' || c == '.'

/-- The scheme in lower case and the text after its colon. -/
def readScheme? (source : List Char) : Option (List Char × List Char) :=
  match source with
  | [] => none
  | first :: _ =>
    if !isLetter first then none
    else
      match source.dropWhile isSchemeChar with
      | ':' :: rest => some ((source.takeWhile isSchemeChar).map lowerAscii, rest)
      | _ => none

/-- The text from the first question mark or number sign on. -/
def afterPath (source : List Char) : List Char := source.dropWhile (!endsPath ·)

/-- Reads the fragment after its number sign. -/
def readFragment (source : List Char) : List Char := percentEncode encodedInFragment source

/-- Replaces query and fragment by what the text, which starts with their mark, gives. -/
def withSuffix (kind : SchemeKind) (address : Address) (source : List Char) : Address :=
  match source with
  | '#' :: fragment => { address with query := none, fragment := some (readFragment fragment) }
  | '?' :: rest =>
    { address with
      query := some (percentEncode (encodedInQuery kind) (rest.takeWhile (· != '#')))
      fragment :=
        match rest.dropWhile (· != '#') with
        | _ :: fragment => some (readFragment fragment)
        | [] => none }
  | _ => { address with query := none, fragment := none }

/-- The authority ends here. -/
def endsAuthority (kind : SchemeKind) (c : Char) : Bool := isSeparator kind c || endsPath c

/-- The text before the last at sign and the text after it. -/
def splitLastAt? (region : List Char) : Option (List Char × List Char) :=
  match region.reverse.dropWhile (· != '@') with
  | [] => none
  | _ :: before => some (before.reverse, (region.reverse.takeWhile (· != '@')).reverse)

/-- A user name and a password. -/
def readCredentials (source : List Char) : List Char × Option (List Char) :=
  let encode := percentEncode encodedInCredentials
  let password :=
    match source.dropWhile (· != ':') with
    | _ :: c :: rest => some (encode (c :: rest))
    | _ => none
  (encode (source.takeWhile (· != ':')), password)

/-- Reads user name and password; returns them and the text after the at sign. -/
def readUser (kind : SchemeKind) (source : List Char) :
    Except Fault ((List Char × Option (List Char)) × List Char) :=
  let region := source.takeWhile (!endsAuthority kind ·)
  match splitLastAt? region with
  | none => .ok (([], none), source)
  | some (before, after) =>
    let rest := after ++ source.drop region.length
    if before.isEmpty then
      match rest with
      | c :: _ => if endsAuthority kind c then .error .emptyHost else .ok (([], none), rest)
      | [] => .ok (([], none), rest)
    else .ok (readCredentials before, rest)

/-- The text of a host, up to a colon outside brackets or the end of the authority. -/
def takeHost (kind : SchemeKind) : Bool → List Char → List Char
  | _, [] => []
  | bracketed, c :: rest =>
    if (c == ':' && !bracketed) || endsAuthority kind c then []
    else c :: takeHost kind (if c == '[' then true else if c == ']' then false else bracketed) rest

/-- Reads a host in the way of a kind of scheme; an empty opaque name is none. -/
def readHost (kind : SchemeKind) (source : List Char) : Except Fault (Option Host) :=
  if source.isEmpty then if kind.isSpecial then .error .emptyHost else .ok none
  else
    match if kind.isSpecial then Host.read source else Host.readOpaque source with
    | .error fault => .error (.ofHost fault)
    | .ok host => .ok (some host)

/-- Ports lie below this bound. -/
def portBound : Nat := Nat.pow 2 16

/-- Reads a port after its colon; returns it and the text after it. -/
def readPort (usual : Option Nat) (source : List Char) :
    Except Fault (Option Nat × List Char) :=
  let digits := source.takeWhile isDecimal
  let rest := source.drop digits.length
  let port := foldDigits 10 0 digits
  let ended :=
    match rest with
    | [] => true
    | c :: _ => endsSegment c
  if portBound ≤ port || !ended then .error .invalidPort
  else if digits.isEmpty || usual = some port then .ok (none, rest)
  else .ok (some port, rest)

/-- Reads the host and the port of an authority. -/
def readPlace (kind : SchemeKind) (scheme source : List Char) :
    Except Fault ((Option Host × Option Nat) × List Char) :=
  let text := takeHost kind false source
  match readHost kind text with
  | .error fault => .error fault
  | .ok host =>
    match source.drop text.length with
    | ':' :: rest =>
      if host.isNone then .error .emptyHost
      else
        match readPort (usualPort? scheme) rest with
        | .error fault => .error fault
        | .ok (port, after) => .ok ((host, port), after)
    | rest => .ok ((host, none), rest)

/-- The path after an authority. -/
def readPathAfterAuthority (kind : SchemeKind) (source : List Char) : List Char :=
  match source with
  | [] => if kind.isSpecial then (extendPath kind ['/'] []).path else []
  | c :: rest =>
    if kind.isSpecial then
      (extendPath kind ['/'] (if c == '/' || c == '\\' then rest else c :: rest)).path
    else if endsPath c then []
    else (extendPath kind (if c == '/' then [] else ['/']) (c :: rest)).path

/-- Reads an address after the double slash of its authority. -/
def readAuthority (kind : SchemeKind) (scheme source : List Char) : Except Fault Address :=
  match readUser kind source with
  | .error fault => .error fault
  | .ok ((username, password), rest) =>
    match readPlace kind scheme rest with
    | .error fault => .error fault
    | .ok ((host, port), after) =>
      if host.isNone && !(username.isEmpty && password.isNone) then .error .emptyHost
      else
        .ok (withSuffix kind
          { scheme := scheme
            authority := some ⟨username, password, host, port⟩
            path := readPathAfterAuthority kind after
            query := none
            fragment := none }
          (afterPath after))

/-- Replaces the path of an address by an extension of a given one. -/
def extendFrom (kind : SchemeKind) (address : Address) (path source : List Char) : Address :=
  withSuffix kind { address with path := (extendPath kind path source).path } (afterPath source)

/-- An address without authority and path. -/
def bare (scheme : List Char) : Address := ⟨scheme, none, [], none, none⟩

/-- Reads an address of a general scheme after its colon. -/
def readGeneral (scheme source : List Char) : Except Fault Address :=
  match source with
  | '/' :: '/' :: rest => readAuthority .general scheme rest
  | '/' :: rest => .ok (extendFrom .general (bare scheme) ['/'] rest)
  | _ =>
    .ok (withSuffix .general
      { bare scheme with path := percentEncode Host.isControl (source.takeWhile (!endsPath ·)) }
      (afterPath source))

/-- A slash in either direction. -/
def isSlash (c : Char) : Bool := c == '/' || c == '\\'

/-- Reads a text without scheme against a base that is no file. -/
def readRelative (kind : SchemeKind) (base : Address) (source : List Char) :
    Except Fault Address :=
  match source with
  | [] => .ok { base with fragment := none }
  | '#' :: fragment => .ok { base with fragment := some (readFragment fragment) }
  | '?' :: _ => .ok (withSuffix kind base source)
  | c :: rest =>
    if isSlash c then
      match rest with
      | d :: after =>
        if isSlash d then
          readAuthority kind base.scheme
            (if c == '/' && d == '/' then after else source.dropWhile isSlash)
        else .ok (extendFrom kind base ['/'] rest)
      | [] => .ok (extendFrom kind base ['/'] rest)
    else
      let parent := dropLastSegment kind base.path
      .ok (extendFrom kind base (if parent.isEmpty then ['/'] else parent) source)

/-- The scheme of files. -/
def fileScheme : List Char := ['f', 'i', 'l', 'e']

/-- A file of a host. -/
def fileOn (host : Option Host) : Address :=
  ⟨fileScheme, some ⟨[], none, host, none⟩, [], none, none⟩

/-- Reads the host of a file; a drive letter is no host, and the own machine needs none. -/
def readFileHost (source : List Char) : Except Fault (Option Host × List Char) :=
  let text := source.takeWhile (!endsSegment ·)
  if isDriveSpelling text then .ok (none, source)
  else if text.isEmpty then .ok (none, source)
  else
    match Host.read text with
    | .error fault => .error (.ofHost fault)
    | .ok host =>
      let own := host = .name ['l', 'o', 'c', 'a', 'l', 'h', 'o', 's', 't']
      .ok (if own then none else some host, source.drop text.length)

/-- Reads a file after a double slash. -/
def readFileAuthority (source : List Char) : Except Fault Address :=
  match readFileHost source with
  | .error fault => .error fault
  | .ok (host, rest) =>
    let after :=
      match rest with
      | c :: more => if host.isSome && isSlash c then more else rest
      | [] => rest
    let state := extendPath .file ['/'] after
    .ok (withSuffix .file { fileOn (if state.replacesHost then none else host) with
      path := state.path } (afterPath after))

/-- The first segment of a path. -/
def firstSegment (path : List Char) : List Char := (path.drop 1).takeWhile (· != '/')

/-- Reads a file path after a single slash; a base gives its drive letter or else its host. -/
def readFileRoot (base : Option Address) (source : List Char) : Address :=
  let start : Option Host × List Char :=
    match base with
    | some base =>
      if startsWithDrive (source.drop 1) then (none, [])
      else if isDrive (firstSegment base.path) then (none, '/' :: firstSegment base.path)
      else (base.authority.bind Authority.host, [])
    | none => (none, [])
  extendFrom .file (fileOn start.1) start.2 source

/-- Reads a file after the colon of its scheme, or without scheme against a base that is a file. -/
def readFile (base : Option Address) (source : List Char) : Except Fault Address :=
  match source with
  | c :: rest =>
    if isSlash c then
      match rest with
      | d :: after =>
        if isSlash d then readFileAuthority after else .ok (readFileRoot base source)
      | [] => .ok (readFileRoot base source)
    else
      match base with
      | none => .ok (extendFrom .file (fileOn none) ['/'] source)
      | some base =>
        if c == '?' then .ok (withSuffix .file base source)
        else if c == '#' then .ok { base with fragment := some (readFragment rest) }
        else if startsWithDrive source then .ok (extendFrom .file (fileOn none) ['/'] source)
        else .ok (extendFrom .file base (dropLastSegment .file base.path) source)
  | [] =>
    match base with
    | none => .ok (extendFrom .file (fileOn none) ['/'] [])
    | some base => .ok { base with fragment := none }

/-- Reads an address after the colon of its scheme. -/
def readWithScheme (base : Option Address) (scheme source : List Char) : Except Fault Address :=
  let sameScheme := base.filter fun address => address.scheme = scheme
  match kindOf scheme with
  | .file => readFile sameScheme source
  | .general => readGeneral scheme source
  | .network =>
    match sameScheme with
    | some base =>
      if (source.takeWhile isSlash).length < 2 then readRelative .network base source
      else readAuthority .network scheme (source.dropWhile isSlash)
    | none => readAuthority .network scheme (source.dropWhile isSlash)

/-- Reads a text without scheme against a base. -/
def readAgainst (base : Address) (source : List Char) : Except Fault Address :=
  match source with
  | '#' :: fragment => .ok { base with fragment := some (readFragment fragment) }
  | _ =>
    if base.isOpaque then .error .relativeToOpaque
    else
      match kindOf base.scheme with
      | .file => readFile (some base) source
      | kind => readRelative kind base source

/-- Resolves a text against a base, if there is one. -/
def resolve (base : Option Address) (text : String) : Except Fault Address :=
  let source := clean text.toList
  match readScheme? source with
  | some (scheme, rest) => readWithScheme base scheme rest
  | none =>
    match base with
    | some base => readAgainst base source
    | none => .error .relativeWithoutBase

/-- Reads an absolute address. -/
def ofText (text : String) : Except Fault Address := resolve none text

end Address
end LinkFacts
