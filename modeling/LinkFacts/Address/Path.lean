import LinkFacts.Address.Basic

/-!
# Paths

A path grows segment by segment.  Dots remove what they point back over, and the drive letter of a
file path stays where it is.
-/

namespace LinkFacts
namespace Address

open Text

/-- The characters that are encoded in fragments. -/
def encodedInFragment (c : Char) : Bool :=
  Host.isControl c || [' ', '"', '<', '>', '`'].contains c

/-- The characters that are encoded in paths. -/
def encodedInPath (c : Char) : Bool := encodedInFragment c || ['#', '?', '{', '}'].contains c

/-- The characters that are encoded in user names and passwords. -/
def encodedInCredentials (c : Char) : Bool :=
  encodedInPath c || ['/', ':', ';', '=', '@', '[', '\\', ']', '^', '|'].contains c

/-- The characters that are encoded in queries. -/
def encodedInQuery (kind : SchemeKind) (c : Char) : Bool :=
  Host.isControl c || [' ', '"', '#', '<', '>'].contains c || (kind.isSpecial && c == '\'')

/-- A letter and a colon. -/
def isDrive : List Char → Bool
  | [letter, ':'] => isLetter letter
  | _ => false

/-- A letter and a colon or a bar. -/
def isDriveSpelling : List Char → Bool
  | [letter, mark] => isLetter letter && (mark == ':' || mark == '|')
  | _ => false

/-- A separator or the start of what follows a path. -/
def endsSegment (c : Char) : Bool := c == '/' || c == '\\' || c == '?' || c == '#'

/-- The text starts with a segment that is a drive letter. -/
def startsWithDrive : List Char → Bool
  | letter :: mark :: rest =>
    isLetter letter && (mark == ':' || mark == '|') &&
      (match rest with
        | [] => true
        | c :: _ => endsSegment c)
  | _ => false

/-- The spellings of a segment that points to its parent. -/
def isDoubleDot (segment : List Char) : Bool :=
  [['.', '.'], ['%', '2', 'e', '.'], ['.', '%', '2', 'e'], ['%', '2', 'e', '%', '2', 'e']].contains
    (segment.map lowerAscii)

/-- The spellings of a segment that points to itself. -/
def isSingleDot (segment : List Char) : Bool :=
  [['.'], ['%', '2', 'e']].contains (segment.map lowerAscii)

/-- The text after the last slash. -/
def lastSegment (path : List Char) : List Char :=
  (path.reverse.takeWhile (· != '/')).reverse

/-- The text up to the last slash. -/
def upToLastSlash (path : List Char) : List Char :=
  (path.reverse.dropWhile (· != '/')).reverse

/-- The path without its last segment; a file keeps its drive letter. -/
def dropLastSegment (kind : SchemeKind) (path : List Char) : List Char :=
  if kind = .file && isDrive (lastSegment path) then path else upToLastSlash path

/-- The path ends with a slash. -/
def endsWithSlash (path : List Char) : Bool := path.getLast? == some '/'

/-- The path with a slash at its end. -/
def closePath (path : List Char) : List Char := if endsWithSlash path then path else path ++ ['/']

/-- The slash at the end closes a segment that is no drive letter. -/
def closesSegment (path : List Char) : Bool :=
  let before := path.dropLast
  before.contains '/' && !startsWithDrive (lastSegment before ++ ['/'])

/-- The path of the parent directory. -/
def parentPath (kind : SchemeKind) (path : List Char) : List Char :=
  dropLastSegment kind (if endsWithSlash path && closesSegment path then path.dropLast else path)

/-- A path under construction. -/
structure PathState where
  /-- The path so far. -/
  path : List Char
  /-- A drive letter made the host meaningless. -/
  replacesHost : Bool

/-- Adds a segment; `closed` tells whether a separator follows it. -/
def PathState.add (kind : SchemeKind) (state : PathState) (segment : List Char) (closed : Bool) :
    PathState :=
  let path :=
    if kind = .file && !segment.isEmpty && isDrive (state.path.drop 1) then state.path ++ ['/']
    else state.path
  let encoded := percentEncode encodedInPath segment
  let slash := if closed then ['/'] else []
  if isDoubleDot encoded then
    let parent := parentPath kind path
    { state with path := if closed then closePath parent else parent }
  else if isSingleDot encoded then { state with path := closePath path }
  else if kind = .file && path.length == 1 && isDriveSpelling encoded then
    ⟨path ++ (encoded.take 1 ++ [':']) ++ slash, true⟩
  else { state with path := path ++ encoded ++ slash }

/-- Adds the segments between separators. -/
def PathState.addAll (kind : SchemeKind) : PathState → List (List Char) → PathState
  | state, [] => state
  | state, [last] => state.add kind last false
  | state, segment :: rest => (state.add kind segment true).addAll kind rest

/-- A separator of segments. -/
def isSeparator (kind : SchemeKind) (c : Char) : Bool := c == '/' || (kind.isSpecial && c == '\\')

/-- The query or the fragment starts here. -/
def endsPath (c : Char) : Bool := c == '?' || c == '#'

/-- Extends a path by the text up to the query or the fragment. -/
def extendPath (kind : SchemeKind) (path source : List Char) : PathState :=
  let segments := (source.takeWhile (!endsPath ·)).splitOnP (isSeparator kind)
  let state := PathState.addAll kind ⟨path, false⟩ segments
  if kind = .file then { state with path := '/' :: state.path.dropWhile (· == '/') } else state

end Address
end LinkFacts
