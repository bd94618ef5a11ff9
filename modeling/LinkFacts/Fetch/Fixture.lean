import LinkFacts.Facts.Document
import LinkFacts.Files.Tree

/-!
# Fixtures

Facts of repositories that are read from one document instead of being fetched: an object that
maps links, in any spelling, to facts.
-/

namespace LinkFacts

/-- Facts by link. -/
structure Fixture where
  /-- What the fixture is called. -/
  name : String
  /-- The facts of each link; no link repeats. -/
  entries : List (Link × Facts)

namespace Fixture

/-- Puts the facts of a link in place of earlier ones. -/
def insert (entries : List (Link × Facts)) (link : Link) (facts : Facts) : List (Link × Facts) :=
  match entries with
  | [] => [(link, facts)]
  | entry :: rest =>
    if entry.1 = link then (link, facts) :: rest else entry :: insert rest link facts

/-- The members of an object whose keys are not repeated later. -/
def lastMembers {α : Type} : List (String × α) → List (String × α)
  | [] => []
  | member :: rest =>
    if rest.any (·.1 = member.1) then lastMembers rest else member :: lastMembers rest

/-- The facts of each link, from the members of a document; fails at the first that is no link. -/
def collect (entries : List (Link × Facts)) :
    List (String × Facts) → Except Failure (List (Link × Facts))
  | [] => .ok entries
  | (target, facts) :: rest =>
    match Link.ofTarget target with
    | .ok link => collect (insert entries link facts) rest
    | .error fault => .error (.ofLink fault)

/-- The members of a fixture document. -/
def readMembers (text : String) : Except Json.Fault (List (String × Facts)) :=
  Json.readDocument (Json.readObject Facts.read Json.greatestDepth) text.toList

/-- The fixture of a document. -/
def ofJson (text : String) : Except Failure Fixture :=
  match readMembers text with
  | .error fault => .error (.ofDocument fault)
  | .ok members =>
    match collect [] (lastMembers members) with
    | .error failure => .error failure
    | .ok entries => .ok ⟨"fixture", entries⟩

/-- Calls the fixture by another name. -/
def withName (fixture : Fixture) (name : String) : Fixture := { fixture with name }

/-- The fixture of the document in a file, which is called by the path. -/
def ofFile (reader : Files.Reader) (path : String) : Except Failure Fixture :=
  match Files.readText reader path with
  | .error fault => .error (.ofFile fault)
  | .ok document =>
    match ofJson document with
    | .error failure => .error failure
    | .ok fixture => .ok (fixture.withName path)

/-- How many links there are. -/
def size (fixture : Fixture) : Nat := fixture.entries.length

/-- There is no link. -/
def isEmpty (fixture : Fixture) : Bool := fixture.entries.isEmpty

/-- The facts of a link. -/
def fetch (fixture : Fixture) (link : Link) : Except Failure Facts :=
  match fixture.entries.lookup link with
  | some facts => .ok facts
  | none => .error (.notFound link)

end Fixture
end LinkFacts
