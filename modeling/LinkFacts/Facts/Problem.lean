import LinkFacts.Json.Basic
import LinkFacts.Link

/-!
# Problems with facts

Why facts cannot be had, what a reader is told about it, and what lies below the problem.
-/

namespace LinkFacts

/-- A category of problems that a caller can act on. -/
inductive Problem where
  /-- The target of a link is no address. -/
  | invalidLink (target : String)
  /-- Nothing is known about the repository. -/
  | notFound (link : String)
  /-- The provider could not be talked to. -/
  | network
  /-- The fetch took too long. -/
  | timeout
  /-- What was received is no mapping of facts. -/
  | invalidData
  /-- A file could not be read. -/
  | unreadable
  deriving DecidableEq, Repr

namespace Problem

/-- The wording of a problem. -/
def message : Problem → String
  | invalidLink target => "invalid link: " ++ target
  | notFound link => "no facts for repository: " ++ link
  | network => "network error"
  | timeout => "fetch timed out"
  | invalidData => "invalid facts data"
  | unreadable => "I/O error"

/-- Trying again might succeed. -/
def isRetryable : Problem → Bool
  | network | timeout | unreadable => true
  | _ => false

end Problem

/-- Why a file could not be read as text. -/
inductive FileFault where
  /-- There is no such file. -/
  | notFound
  /-- It is a directory. -/
  | isDirectory
  /-- Something on the way is no directory. -/
  | notDirectory
  /-- Its bytes are no UTF-8. -/
  | notText
  deriving DecidableEq, Repr

/-- What lies below a problem. -/
inductive Cause where
  /-- A link target is no address. -/
  | address (fault : Address.Fault)
  /-- A document was refused. -/
  | document (fault : Json.Fault)
  /-- A file could not be read. -/
  | file (fault : FileFault)
  /-- The awaited answer will never be given. -/
  | canceled
  deriving DecidableEq, Repr

/-- A problem and what lies below it. -/
structure Failure where
  /-- The problem. -/
  problem : Problem
  /-- What lies below it. -/
  cause : Option Cause
  deriving DecidableEq, Repr

namespace Failure

/-- A problem with nothing below it. -/
def ofProblem (problem : Problem) : Failure := ⟨problem, none⟩

/-- The failure of a link whose target is no address. -/
def ofLink (fault : Link.Fault) : Failure :=
  ⟨.invalidLink fault.target, some (.address fault.cause)⟩

/-- The failure of a document that was refused. -/
def ofDocument (fault : Json.Fault) : Failure := ⟨.invalidData, some (.document fault)⟩

/-- The failure of a file that could not be read. -/
def ofFile (fault : FileFault) : Failure := ⟨.unreadable, some (.file fault)⟩

/-- The failure of a link about which nothing is known. -/
def notFound (link : Link) : Failure := ofProblem (.notFound link.text)

end Failure
end LinkFacts
