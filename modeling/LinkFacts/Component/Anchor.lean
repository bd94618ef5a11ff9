/-!
# Anchors

A link element that keeps every write made to it, in order.  The facts and the state that it shows
are those written last.
-/

namespace LinkFacts

/-- A write to an anchor. -/
inductive Mutation where
  /-- Rendered facts. -/
  | facts (markup : String)
  /-- The flag that facts are shown. -/
  | done
  deriving DecidableEq, Repr

/-- A link element. -/
structure Anchor where
  /-- The link target as it was written. -/
  href : String
  /-- All writes, the oldest first. -/
  history : List Mutation
  deriving DecidableEq, Repr

namespace Anchor

/-- An anchor to which nothing was written. -/
def ofHref (href : String) : Anchor := ⟨href, []⟩

/-- Writes to the anchor. -/
def write (anchor : Anchor) (mutation : Mutation) : Anchor :=
  { anchor with history := anchor.history ++ [mutation] }

/-- The facts that were written last. -/
def facts? (anchor : Anchor) : Option String :=
  anchor.history.reverse.findSome? fun
    | .facts markup => some markup
    | .done => none

/-- The flag was written. -/
def isDone (anchor : Anchor) : Bool := anchor.history.contains .done

/-- Shows rendered facts and raises the flag. -/
def present (anchor : Anchor) (markup : String) : Anchor :=
  (anchor.write (.facts markup)).write .done

end Anchor
end LinkFacts
