import LinkFacts.Address.Parser
import LinkFacts.Text.Blank

/-!
# Links

The identity of a link is the text of the address that it points at, so that different spellings
of one address are one link.
-/

namespace LinkFacts

/-- The address that a link points at, in its normal form. -/
structure Link where
  /-- The text of the address. -/
  text : String
  deriving DecidableEq, Hashable

namespace Link

/-- A link target that is no address. -/
structure Fault where
  /-- The target without blank characters around it. -/
  target : String
  /-- Why it is no address. -/
  cause : Address.Fault
  deriving DecidableEq

/-- Resolves a link target against a base; without one the target has to be absolute. -/
def resolve (base : Option Address) (target : String) : Except Fault Link :=
  let trimmed := Text.trim target
  match Address.resolve base trimmed with
  | .ok address => .ok ⟨address.toText⟩
  | .error cause => .error ⟨trimmed, cause⟩

/-- The identity of an absolute link. -/
def ofTarget (target : String) : Except Fault Link := resolve none target

/-- The links among some targets, without repetitions, each where it occurs first. -/
def distinct (targets : List String) : List Link :=
  (targets.filterMap fun target => (ofTarget target).toOption).eraseDups

/-- Links in the order of their texts. -/
def ascending (links : List Link) : List Link := links.mergeSort fun a b => a.text ≤ b.text

/-- The place of the first target that is the same link as the given one. -/
def firstSame? (targets : List String) (target : String) : Option Nat :=
  match ofTarget target with
  | .error _ => none
  | .ok link => targets.findIdx? fun other => (ofTarget other).toOption == some link

end Link
end LinkFacts
