import LinkFacts.Unicode.CombiningClass
import LinkFacts.Unicode.Composition

/-!
# Canonical composition

Texts in the normal form that composes canonically equivalent sequences: every character is
decomposed, marks are put in the order of their classes, and what can be composed is composed.
-/

namespace LinkFacts
namespace Unicode

/-- Puts a character before a text, moving a mark behind the marks of lower class. -/
def placeMark (c : Char) : List Char → List Char
  | [] => [c]
  | d :: rest =>
    if combiningClass d ≠ 0 ∧ combiningClass d < combiningClass c then d :: placeMark c rest
    else c :: d :: rest

/-- A text with its marks in canonical order. -/
def orderMarks (cs : List Char) : List Char := cs.foldr placeMark []

/-- Composes what follows a starter; `pending` are the marks not composed with it, last first. -/
def composeFrom (starter : Char) (pending : List Char) : List Char → List Char
  | [] => starter :: pending.reverse
  | c :: rest =>
    let unblocked :=
      match pending with
      | [] => true
      | mark :: _ => combiningClass mark < combiningClass c
    match if unblocked then compose? starter c else none with
    | some whole => composeFrom whole pending rest
    | none =>
      if combiningClass c = 0 then starter :: pending.reverse ++ composeFrom c [] rest
      else composeFrom starter (c :: pending) rest

/-- Composes an ordered, decomposed text. -/
def composeAll : List Char → List Char
  | [] => []
  | c :: rest => if combiningClass c = 0 then composeFrom c [] rest else c :: composeAll rest

/-- The canonical composition of a text. -/
def normalize (cs : List Char) : List Char :=
  composeAll (orderMarks (cs.flatMap decompose))

end Unicode
end LinkFacts
