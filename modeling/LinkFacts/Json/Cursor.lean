import LinkFacts.Json.Basic

/-!
# Readers that consume

A reader of JSON text either fails or returns a value together with a strictly shorter rest, so
that the loops over items and members end.
-/

namespace LinkFacts
namespace Json

/-- A value read from the front of `source`, and what is left of the source. -/
structure Taken (α : Type) (source : List Char) where
  /-- What was read. -/
  value : α
  /-- What is left. -/
  rest : List Char
  /-- Something was consumed. -/
  shorter : rest.length < source.length

/-- A reader consumes at least one character or fails. -/
abbrev Reader (α : Type) := (source : List Char) → Except Fault (Taken α source)

namespace Taken

variable {α β : Type} {source : List Char}

/-- Changes the value. -/
def map (f : α → β) (taken : Taken α source) : Taken β source :=
  ⟨f taken.value, taken.rest, taken.shorter⟩

/-- What was taken from a tail was taken from the whole. -/
def within {whole : List Char} (taken : Taken α source) (h : source.length ≤ whole.length) :
    Taken α whole :=
  ⟨taken.value, taken.rest, Nat.lt_of_lt_of_le taken.shorter h⟩

/-- What was taken after a character was taken from the text with it. -/
def afterOne {c : Char} (taken : Taken α source) : Taken α (c :: source) :=
  taken.within (Nat.le_succ source.length)

end Taken

/-- The blank characters of JSON. -/
def isSpace (c : Char) : Bool := c == ' ' || c == '\n' || c == '\t' || c == '\r'

/-- The text after its leading blank characters. -/
def skipSpace (source : List Char) : List Char := source.dropWhile isSpace

theorem skipSpace_length (source : List Char) : (skipSpace source).length ≤ source.length :=
  (List.dropWhile_suffix _).length_le

end Json
end LinkFacts
