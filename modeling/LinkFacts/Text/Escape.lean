import LinkFacts.Text.Digits

/-!
# Escapes

What may follow a backslash in the quoted texts of configuration: a letter that stands for one
character, or a character number in hexadecimal digits.
-/

namespace LinkFacts
namespace Text

/-- The character with a number, unless the number is a surrogate or too great. -/
def charOfNumber? (number : Nat) : Option Char :=
  if h : number.isValidChar then some (Char.ofNatAux number h) else none

/-- The character whose number is written in hexadecimal digits. -/
def numberedChar? (digits : List Char) : Option Char :=
  (readDigits? 16 digits).bind charOfNumber?

/-- The character that a letter stands for after a backslash. -/
def escapedChar? : Char → Option Char
  | '"' => some '"'
  | '\\' => some '\\'
  | 'b' => some (Char.ofNat 0x08)
  | 'f' => some (Char.ofNat 0x0C)
  | 'n' => some '\n'
  | 'r' => some '\r'
  | 't' => some '\t'
  | _ => none

/-- The character of an escape after its backslash, and what follows the escape. -/
def readEscape : List Char → Option (Char × List Char)
  | 'u' :: a :: b :: c :: d :: rest => (numberedChar? [a, b, c, d]).map fun char => (char, rest)
  | 'U' :: a :: b :: c :: d :: e :: f :: g :: h :: rest =>
    (numberedChar? [a, b, c, d, e, f, g, h]).map fun char => (char, rest)
  | letter :: rest => (escapedChar? letter).map fun char => (char, rest)
  | [] => none

theorem readEscape_length {source rest : List Char} {c : Char}
    (h : readEscape source = some (c, rest)) : rest.length < source.length := by
  unfold readEscape at h
  split at h <;> simp only [Option.map_eq_some_iff, Prod.mk.injEq, reduceCtorEq] at h
  all_goals
    obtain ⟨_, _, _, rfl⟩ := h
    simp only [List.length_cons]
    omega

end Text
end LinkFacts
