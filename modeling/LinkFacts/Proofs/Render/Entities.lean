import LinkFacts.Proofs.Render.Escape
import LinkFacts.Template.Evaluate

/-!
# Entities stand for characters

An escaped text is plain characters and entities, and an ampersand occurs only at the front of an
entity.  So the entities can be replaced by their characters from left to right, which gives the
text back, even if the text itself holds what looks like an entity.
-/

namespace LinkFacts
namespace Render

/-! ## Entities -/

/-- The entities of markup. -/
def entities : List (List Char) :=
  ["&amp;".toList, "&lt;".toList, "&gt;".toList, "&quot;".toList, "&#39;".toList]

/-- The characters of a text in which entities, from left to right, stand for characters. -/
def unescapeChars : List Char → List Char
  | '&' :: 'a' :: 'm' :: 'p' :: ';' :: rest => '&' :: unescapeChars rest
  | '&' :: 'l' :: 't' :: ';' :: rest => '<' :: unescapeChars rest
  | '&' :: 'g' :: 't' :: ';' :: rest => '>' :: unescapeChars rest
  | '&' :: 'q' :: 'u' :: 'o' :: 't' :: ';' :: rest => '"' :: unescapeChars rest
  | '&' :: '#' :: '3' :: '9' :: ';' :: rest => '\'' :: unescapeChars rest
  | c :: rest => c :: unescapeChars rest
  | [] => []

/-- The text that markup shows. -/
def unescape (markup : String) : String := String.ofList (unescapeChars markup.toList)

/-- Every ampersand begins an entity. -/
def AmpersandsOpen (cs : List Char) : Prop :=
  ∀ after, '&' :: after <:+ cs → ∃ entity ∈ entities, entity <+: '&' :: after

/-! ## Characters -/

section Characters

variable {c : Char} {body cs rest : List Char}

/-- A character is written as an entity or as itself. -/
theorem escapeChar_cases (c : Char) :
    escapeChar c ∈ entities ∨ c ≠ '&' ∧ escapeChar c = [c] := by
  rw [escapeChar.eq_def]
  split
  case h_6 _ ampersand _ _ _ _ => exact .inr ⟨ampersand, rfl⟩
  all_goals
    left
    decide

/-- An entity has no other ampersand than its first character. -/
theorem shape_of_entity {entity : List Char} (known : entity ∈ entities) :
    ∃ name, entity = '&' :: name ∧ '&' ∉ name := by
  simp only [entities, List.mem_cons, List.not_mem_nil, or_false] at known
  obtain rfl | rfl | rfl | rfl | rfl := known
  all_goals exact ⟨_, rfl, by decide⟩

private theorem unescapeChars_cons (plain : c ≠ '&') (rest : List Char) :
    unescapeChars (c :: rest) = c :: unescapeChars rest := by
  rw [unescapeChars.eq_def]
  split <;> simp_all

/-- What is written for a character is read as the character, whatever follows it. -/
theorem unescapeChars_escapeChar (c : Char) (rest : List Char) :
    unescapeChars (escapeChar c ++ rest) = c :: unescapeChars rest := by
  rw [escapeChar.eq_def]
  split
  case h_6 _ ampersand _ _ _ _ => exact unescapeChars_cons ampersand rest
  all_goals rfl

private theorem AmpersandsOpen.cons (opens : c = '&' → ∃ entity ∈ entities, entity <+: c :: cs)
    (others : AmpersandsOpen cs) : AmpersandsOpen (c :: cs) := by
  intro after suffix
  obtain whole | inside := List.suffix_cons_iff.mp suffix
  · obtain ⟨rfl, rfl⟩ := List.cons.inj whole
    exact opens rfl
  · exact others after inside

private theorem AmpersandsOpen.append (none : '&' ∉ body) (others : AmpersandsOpen cs) :
    AmpersandsOpen (body ++ cs) := by
  induction body with
  | nil => exact others
  | cons c body ih =>
      obtain ⟨plain, none⟩ := not_or.mp (mt List.mem_cons.mpr none)
      exact (ih none).cons fun ampersand => absurd ampersand.symm plain

/-- What is written for a character has an ampersand only where it is an entity. -/
theorem AmpersandsOpen.escapeChar_append (c : Char) (others : AmpersandsOpen cs) :
    AmpersandsOpen (escapeChar c ++ cs) := by
  obtain known | ⟨plain, same⟩ := escapeChar_cases c
  · obtain ⟨name, same, none⟩ := shape_of_entity known
    rw [same] at known ⊢
    apply AmpersandsOpen.cons
    · intro _
      exact ⟨_, known, List.prefix_append _ cs⟩
    · exact others.append none
  · rw [same]
    exact others.cons fun ampersand => absurd ampersand plain

end Characters

/-! ## Texts -/

private theorem unescapeChars_escapeChars (cs : List Char) :
    unescapeChars (escapeChars cs) = cs := by
  induction cs with
  | nil => rfl
  | cons c cs ih =>
      calc
        unescapeChars (escapeChars (c :: cs)) = unescapeChars (escapeChar c ++ escapeChars cs) := rfl
        _ = c :: unescapeChars (escapeChars cs) := unescapeChars_escapeChar c _
        _ = c :: cs := by rw [ih]

private theorem ampersandsOpen_escapeChars (cs : List Char) : AmpersandsOpen (escapeChars cs) := by
  induction cs with
  | nil =>
      intro after suffix
      cases List.suffix_nil.mp suffix
  | cons c cs ih => exact ih.escapeChar_append c

private theorem unescape_escape (text : String) : unescape (escape text) = text := by
  rw [unescape, escape, String.toList_ofList, unescapeChars_escapeChars, String.ofList_toList]

/-- The formatter for markup writes every text without delimiters and without an ampersand that
begins no entity, and the text can be read off what it writes; so it writes no two texts alike. -/
theorem escape_lossless :
    (∀ text, ∃ markup, Template.escapeValue? (.text text) = some markup ∧
      (∀ c ∈ delimiters, c ∉ markup.toList) ∧ AmpersandsOpen markup.toList ∧
      unescape markup = text) ∧
    Function.Injective fun text => Template.escapeValue? (.text text) := by
  constructor
  · intro text
    refine ⟨escape text, rfl, fun c delimits => notMem_escape delimits text, ?_,
      unescape_escape text⟩
    rw [escape, String.toList_ofList]
    exact ampersandsOpen_escapeChars text.toList
  · intro text other same
    have markup : escape text = escape other := Option.some.inj same
    calc
      text = unescape (escape text) := (unescape_escape text).symm
      _ = unescape (escape other) := by rw [markup]
      _ = other := unescape_escape other

/-- A text that looks like an entity is not taken for the character. -/
example : escape "&lt;" = "&amp;lt;" ∧ unescape "&amp;lt;" = "&lt;" := by
  decide +kernel

end Render
end LinkFacts
