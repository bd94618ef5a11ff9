import LinkFacts.Facts.Document
import LinkFacts.Proofs.Json.Numbers
import LinkFacts.Proofs.Json.Objects

/-!
# The grammar of facts

A document of facts is an object of texts, numbers and truth values.  Each of them denotes a text;
a later member replaces an earlier one with its key.
-/

namespace LinkFacts
namespace Facts

open Json Text

/-- A value that a fact may have, by its text. -/
inductive ScalarText : Grammar String where
  | text {source cs rest : List Char} (spelled : BodyText source cs rest) :
      ScalarText ('"' :: source) (String.ofList cs) rest
  | plain {source rest : List Char} {numeral : Numeral} {number : Number}
      (written : NumeralText source numeral rest) (denoted : numeral.number false = .ok number) :
      ScalarText source (String.ofList number.write) rest
  | minus {source rest : List Char} {numeral : Numeral} {number : Number}
      (written : NumeralText source numeral rest) (denoted : numeral.number true = .ok number) :
      ScalarText ('-' :: source) (String.ofList number.write) rest
  | holds {rest : List Char} : ScalarText ("true".toList ++ rest) "true" rest
  | fails {rest : List Char} : ScalarText ("false".toList ++ rest) "false" rest

/-- Facts, by the object of their values. -/
def FactsText : Grammar Facts := fun source facts rest =>
  ∃ pairs, ObjectText ScalarText source pairs rest ∧ ofList pairs = facts

section Readers

variable {source rest : List Char} {value : Value} {text : String} {depth : Nat}

private theorem readKeyword_eq_ok_iff {letters : List Char}
    {left : { left : List Char // left.length ≤ source.length }} :
    readKeyword letters source = .ok left ↔ source = letters ++ left.1 := by
  induction letters generalizing source with
  | nil =>
      obtain ⟨left, short⟩ := left
      simp [readKeyword]
  | cons letter letters ih =>
      cases source with
      | nil => simp [readKeyword]
      | cons c source =>
          obtain ⟨left, short⟩ := left
          unfold readKeyword
          constructor
          · intro read
            split at read
            · next same =>
              split at read
              · cases read
              · next others found =>
                cases read
                rw [same, List.cons_append, ← ih.mp found]
            · cases read
          · intro spelled
            obtain ⟨same, others⟩ := List.cons.inj spelled
            have shorter : left.length ≤ source.length := by simp [others]
            have found : readKeyword letters source = .ok ⟨left, shorter⟩ := ih.mpr others
            simp [same, found]

theorem takes_keyword_iff {letters : List Char} {c : Char} {denoted : Value} :
    Takes (readScalar.keyword letters denoted (c := c) source) value rest ↔
      source = letters ++ rest ∧ denoted = value := by
  unfold readScalar.keyword
  constructor
  · intro read
    split at read
    · exact (not_takes_error read).elim
    · next left found =>
      obtain ⟨rfl, rfl⟩ := takes_ok_iff.mp read
      exact ⟨readKeyword_eq_ok_iff.mp found, rfl⟩
  · rintro ⟨rfl, rfl⟩
    have shorter : rest.length ≤ (letters ++ rest).length := by simp
    have found : readKeyword letters (letters ++ rest) = .ok ⟨rest, shorter⟩ :=
      readKeyword_eq_ok_iff.mpr rfl
    simp [found]

/-- The digits of a number end where something follows it. -/
theorem endsNumeral_of_follows (follows : Follows rest) : EndsNumeral rest := by
  intro c first
  obtain space | rfl | rfl | rfl := follows c first
  · simp only [isSpace, Bool.or_eq_true, beq_iff_eq] at space
    obtain ((rfl | rfl) | rfl) | rfl := space <;> decide
  · decide
  · decide
  · decide

/-- A list or an object is no fact. -/
theorem scalarText?_of_opens {c : Char} (bracket : c = '[' ∨ c = '{')
    (read : Takes (readValue depth (c :: source)) value rest) : scalarText? value = none := by
  obtain rfl | rfl := bracket
  · cases depth with
    | zero =>
        simp only [readValue] at read
        exact (not_takes_error read).elim
    | succ depth =>
        simp only [readValue] at read
        split at read
        · exact (not_takes_error read).elim
        · obtain ⟨rfl, -⟩ := takes_ok_iff.mp read
          rfl
  · cases depth with
    | zero =>
        simp only [readValue] at read
        exact (not_takes_error read).elim
    | succ depth =>
        simp only [readValue] at read
        split at read
        · exact (not_takes_error read).elim
        · obtain ⟨rfl, -⟩ := takes_ok_iff.mp read
          rfl

/-- A value that opens nothing is read as a scalar, at every depth. -/
theorem readValue_of_scalar (list : ∀ tail, source ≠ '[' :: tail)
    (object : ∀ tail, source ≠ '{' :: tail) : readValue depth source = readScalar source := by
  cases depth with
  | zero =>
      rw [readValue]
      · exact list
      · exact object
  | succ depth =>
      rw [readValue]
      · exact list
      · exact object

private theorem takes_readScalarText_iff_value : Takes (readScalarText depth source) text rest ↔
    ∃ value, Takes (readValue depth source) value rest ∧ scalarText? value = some text := by
  unfold readScalarText
  constructor
  · intro read
    split at read
    · exact (not_takes_error read).elim
    · next taken found =>
      split at read
      · next denoted =>
        obtain ⟨rfl, rfl⟩ := takes_ok_iff.mp read
        exact ⟨taken.value, takes_of_eq_ok found, denoted⟩
      · exact (not_takes_error read).elim
  · rintro ⟨value, ⟨_, read⟩, denoted⟩
    simp [read, denoted]

/-- A fact is read like any scalar. -/
theorem takes_readScalarText_iff : Takes (readScalarText depth source) text rest ↔
    ∃ value, Takes (readScalar source) value rest ∧ scalarText? value = some text := by
  rw [takes_readScalarText_iff_value]
  by_cases opens : ∃ c more, source = c :: more ∧ (c = '[' ∨ c = '{')
  · obtain ⟨c, more, rfl, bracket⟩ := opens
    have refused : ∀ value, ¬ Takes (readScalar (c :: more)) value rest := by
      obtain rfl | rfl := bracket
      · exact fun _ => not_takes_error
      · exact fun _ => not_takes_error
    constructor
    · rintro ⟨value, read, denoted⟩
      rw [scalarText?_of_opens bracket read] at denoted
      cases denoted
    · rintro ⟨value, read, -⟩
      exact absurd read (refused value)
  · rw [readValue_of_scalar (fun tail same => opens ⟨_, tail, same, .inl rfl⟩)
      (fun tail same => opens ⟨_, tail, same, .inr rfl⟩)]

/-- A digit starts a number. -/
theorem readScalar_decimal {c : Char} {number : Number} (starts : source.head? = some c)
    (first : isDecimal c = true) (read : Takes (readNumeral false source) number rest) :
    Takes (readScalar source) (.number number) rest := by
  obtain ⟨_, found⟩ := read
  unfold readScalar
  split
  · cases starts
  · cases starts
    cases first
  · cases starts
    cases first
  · cases starts
    cases first
  · cases starts
    cases first
  · cases starts
    cases first
  · cases starts
    simp [first, found]

private theorem scalarText_of_readScalar (read : Takes (readScalar source) value rest)
    (denoted : scalarText? value = some text) : ScalarText source text rest := by
  unfold readScalar at read
  split at read
  · exact (not_takes_error read).elim
  · obtain ⟨-, rfl⟩ := takes_keyword_iff.mp read
    cases denoted
  · obtain ⟨rfl, rfl⟩ := takes_keyword_iff.mp read
    cases denoted
    exact .holds
  · obtain ⟨rfl, rfl⟩ := takes_keyword_iff.mp read
    cases denoted
    exact .fails
  · split at read
    · exact (not_takes_error read).elim
    · next body found =>
      obtain ⟨rfl, rfl⟩ := takes_ok_iff.mp read
      cases denoted
      exact .text (takes_readQuoteBody_iff.mp (takes_of_eq_ok found))
  · split at read
    · exact (not_takes_error read).elim
    · next number found =>
      obtain ⟨rfl, rfl⟩ := takes_ok_iff.mp read
      cases denoted
      obtain ⟨numeral, written, number⟩ := numeralText_of_readNumeral (takes_of_eq_ok found)
      exact .minus written number
  · split at read
    · split at read
      · exact (not_takes_error read).elim
      · next number found =>
        obtain ⟨rfl, rfl⟩ := takes_ok_iff.mp read
        cases denoted
        obtain ⟨numeral, written, number⟩ := numeralText_of_readNumeral (takes_of_eq_ok found)
        exact .plain written number
    · exact (not_takes_error read).elim

private theorem readScalar_of_scalarText (scalar : ScalarText source text rest)
    (follows : Follows rest) :
    ∃ value, Takes (readScalar source) value rest ∧ scalarText? value = some text := by
  cases scalar with
  | @text _ cs _ spelled =>
      obtain ⟨_, read⟩ := takes_readQuoteBody_iff.mpr spelled
      exact ⟨.text (String.ofList cs), by simp [readScalar, read], rfl⟩
  | @plain _ _ _ number written denoted =>
      have ends := endsNumeral_of_follows follows
      have read := readNumeral_of_numeralText written ends denoted
      obtain ⟨c, starts, first⟩ := written.head_decimal
      exact ⟨.number number, readScalar_decimal starts first read, rfl⟩
  | @minus _ _ _ number written denoted =>
      have ends := endsNumeral_of_follows follows
      obtain ⟨_, read⟩ := readNumeral_of_numeralText written ends denoted
      exact ⟨.number number, by simp [readScalar, read], rfl⟩
  | holds => exact ⟨.flag true, takes_keyword_iff.mpr ⟨rfl, rfl⟩, rfl⟩
  | fails => exact ⟨.flag false, takes_keyword_iff.mpr ⟨rfl, rfl⟩, rfl⟩

theorem solid_of_scalarText (scalar : ScalarText source text rest) :
    ∀ c ∈ source.head?, isSpace c = false := by
  cases scalar with
  | @plain _ _ _ _ written =>
      obtain ⟨c, starts, first⟩ := written.head_decimal
      obtain ⟨digit, less, rfl, -⟩ := exists_of_isDecimal first
      rw [starts]
      rintro d ⟨⟩
      interval_cases digit <;> rfl
  | text => simp [isSpace]
  | minus => simp [isSpace]
  | holds => simp [isSpace]
  | fails => simp [isSpace]

/-- The reader of facts' values fits their grammar. -/
theorem reads_scalarText (depth : Nat) : Reads (readScalarText depth) ScalarText where
  sound := by
    intro source text rest read
    obtain ⟨value, scalar, denoted⟩ := takes_readScalarText_iff.mp read
    exact scalarText_of_readScalar scalar denoted
  complete := fun scalar follows =>
    takes_readScalarText_iff.mpr (readScalar_of_scalarText scalar follows)
  solid := solid_of_scalarText

/-- Facts are collected from the members of an object. -/
theorem takes_read_iff {facts : Facts} : Takes (read depth source) facts rest ↔
    ∃ pairs, Takes (readObject readScalarText depth source) pairs rest ∧ ofList pairs = facts := by
  rw [read]
  constructor
  · intro read
    split at read
    · exact (not_takes_error read).elim
    · next taken found =>
      obtain ⟨rfl, rfl⟩ := takes_ok_iff.mp read
      exact ⟨taken.value, takes_of_eq_ok found, rfl⟩
  · rintro ⟨pairs, ⟨_, found⟩, rfl⟩
    simp [found]

/-- The reader of facts fits their grammar. -/
theorem reads_factsText (depth : Nat) : Reads (read (depth + 1)) FactsText := by
  have object : Reads (readObject readScalarText (depth + 1)) (ObjectText ScalarText) :=
    (reads_scalarText depth).object
  refine ⟨fun taken => ?_, fun written follows => ?_, fun written => ?_⟩
  · obtain ⟨pairs, found, collected⟩ := takes_read_iff.mp taken
    exact ⟨pairs, object.sound found, collected⟩
  · obtain ⟨pairs, found, collected⟩ := written
    exact takes_read_iff.mpr ⟨pairs, object.complete found follows, collected⟩
  · obtain ⟨pairs, found, -⟩ := written
    exact object.solid found

end Readers

end Facts
end LinkFacts
