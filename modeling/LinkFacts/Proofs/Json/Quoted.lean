import LinkFacts.Json.Document

/-!
# Quoted text is read back

What is written between quotes is read back, whatever stands after the closing quote.  There is one
lemma for each way in which a character is written: behind a backslash as a letter, behind a
backslash as a number, or bare.  The members of an object are then read one after the other.
-/

namespace LinkFacts
namespace Json

open Text

/-- A reader answers with a value and leaves the given rest of the text. -/
def Takes {α : Type} {source : List Char} (answer : Except Fault (Taken α source)) (value : α)
    (rest : List Char) : Prop :=
  ∃ shorter, answer = .ok ⟨value, rest, shorter⟩

section Characters

variable {c letter : Char} {cs source after rest : List Char}

/-- A bare character is read as itself. -/
theorem readQuoteBody_bare (unquoted : c ≠ '"') (unescaped : c ≠ '\\') (printable : 32 ≤ c.toNat)
    (body : Takes (readQuoteBody source) cs rest) :
    Takes (readQuoteBody (c :: source)) (c :: cs) rest := by
  obtain ⟨shorter, read⟩ := body
  have not_control : ¬ c.toNat < 32 := by omega
  refine ⟨Nat.lt_succ_of_lt shorter, ?_⟩
  rw [readQuoteBody, if_neg unquoted, if_neg unescaped, if_neg not_control]
  simp only [read]
  rfl

/-- An escape is read as the character it stands for. -/
theorem readQuoteBody_escape (escape : Takes (readEscape source) c after)
    (body : Takes (readQuoteBody after) cs rest) :
    Takes (readQuoteBody ('\\' :: source)) (c :: cs) rest := by
  obtain ⟨escape_shorter, escape_read⟩ := escape
  obtain ⟨shorter, read⟩ := body
  refine ⟨Nat.lt_succ_of_lt (Nat.lt_trans shorter escape_shorter), ?_⟩
  rw [readQuoteBody, if_neg (by decide), if_pos rfl]
  simp only [escape_read, read]
  rfl

/-- The closing quote ends a text. -/
theorem readQuoteBody_close : Takes (readQuoteBody ('"' :: rest)) [] rest := by
  refine ⟨by simp, ?_⟩
  rw [readQuoteBody, if_pos rfl]

/-- A letter behind a backslash. -/
theorem readEscape_letter (meaning : simpleEscape? letter = some c) :
    Takes (readEscape (letter :: rest)) c rest := by
  refine ⟨by simp, ?_⟩
  simp only [readEscape, meaning]

/-- A control character has four digits, which denote its code. -/
theorem readHex4_control {code : Nat} (control : code < 32) (rest : List Char) :
    Takes (readHex4 (writePadded 16 4 code ++ rest)) code rest := by
  have digits : ∀ code < 32, writePadded 16 4 code =
      ['0', '0', Nat.digitChar (code / 16), Nat.digitChar (code % 16)] := by decide
  have denoted : ∀ code < 32, readDigits? 16
      ['0', '0', Nat.digitChar (code / 16), Nat.digitChar (code % 16)] = some code := by decide
  rw [digits code control]
  refine ⟨by simp only [List.cons_append, List.nil_append, List.length_cons]; omega, ?_⟩
  simp only [List.cons_append, List.nil_append, readHex4, denoted code control]

/-- A control character behind a backslash, as a number. -/
theorem readEscape_control {code : Nat} (control : code < 32) (rest : List Char) :
    Takes (readEscape ('u' :: (writePadded 16 4 code ++ rest))) (Char.ofNat code) rest := by
  obtain ⟨shorter, read⟩ := readHex4_control control rest
  have not_trailing : isTrailing code = false := by
    simp only [isTrailing, Bool.and_eq_false_iff, decide_eq_false_iff_not]
    omega
  have not_leading : isLeading code = false := by
    simp only [isLeading, Bool.and_eq_false_iff, decide_eq_false_iff_not]
    omega
  have no_letter : simpleEscape? 'u' = none := rfl
  refine ⟨Nat.lt_succ_of_lt shorter, ?_⟩
  simp only [readEscape, no_letter, readUnicode, read, not_trailing, not_leading]
  rfl

/-- The escape of a control character starts with a backslash, and what follows denotes it. -/
theorem controlEscape_read {code : Nat} (control : code < 32) (rest : List Char) :
    ∃ escape, controlEscape code = '\\' :: escape ∧
      Takes (readEscape (escape ++ rest)) (Char.ofNat code) rest := by
  unfold controlEscape
  split
  · next backspace => exact ⟨['b'], rfl, readEscape_letter (by rw [backspace]; rfl)⟩
  split
  · next tab => exact ⟨['t'], rfl, readEscape_letter (by rw [tab]; rfl)⟩
  split
  · next newline => exact ⟨['n'], rfl, readEscape_letter (by rw [newline]; rfl)⟩
  split
  · next formFeed => exact ⟨['f'], rfl, readEscape_letter (by rw [formFeed]; rfl)⟩
  split
  · next carriageReturn => exact ⟨['r'], rfl, readEscape_letter (by rw [carriageReturn]; rfl)⟩
  · exact ⟨'u' :: writePadded 16 4 code, rfl, readEscape_control control rest⟩

/-- Every character is read back from what is written for it. -/
theorem readQuoteBody_quoteChar (body : Takes (readQuoteBody source) cs rest) :
    Takes (readQuoteBody (quoteChar c ++ source)) (c :: cs) rest := by
  by_cases quotation : c = '"'
  · rw [quoteChar, if_pos quotation]
    exact readQuoteBody_escape (readEscape_letter (by rw [quotation]; rfl)) body
  by_cases backslash : c = '\\'
  · rw [quoteChar, if_neg quotation, if_pos backslash]
    exact readQuoteBody_escape (readEscape_letter (by rw [backslash]; rfl)) body
  by_cases control : c.toNat < 32
  · obtain ⟨escape, written, read⟩ := controlEscape_read control source
    rw [Char.ofNat_toNat] at read
    rw [quoteChar, if_neg quotation, if_neg backslash, if_pos control, written, List.cons_append]
    exact readQuoteBody_escape read body
  · rw [quoteChar, if_neg quotation, if_neg backslash, if_neg control]
    exact readQuoteBody_bare quotation backslash (by omega) body

/-- The characters between quotes are read back up to the closing quote. -/
theorem readQuoteBody_quoteBody (cs rest : List Char) :
    Takes (readQuoteBody (quoteBody cs ++ '"' :: rest)) cs rest := by
  induction cs with
  | nil => exact readQuoteBody_close
  | cons c cs ih =>
    have split : quoteBody (c :: cs) ++ '"' :: rest =
        quoteChar c ++ (quoteBody cs ++ '"' :: rest) := by
      simp only [quoteBody, List.flatMap_cons, List.append_assoc]
    rw [split]
    exact readQuoteBody_quoteChar ih

end Characters

/-- A quoted text with what follows it, character by character. -/
theorem quote_append (text : String) (rest : List Char) :
    quote text ++ rest = '"' :: (quoteBody text.toList ++ '"' :: rest) := by
  simp [quote]

/-- Nothing is skipped before a quote. -/
@[simp]
theorem skipSpace_quote (text : String) (rest : List Char) :
    skipSpace (quote text ++ rest) = quote text ++ rest := by
  rw [quote_append]
  rfl

/-- A text that starts with a quote is read as a scalar, at every depth. -/
theorem readValue_of_quotation (depth : Nat) (source : List Char) :
    readValue depth ('"' :: source) = readScalar ('"' :: source) := by
  cases depth with
  | zero =>
    rw [readValue]
    · rintro tail ⟨⟩
    · rintro tail ⟨⟩
  | succ depth =>
    rw [readValue]
    · rintro tail ⟨⟩
    · rintro tail ⟨⟩

/-- A quoted text is read as a value, at every depth. -/
theorem readValue_quote (depth : Nat) (text : String) (rest : List Char) :
    Takes (readValue depth (quote text ++ rest)) (.text text) rest := by
  obtain ⟨shorter, read⟩ := readQuoteBody_quoteBody text.toList rest
  rw [quote_append, readValue_of_quotation]
  refine ⟨Nat.lt_succ_of_lt shorter, ?_⟩
  simp only [readScalar, read, Taken.map, Taken.afterOne, Taken.within, Function.comp,
    String.ofList_toList]

section Members

variable {α : Type} {element : Reader α} {key : String} {value : α} {member : String × α}
  {members : List (String × α)} {source next rest : List Char}

/-- A quoted key, a colon and a value are read as a member. -/
theorem readMember_quote (read : Takes (element (skipSpace source)) value rest) :
    Takes (readMember element (quote key ++ ':' :: source)) (key, value) rest := by
  obtain ⟨value_shorter, value_read⟩ := read
  obtain ⟨key_shorter, key_read⟩ := readQuoteBody_quoteBody key.toList (':' :: source)
  have colon : skipSpace (':' :: source) = ':' :: source := rfl
  have skipped := skipSpace_length source
  rw [quote_append]
  refine ⟨?_, ?_⟩
  · simp only [List.length_cons] at key_shorter ⊢
    omega
  · simp only [readMember, ↓reduceIte, key_read]
    split
    · next ended => cases colon.symm.trans ended
    · next found =>
      cases colon.symm.trans found
      simp only [value_read, String.ofList_toList]
    · next other found =>
      cases colon.symm.trans found
      exact (other rfl).elim

/-- A brace ends the members. -/
theorem readMembers_close (first : Bool) :
    Takes (readMembers element first ('}' :: rest)) [] rest := by
  have brace : skipSpace ('}' :: rest) = '}' :: rest := rfl
  refine ⟨Nat.lt_succ_self _, ?_⟩
  rw [readMembers]
  split
  · next ended => cases brace.symm.trans ended
  · next found =>
    cases brace.symm.trans found
    rfl
  · next other found =>
    cases brace.symm.trans found
    exact (other rfl).elim

/-- The first member follows the opening brace. -/
theorem readMembers_first (read : Takes (readMember element ('"' :: source)) member next)
    (others : Takes (readMembers element false next) members rest) :
    Takes (readMembers element true ('"' :: source)) (member :: members) rest := by
  obtain ⟨shorter, member_read⟩ := read
  obtain ⟨others_shorter, members_read⟩ := others
  have compact : skipSpace ('"' :: source) = '"' :: source := rfl
  refine ⟨Nat.lt_trans others_shorter shorter, ?_⟩
  rw [readMembers]
  split
  · next ended => cases compact.symm.trans ended
  · next found => cases compact.symm.trans found
  · next other found =>
    cases compact.symm.trans found
    simp only [↓reduceIte, member_read, members_read]
    rfl

/-- Every other member follows a comma. -/
theorem readMembers_next (read : Takes (readMember element ('"' :: source)) member next)
    (others : Takes (readMembers element false next) members rest) :
    Takes (readMembers element false (',' :: '"' :: source)) (member :: members) rest := by
  obtain ⟨shorter, member_read⟩ := read
  obtain ⟨others_shorter, members_read⟩ := others
  have compact : skipSpace ('"' :: source) = '"' :: source := rfl
  have comma : skipSpace (',' :: '"' :: source) = ',' :: '"' :: source := rfl
  refine ⟨Nat.lt_succ_of_lt (Nat.lt_trans others_shorter shorter), ?_⟩
  rw [readMembers]
  split
  · next ended => cases comma.symm.trans ended
  · next found => cases comma.symm.trans found
  · next other found =>
    cases comma.symm.trans found
    simp only [↓reduceIte, Bool.false_eq_true, compact, member_read, members_read]
    rfl

end Members

/-- A document is read when its value leaves nothing. -/
theorem readDocument_of_takes {α : Type} {reader : Reader α} {source : List Char} {value : α}
    (read : Takes (reader (skipSpace source)) value []) :
    readDocument reader source = .ok value := by
  obtain ⟨_, taken⟩ := read
  simp only [readDocument, taken]
  rfl

end Json
end LinkFacts
