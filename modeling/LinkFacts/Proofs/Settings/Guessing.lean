import LinkFacts.Proofs.Text.Blank
import LinkFacts.Settings.Environment

/-!
# What a variable is taken for

A variable of the environment is a text before anybody knows what it is for, and it is taken for a
truth value, a number, a quoted text, a list or a table if it can be read as one to its end.  All other
texts stand for themselves, unless there are blanks around them.
-/

namespace LinkFacts
namespace Settings
namespace Environment

open Text

/-! ## What a text is read as -/

/-- Nothing but the space that may follow a value. -/
def AllSpace (cs : List Char) : Prop := ∀ c ∈ cs, isSpace c = true

/-- A text starts with none of the words and characters by which values are told. -/
structure Bare (front : List Char) : Prop where
  isTrue : ∀ rest, front ≠ 't' :: 'r' :: 'u' :: 'e' :: rest
  isFalse : ∀ rest, front ≠ 'f' :: 'a' :: 'l' :: 's' :: 'e' :: rest
  table : ∀ rest, front ≠ '{' :: rest
  list : ∀ rest, front ≠ '[' :: rest
  quoted : ∀ rest, front ≠ '"' :: rest
  apostrophe : ∀ rest, front ≠ '\'' :: rest

/-- How a text is read, by what is in front once the space was left out. -/
inductive Outset (depth : Nat) (front : List Char) : Option (Value × List Char) → Prop
  | isTrue {rest : List Char} (starts : front = 't' :: 'r' :: 'u' :: 'e' :: rest) :
      Outset depth front (finish (.flag true) rest)
  | isFalse {rest : List Char} (starts : front = 'f' :: 'a' :: 'l' :: 's' :: 'e' :: rest) :
      Outset depth front (finish (.flag false) rest)
  | table {rest : List Char} (starts : front = '{' :: rest) :
      Outset depth front ((readEntries depth rest).bind fun read =>
        finish (.table (Layer.ofEntries read.1)) read.2)
  | list {rest : List Char} (starts : front = '[' :: rest) :
      Outset depth front ((readItems depth rest).bind fun read => finish (.list read.1) read.2)
  | quoted {rest : List Char} (starts : front = '"' :: rest) :
      Outset depth front ((readQuoted rest).bind fun read => finish (.text read.1) read.2)
  | character {c : Char} {rest : List Char} (starts : front = '\'' :: c :: '\'' :: rest) :
      Outset depth front (finish (.text (String.singleton c)) rest)
  /-- An apostrophe that does not enclose one character. -/
  | apostrophe : Outset depth front none
  | bare (bare : Bare front) :
      Outset depth front (finish (bareValue (strip isBlank (front.takeWhile (!isSeparator ·))))
        (front.dropWhile (!isSeparator ·)))

/-- What a text means that can be read to its end. -/
inductive Means (depth : Nat) (front : List Char) : Value → Prop
  | isTrue {tail : List Char} (starts : front = 't' :: 'r' :: 'u' :: 'e' :: tail)
      (ends : AllSpace tail) : Means depth front (.flag true)
  | isFalse {tail : List Char} (starts : front = 'f' :: 'a' :: 'l' :: 's' :: 'e' :: tail)
      (ends : AllSpace tail) : Means depth front (.flag false)
  | table {rest tail : List Char} {entries : List (String × Value)} (starts : front = '{' :: rest)
      (read : readEntries depth rest = some (entries, tail)) (ends : AllSpace tail) :
      Means depth front (.table (Layer.ofEntries entries))
  | list {rest tail : List Char} {items : List Value} (starts : front = '[' :: rest)
      (read : readItems depth rest = some (items, tail)) (ends : AllSpace tail) :
      Means depth front (.list items)
  | quoted {rest tail : List Char} {text : String} (starts : front = '"' :: rest)
      (read : readQuoted rest = some (text, tail)) (ends : AllSpace tail) :
      Means depth front (.text text)
  | character {c : Char} {tail : List Char} (starts : front = '\'' :: c :: '\'' :: tail)
      (ends : AllSpace tail) : Means depth front (.text (String.singleton c))
  | bare (bare : Bare front) (whole : ∀ c ∈ front, isSeparator c = false) :
      Means depth front (bareValue (strip isBlank front))

section Reading

variable {depth : Nat} {source front rest : List Char} {value given : Value}

private theorem readValue_outset (depth : Nat) (source : List Char) :
    Outset depth (source.dropWhile isSpace) (readValue (depth + 1) source) := by
  rw [readValue]
  split
  · next starts => exact .isTrue starts
  · next starts => exact .isFalse starts
  · next starts => exact .table starts
  · next starts => exact .list starts
  · next starts => exact .quoted starts
  · next starts => exact .character starts
  · exact .apostrophe
  · next isTrue isFalse table list quoted _ apostrophe =>
    exact .bare ⟨isTrue, isFalse, table, list, quoted, apostrophe⟩

private theorem finish_eq_some_iff :
    finish given rest = some (value, []) ↔ value = given ∧ AllSpace rest := by
  rw [finish, Option.some.injEq, Prod.mk.injEq, List.dropWhile_eq_nil_iff, AllSpace]
  exact and_congr_left' eq_comm

/-- A separator is never left out as space. -/
theorem isSpace_of_isSeparator {c : Char} (separates : isSeparator c = true) :
    isSpace c = false := by
  simp only [isSeparator, Bool.or_eq_true, beq_iff_eq] at separates
  rcases separates with (((rfl | rfl) | rfl) | rfl) | rfl <;> rfl

/-- A bare text is read to its end if it has no separators. -/
theorem allSpace_dropWhile_iff (front : List Char) :
    AllSpace (front.dropWhile (!isSeparator ·)) ↔ ∀ c ∈ front, isSeparator c = false := by
  cases left : front.dropWhile (!isSeparator ·) with
  | nil =>
      have whole := List.dropWhile_eq_nil_iff.mp left
      simpa [AllSpace] using whole
  | cons c rest =>
      have separates : isSeparator c = true := by
        have stops := List.head?_dropWhile_not (!isSeparator ·) front
        simpa [left] using stops
      have there : c ∈ front := (List.dropWhile_sublist _).mem (left ▸ List.mem_cons_self)
      refine iff_of_false (fun spaces => ?_) fun whole => ?_
      · cases (spaces c List.mem_cons_self).symm.trans (isSpace_of_isSeparator separates)
      · cases separates.symm.trans (whole c there)

private theorem means_of_outset {read : Option (Value × List Char)}
    (outset : Outset depth front read)
    (whole : read = some (value, [])) : Means depth front value := by
  cases outset with
  | isTrue starts =>
      obtain ⟨rfl, ends⟩ := finish_eq_some_iff.mp whole
      exact .isTrue starts ends
  | isFalse starts =>
      obtain ⟨rfl, ends⟩ := finish_eq_some_iff.mp whole
      exact .isFalse starts ends
  | table starts =>
      obtain ⟨⟨entries, tail⟩, read, finished⟩ := Option.bind_eq_some_iff.mp whole
      obtain ⟨rfl, ends⟩ := finish_eq_some_iff.mp finished
      exact .table starts read ends
  | list starts =>
      obtain ⟨⟨items, tail⟩, read, finished⟩ := Option.bind_eq_some_iff.mp whole
      obtain ⟨rfl, ends⟩ := finish_eq_some_iff.mp finished
      exact .list starts read ends
  | quoted starts =>
      obtain ⟨⟨text, tail⟩, read, finished⟩ := Option.bind_eq_some_iff.mp whole
      obtain ⟨rfl, ends⟩ := finish_eq_some_iff.mp finished
      exact .quoted starts read ends
  | character starts =>
      obtain ⟨rfl, ends⟩ := finish_eq_some_iff.mp whole
      exact .character starts ends
  | apostrophe => cases whole
  | bare bare =>
      obtain ⟨rfl, ends⟩ := finish_eq_some_iff.mp whole
      have solid := (allSpace_dropWhile_iff front).mp ends
      have all : front.takeWhile (!isSeparator ·) = front :=
        List.takeWhile_eq_self_iff.mpr fun c there => by simp [solid c there]
      rw [all]
      exact .bare bare solid

private theorem readValue_of_means (means : Means depth (source.dropWhile isSpace) value) :
    readValue (depth + 1) source = some (value, []) := by
  cases means with
  | isTrue starts ends =>
      rw [readValue, starts]
      exact finish_eq_some_iff.mpr ⟨rfl, ends⟩
  | isFalse starts ends =>
      rw [readValue, starts]
      exact finish_eq_some_iff.mpr ⟨rfl, ends⟩
  | table starts read ends =>
      rw [readValue, starts]
      exact Option.bind_eq_some_iff.mpr ⟨_, read, finish_eq_some_iff.mpr ⟨rfl, ends⟩⟩
  | list starts read ends =>
      rw [readValue, starts]
      exact Option.bind_eq_some_iff.mpr ⟨_, read, finish_eq_some_iff.mpr ⟨rfl, ends⟩⟩
  | quoted starts read ends =>
      rw [readValue, starts]
      exact Option.bind_eq_some_iff.mpr ⟨_, read, finish_eq_some_iff.mpr ⟨rfl, ends⟩⟩
  | character starts ends =>
      rw [readValue, starts]
      exact finish_eq_some_iff.mpr ⟨rfl, ends⟩
  | bare bare whole =>
      rw [readValue]
      split
      · next starts => exact absurd starts (bare.isTrue _)
      · next starts => exact absurd starts (bare.isFalse _)
      · next starts => exact absurd starts (bare.table _)
      · next starts => exact absurd starts (bare.list _)
      · next starts => exact absurd starts (bare.quoted _)
      · next starts => exact absurd starts (bare.apostrophe _)
      · next starts => exact absurd starts (bare.apostrophe _)
      · have all : (source.dropWhile isSpace).takeWhile (!isSeparator ·) = source.dropWhile isSpace :=
          List.takeWhile_eq_self_iff.mpr fun c there => by simp [whole c there]
        rw [all]
        exact finish_eq_some_iff.mpr ⟨rfl, (allSpace_dropWhile_iff _).mpr whole⟩

end Reading

/-! ## Which texts stand for themselves -/

/-- How deep a text may nest. -/
def depthOf (content : String) : Nat := 2 * content.length + 1

/-- A text without the space in front of it. -/
def front (content : String) : List Char := content.toList.dropWhile isSpace

/-- The digits of a number: a decimal with a point, or an integer that fits into 64 bits. -/
def IsNumeral (cs : List Char) : Prop :=
  cs.contains '.' = true ∧ (Decimal.readMagnitude? (Decimal.dropSign cs)).isSome = true ∨
    ∃ number, Decimal.readInteger? cs = some number ∧ fits number = true

/-- A text is taken for something else than itself. -/
inductive Guessed (content : String) : Prop
  | flag {tail : List Char} (ends : AllSpace tail)
      (starts : front content = "true".toList ++ tail ∨ front content = "false".toList ++ tail) :
      Guessed content
  /-- It is a complete table. -/
  | table {rest tail : List Char} {entries : List (String × Value)}
      (starts : front content = '{' :: rest)
      (read : readEntries (depthOf content) rest = some (entries, tail)) (ends : AllSpace tail) :
      Guessed content
  /-- It is a complete list. -/
  | list {rest tail : List Char} {items : List Value} (starts : front content = '[' :: rest)
      (read : readItems (depthOf content) rest = some (items, tail)) (ends : AllSpace tail) :
      Guessed content
  /-- It is a text in quotes. -/
  | quoted {rest tail : List Char} {text : String} (starts : front content = '"' :: rest)
      (read : readQuoted rest = some (text, tail)) (ends : AllSpace tail) : Guessed content
  /-- It is a character between apostrophes. -/
  | character {c : Char} {tail : List Char} (starts : front content = '\'' :: c :: '\'' :: tail)
      (ends : AllSpace tail) : Guessed content
  | number (bare : Bare (front content)) (whole : ∀ c ∈ front content, isSeparator c = false)
      (numeral : IsNumeral (strip isBlank content.toList)) : Guessed content
  /-- It has blanks around it. -/
  | padded (bare : Bare (front content)) (whole : ∀ c ∈ front content, isSeparator c = false)
      (padded : strip isBlank content.toList ≠ content.toList) : Guessed content

section Guessing

variable {content : String} {value : Value}

private theorem isBlank_of_isSpace {c : Char} (space : isSpace c = true) : isBlank c = true := by
  simp only [isSpace, Bool.or_eq_true, beq_iff_eq] at space
  rcases space with (((rfl | rfl) | rfl) | rfl) | formFeed
  · rfl
  · rfl
  · rfl
  · rfl
  · simp [isBlank, formFeed]

/-- What is left out as space would be stripped anyway. -/
theorem strip_front (content : String) :
    strip isBlank (front content) = strip isBlank content.toList := by
  have same := calc
    content.toList.dropWhile isBlank
      = (content.toList.takeWhile isSpace ++ front content).dropWhile isBlank := by
        rw [front, List.takeWhile_append_dropWhile]
    _ = (front content).dropWhile isBlank := List.dropWhile_append_of_pos fun c spaces =>
        isBlank_of_isSpace (List.mem_takeWhile_imp spaces)
  rw [strip, strip, same]

private theorem bareValue_eq_text_iff {cs : List Char} {text : String} :
    bareValue cs = .text text ↔ ¬IsNumeral cs ∧ String.ofList cs = text := by
  have integer : (∃ number, Decimal.readInteger? cs = some number ∧ fits number = true) ↔
      ∃ number, (Decimal.readInteger? cs).filter fits = some number := by
    simp only [Option.filter_eq_some_iff]
  rw [IsNumeral, integer, bareValue]
  split
  · next real =>
    refine iff_of_false (by simp) fun plain => plain.1 (.inl ?_)
    simpa using real
  · next unreal =>
    cases read : (Decimal.readInteger? cs).filter fits with
    | some number => simp
    | none =>
        rw [Bool.and_eq_true] at unreal
        simp only [Value.text.injEq, reduceCtorEq, exists_false, or_false, unreal, not_false_eq_true,
          true_and]

private theorem length_splitQuoted {source : List Char} {split : List Char × List Char}
    (found : splitQuoted source = some split) : split.1.length < source.length := by
  fun_induction splitQuoted source generalizing split with
  | case1 => cases found
  | case2 rest =>
      cases found
      exact Nat.zero_lt_succ _
  | case3 c rest ih =>
      obtain ⟨inner, read, rfl⟩ := Option.map_eq_some_iff.mp found
      exact Nat.add_lt_add_right (ih read) 2
  | case4 c rest quote escape ih =>
      obtain ⟨inner, read, rfl⟩ := Option.map_eq_some_iff.mp found
      exact Nat.add_lt_add_right (ih read) 1

private theorem length_unescape {source text : List Char} (read : unescape source = some text) :
    text.length ≤ source.length := by
  fun_induction unescape source generalizing text with
  | case1 =>
      cases read
      exact Nat.le_refl _
  | case2 rest c after found shorter ih =>
      obtain ⟨inner, unescaped, rfl⟩ := Option.map_eq_some_iff.mp read
      have := ih unescaped
      simp only [List.length_cons]
      omega
  | case3 rest nothing => cases read
  | case4 c rest plain ih =>
      obtain ⟨inner, unescaped, rfl⟩ := Option.map_eq_some_iff.mp read
      exact Nat.succ_le_succ (ih unescaped)

/-- The quotes are not part of the text. -/
theorem length_readQuoted {rest tail : List Char} {text : String}
    (read : readQuoted rest = some (text, tail)) : text.length < rest.length := by
  obtain ⟨split, found, unquoted⟩ := Option.bind_eq_some_iff.mp read
  obtain ⟨cs, unescaped, same⟩ := Option.map_eq_some_iff.mp unquoted
  cases same
  rw [String.length_ofList]
  exact Nat.lt_of_le_of_lt (length_unescape unescaped) (length_splitQuoted found)

private theorem length_front (content : String) : (front content).length ≤ content.length :=
  (List.dropWhile_sublist _).length_le.trans_eq String.length_toList

theorem parse_of_means (means : Means (depthOf content) (front content) value) :
    parse content = value := by
  have read : readValue (2 * content.length + 2) content.toList = some (value, []) :=
    readValue_of_means means
  rw [parse, read]

theorem parse_of_not_means (nothing : ∀ value, ¬Means (depthOf content) (front content) value) :
    parse content = .text content := by
  have outset := readValue_outset (depthOf content) content.toList
  unfold parse
  split
  · next value read => exact absurd (means_of_outset outset read) (nothing value)
  · rfl

/-- A text stands for itself unless it is taken for something else. -/
theorem parse_eq_text_iff : parse content = .text content ↔ ¬Guessed content := by
  constructor
  · rintro itself (⟨ends, starts | starts⟩ | ⟨starts, read, ends⟩ | ⟨starts, read, ends⟩ |
      ⟨starts, read, ends⟩ | ⟨starts, ends⟩ | ⟨bare, whole, numeral⟩ | ⟨bare, whole, padded⟩)
    · cases itself.symm.trans (parse_of_means (.isTrue starts ends))
    · cases itself.symm.trans (parse_of_means (.isFalse starts ends))
    · cases itself.symm.trans (parse_of_means (.table starts read ends))
    · cases itself.symm.trans (parse_of_means (.list starts read ends))
    · have shorter := length_readQuoted read
      have bounded := length_front content
      rw [starts, List.length_cons] at bounded
      cases itself.symm.trans (parse_of_means (.quoted starts read ends))
      omega
    · have bounded := length_front content
      rw [starts, List.length_cons, List.length_cons] at bounded
      cases itself.symm.trans (parse_of_means (.character starts ends))
      rw [String.length_singleton] at bounded
      omega
    · have same := itself.symm.trans (parse_of_means (.bare bare whole))
      rw [strip_front] at same
      exact (bareValue_eq_text_iff.mp same.symm).1 numeral
    · have same := itself.symm.trans (parse_of_means (.bare bare whole))
      rw [strip_front] at same
      have solid := congrArg String.toList (bareValue_eq_text_iff.mp same.symm).2
      exact padded (String.toList_ofList.symm.trans solid)
  · intro itself
    by_cases complete : ∃ value, Means (depthOf content) (front content) value
    · obtain ⟨value, means⟩ := complete
      rw [parse_of_means means]
      cases means with
      | isTrue starts ends => exact absurd (.flag ends (.inl starts)) itself
      | isFalse starts ends => exact absurd (.flag ends (.inr starts)) itself
      | table starts read ends => exact absurd (.table starts read ends) itself
      | list starts read ends => exact absurd (.list starts read ends) itself
      | quoted starts read ends => exact absurd (.quoted starts read ends) itself
      | character starts ends => exact absurd (.character starts ends) itself
      | bare bare whole =>
          rw [strip_front, bareValue_eq_text_iff]
          refine ⟨fun numeral => itself (.number bare whole numeral), ?_⟩
          have solid : strip isBlank content.toList = content.toList :=
            Decidable.not_not.mp fun padded => itself (.padded bare whole padded)
          rw [solid, String.ofList_toList]
    · exact parse_of_not_means fun value means => complete ⟨value, means⟩

end Guessing

end Environment
end Settings
end LinkFacts
