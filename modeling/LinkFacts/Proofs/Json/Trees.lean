import LinkFacts.Proofs.Json.Numbers
import LinkFacts.Proofs.Json.Objects

/-!
# Trees of documents

Values whose numbers are integers of 64 bits, nested in any way, and the texts that denote them.
Every value has such a text.  A reader of parts that agrees with a relation on the parts of a tree
reads the object of these parts as what is related to it.
-/

namespace LinkFacts
namespace Json

open Text

/-! ## Values -/

/-- The integers of 64 bits, with a sign or without. -/
abbrev Integer := { value : Int // -2 ^ 63 ≤ value ∧ value < 2 ^ 64 }

/-- A value whose numbers are integers.  Members keep their order and may repeat a key. -/
inductive Tree where
  | null
  | flag (value : Bool)
  | integer (value : Integer)
  | text (value : String)
  | list (items : List Tree)
  | object (members : List (String × Tree))

/-- The decimal literal of an integer. -/
def literal : Int → List Char
  | .ofNat value => Nat.toDigits 10 value
  | .negSucc value => '-' :: Nat.toDigits 10 (value + 1)

/-! ## The grammar -/

section Grammars

variable {α : Type} (grammar : Grammar α)

/-- Items that each follow a comma, and the closing bracket. -/
inductive ItemsText : Grammar (List α) where
  | close {source rest : List Char} (bracket : Blanks source (']' :: rest)) :
      ItemsText source [] rest
  | next {source beforeItem start next rest : List Char} {item : α} {items : List α}
      (comma : Blanks source (',' :: beforeItem)) (blanks : Blanks beforeItem start)
      (first : grammar start item next) (others : ItemsText next items rest) :
      ItemsText source (item :: items) rest

/-- A list, by its items in their order. -/
inductive ListText : Grammar (List α) where
  | empty {source rest : List Char} (bracket : Blanks source (']' :: rest)) :
      ListText ('[' :: source) [] rest
  | items {source start next rest : List Char} {item : α} {items : List α}
      (blanks : Blanks source start) (first : grammar start item next)
      (others : ItemsText grammar next items rest) : ListText ('[' :: source) (item :: items) rest

end Grammars

/-- The texts of a value. -/
inductive TreeText : Grammar Tree where
  | null {rest : List Char} : TreeText ("null".toList ++ rest) .null rest
  | holds {rest : List Char} : TreeText ("true".toList ++ rest) (.flag true) rest
  | fails {rest : List Char} : TreeText ("false".toList ++ rest) (.flag false) rest
  | integer {value : Integer} {rest : List Char} :
      TreeText (literal value ++ rest) (.integer value) rest
  | text {source cs rest : List Char} (spelled : BodyText source cs rest) :
      TreeText ('"' :: source) (.text (String.ofList cs)) rest
  | list {source rest : List Char} {items : List Tree} (listed : ListText TreeText source items rest) :
      TreeText source (.list items) rest
  | object {source rest : List Char} {members : List (String × Tree)}
      (listed : ObjectText TreeText source members rest) : TreeText source (.object members) rest

/-! ## Writing -/

mutual

/-- The compact text of a value. -/
def Tree.write : Tree → List Char
  | .null => "null".toList
  | .flag true => "true".toList
  | .flag false => "false".toList
  | .integer value => literal value
  | .text value => quote value
  | .list [] => ['[', ']']
  | .list (item :: items) => '[' :: (item.write ++ writeItems items)
  | .object [] => ['{', '}']
  | .object ((key, value) :: members) =>
    '{' :: (quote key ++ ':' :: (value.write ++ writeOthers members))

/-- Further items up to the closing bracket. -/
def writeItems : List Tree → List Char
  | [] => [']']
  | item :: items => ',' :: (item.write ++ writeItems items)

/-- Further members up to the closing brace. -/
def writeOthers : List (String × Tree) → List Char
  | [] => ['}']
  | (key, value) :: members => ',' :: (quote key ++ ':' :: (value.write ++ writeOthers members))

end

theorem blanks_refl (source : List Char) : Blanks source source := ⟨[], rfl, by simp⟩

private theorem bodyText_quoteBody (text : String) (rest : List Char) :
    BodyText (quoteBody text.toList ++ '"' :: rest) text.toList rest :=
  takes_readQuoteBody_iff.mp (readQuoteBody_quoteBody text.toList rest)

/-- A quoted key, a colon and the text of a value. -/
theorem memberText_quote {α : Type} {grammar : Grammar α} {value : α} {source rest : List Char}
    (key : String) (denoted : grammar source value rest) :
    MemberText grammar (quote key ++ ':' :: source) (key, value) rest := by
  have pair := MemberText.pair (bodyText_quoteBody key (':' :: source)) (blanks_refl _)
    (blanks_refl _) denoted
  rwa [String.ofList_toList, ← quote_append] at pair

mutual

/-- The compact text of a value denotes the value, whatever follows. -/
theorem treeText_write (tree : Tree) (rest : List Char) : TreeText (tree.write ++ rest) tree rest :=
  match tree with
  | .null => .null
  | .flag true => .holds
  | .flag false => .fails
  | .integer _ => .integer
  | .text value => by
      have spelled := TreeText.text (bodyText_quoteBody value rest)
      rwa [String.ofList_toList, ← quote_append] at spelled
  | .list [] => .list (.empty (blanks_refl _))
  | .list (item :: items) => by
      have listed := ListText.items (blanks_refl _)
        (treeText_write item (writeItems items ++ rest)) (itemsText_write items rest)
      rw [Tree.write, List.cons_append, List.append_assoc]
      exact .list listed
  | .object [] => .object (.empty (blanks_refl _))
  | .object ((key, value) :: members) => by
      have listed := ObjectText.members (blanks_refl _)
        (memberText_quote key (treeText_write value (writeOthers members ++ rest)))
        (othersText_write members rest)
      rw [Tree.write, List.cons_append, List.append_assoc, List.cons_append, List.append_assoc]
      exact .object listed

theorem itemsText_write (items : List Tree) (rest : List Char) :
    ItemsText TreeText (writeItems items ++ rest) items rest :=
  match items with
  | [] => .close (blanks_refl _)
  | item :: items => by
      have listed := ItemsText.next (blanks_refl _) (blanks_refl _)
        (treeText_write item (writeItems items ++ rest)) (itemsText_write items rest)
      rw [writeItems, List.cons_append, List.append_assoc]
      exact listed

theorem othersText_write (members : List (String × Tree)) (rest : List Char) :
    OthersText TreeText (writeOthers members ++ rest) members rest :=
  match members with
  | [] => .close (blanks_refl _)
  | (key, value) :: members => by
      have listed := OthersText.next (blanks_refl _) (blanks_refl _)
        (memberText_quote key (treeText_write value (writeOthers members ++ rest)))
        (othersText_write members rest)
      rw [writeOthers, List.cons_append, List.append_assoc, List.cons_append, List.append_assoc]
      exact listed

end

/-! ## Reading -/

theorem Takes.unique {α : Type} {source rest left : List Char} {first second : α}
    {answer : Except Fault (Taken α source)} (one : Takes answer first rest)
    (other : Takes answer second left) : second = first ∧ left = rest := by
  obtain ⟨_, same⟩ := one
  obtain ⟨_, again⟩ := other
  cases same.symm.trans again
  exact ⟨rfl, rfl⟩

/-- A reader makes of each text of a grammar what the value of the text means. -/
structure Interprets {α β : Type} (reader : Reader β) (grammar : Grammar α)
    (Means : α → β → Prop) : Prop where
  takes_iff : ∀ {source value rest result left}, grammar source value rest → Follows rest →
    (Takes (reader source) result left ↔ Means value result ∧ left = rest)
  solid : ∀ {source value rest}, grammar source value rest →
    ∀ c ∈ source.head?, isSpace c = false

/-- A member means a pair with the same key. -/
def Named {α β : Type} (Means : α → β → Prop) (member : String × α) (pair : String × β) : Prop :=
  pair.1 = member.1 ∧ Means member.2 pair.2

namespace Interprets

variable {α β : Type} {reader : Reader β} {grammar : Grammar α} {Means : α → β → Prop}
  {member : String × α} {members : List (String × α)} {pair : String × β}
  {pairs : List (String × β)} {source rest left : List Char}

private theorem member_iff (interprets : Interprets reader grammar Means)
    (text : MemberText grammar source member rest) (follows : Follows rest) :
    Takes (readMember reader source) pair left ↔ Named Means member pair ∧ left = rest := by
  cases text with
  | @pair body key afterKey beforeValue start _ value spelled colon blanks denoted =>
      have colonSkipped := skipSpace_of_blanks colon (solid_colon beforeValue)
      have skipped := skipSpace_of_blanks blanks (interprets.solid denoted)
      rw [takes_readMember_iff]
      constructor
      · rintro ⟨body', key', afterKey', beforeValue', same, spelled', colon', read, named⟩
        cases same
        obtain ⟨rfl, rfl⟩ := (takes_readQuoteBody_iff.mpr spelled).unique
          (takes_readQuoteBody_iff.mpr spelled')
        cases colonSkipped.symm.trans colon'
        rw [skipped] at read
        obtain ⟨means, ended⟩ := (interprets.takes_iff denoted follows).mp read
        exact ⟨⟨named.symm, means⟩, ended⟩
      · rintro ⟨⟨named, means⟩, rfl⟩
        refine ⟨body, key, afterKey, beforeValue, rfl, spelled, colonSkipped, ?_, named.symm⟩
        rw [skipped]
        exact (interprets.takes_iff denoted follows).mpr ⟨means, rfl⟩

private theorem close_iff {first : Bool} (brace : Blanks source ('}' :: rest)) :
    Takes (readMembers reader first source) pairs left ↔
      List.Forall₂ (Named Means) [] pairs ∧ left = rest := by
  have closed := skipSpace_of_blanks brace (by simp [isSpace])
  rw [takes_readMembers_iff, closed, List.forall₂_nil_left_iff]
  constructor
  · rintro (⟨same, empty⟩ | ⟨c, more, start, member, next, others, same, further, -⟩)
    · cases same
      exact ⟨empty, rfl⟩
    · cases same
      exact absurd rfl further
  · rintro ⟨rfl, rfl⟩
    exact .inl ⟨rfl, rfl⟩

/-- A member is read before the members that follow it. -/
theorem next_iff (interprets : Interprets reader grammar Means) (first : Bool) {c : Char}
    {more start next : List Char} (found : skipSpace source = c :: more) (further : c ≠ '}')
    (started : if first then start = c :: more else c = ',' ∧ start = skipSpace more)
    (text : MemberText grammar start member next) (follows : Follows next)
    (behind : ∀ {others}, Takes (readMembers reader false next) others left ↔
      List.Forall₂ (Named Means) members others ∧ left = rest) :
    Takes (readMembers reader first source) pairs left ↔
      List.Forall₂ (Named Means) (member :: members) pairs ∧ left = rest := by
  rw [takes_readMembers_iff, found, List.forall₂_cons_left_iff]
  constructor
  · rintro (⟨same, -⟩ | ⟨c', more', start', pair, next', others, same, -, started', read, read', rfl⟩)
    · cases same
      exact absurd rfl further
    · cases same
      have start_eq : start' = start := by
        cases first with
        | true => exact started'.trans started.symm
        | false => exact started'.2.trans started.2.symm
      rw [start_eq] at read
      obtain ⟨named, rfl⟩ := (interprets.member_iff text follows).mp read
      obtain ⟨means, ended⟩ := behind.mp read'
      exact ⟨⟨pair, others, named, means, rfl⟩, ended⟩
  · rintro ⟨⟨pair, others, named, means, rfl⟩, ended⟩
    exact .inr ⟨c, more, start, pair, next, others, rfl, further, started,
      (interprets.member_iff text follows).mpr ⟨named, rfl⟩, behind.mpr ⟨means, ended⟩, rfl⟩

/-- The members behind the first one are read one after the other. -/
theorem others_iff (interprets : Interprets reader grammar Means)
    (text : OthersText grammar source members rest) :
    Takes (readMembers reader false source) pairs left ↔
      List.Forall₂ (Named Means) members pairs ∧ left = rest := by
  induction text generalizing pairs with
  | close brace => exact close_iff brace
  | next comma blanks first others ih =>
      have found := skipSpace_of_blanks comma (by simp [isSpace])
      have skipped := skipSpace_of_blanks blanks first.solid
      exact interprets.next_iff false found (by decide) ⟨rfl, skipped.symm⟩ first others.follows ih

/-- The members of an object are read up to its brace. -/
theorem members_iff (interprets : Interprets reader grammar Means)
    (text : ObjectText grammar ('{' :: source) members rest) :
    Takes (readMembers reader true source) pairs left ↔
      List.Forall₂ (Named Means) members pairs ∧ left = rest := by
  cases text with
  | empty brace => exact close_iff brace
  | @members _ start next _ first others blanks text further =>
      have skipped := skipSpace_of_blanks blanks text.solid
      obtain ⟨body, rfl⟩ : ∃ body, start = '"' :: body := by
        cases text
        exact ⟨_, rfl⟩
      exact interprets.next_iff true skipped (by decide) rfl text further.follows
        (interprets.others_iff further)

/-- A document is read as what its value means. -/
theorem document_iff {value : α} {result : β} (interprets : Interprets reader grammar Means)
    (document : DocumentText grammar source value) :
    readDocument reader source = .ok result ↔ Means value result := by
  obtain ⟨start, rest, blanks, denoted, ended⟩ := document
  have follows : Follows rest := ended.follows (by simp [Follows])
  have skipped := skipSpace_of_blanks blanks (interprets.solid denoted)
  have nothing : skipSpace rest = [] := skipSpace_of_blanks ended (by simp)
  subst skipped
  rw [readDocument]
  constructor
  · intro read
    split at read
    · cases read
    · next taken found =>
      split at read
      · cases read
        exact ((interprets.takes_iff denoted follows).mp (takes_of_eq_ok found)).1
      · cases read
  · intro means
    obtain ⟨_, read⟩ := (interprets.takes_iff denoted follows).mpr ⟨means, rfl⟩
    simp [read, nothing]

end Interprets

end Json
end LinkFacts
