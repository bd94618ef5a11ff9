import Mathlib.Data.List.TakeWhile
import LinkFacts.Json.Document
import LinkFacts.Proofs.Json.Spelling

/-!
# Objects of documents

The grammar of objects and of whole documents, over any grammar of their values: members stand
between braces and are separated by commas, and blank characters may stand around each of them and
around the colon behind a key.  A reader of values that fits their grammar makes a reader of objects
that fits the grammar of objects.
-/

namespace LinkFacts
namespace Json

/-! ## The grammar -/

/-- The beginnings of texts that denote a value, each with what follows it. -/
abbrev Grammar (α : Type) := List Char → α → List Char → Prop

/-- Blank characters, perhaps none. -/
def Blanks (source rest : List Char) : Prop :=
  ∃ blanks, source = blanks ++ rest ∧ ∀ c ∈ blanks, isSpace c = true

section Grammars

variable {α : Type} (grammar : Grammar α)

/-- A quoted key, a colon and a value. -/
inductive MemberText : Grammar (String × α) where
  | pair {source key afterKey beforeValue start rest : List Char} {value : α}
      (spelled : BodyText source key afterKey) (colon : Blanks afterKey (':' :: beforeValue))
      (blanks : Blanks beforeValue start) (denoted : grammar start value rest) :
      MemberText ('"' :: source) (String.ofList key, value) rest

/-- Members that each follow a comma, and the closing brace. -/
inductive OthersText : Grammar (List (String × α)) where
  | close {source rest : List Char} (brace : Blanks source ('}' :: rest)) :
      OthersText source [] rest
  | next {source beforeMember start next rest : List Char} {member : String × α}
      {members : List (String × α)} (comma : Blanks source (',' :: beforeMember))
      (blanks : Blanks beforeMember start) (first : MemberText grammar start member next)
      (others : OthersText next members rest) : OthersText source (member :: members) rest

/-- An object, by its members in their order. -/
inductive ObjectText : Grammar (List (String × α)) where
  | empty {source rest : List Char} (brace : Blanks source ('}' :: rest)) :
      ObjectText ('{' :: source) [] rest
  | members {source start next rest : List Char} {member : String × α}
      {members : List (String × α)} (blanks : Blanks source start)
      (first : MemberText grammar start member next)
      (others : OthersText grammar next members rest) :
      ObjectText ('{' :: source) (member :: members) rest

/-- A document is one value between blank characters. -/
def DocumentText (source : List Char) (value : α) : Prop :=
  ∃ start rest, Blanks source start ∧ grammar start value rest ∧ Blanks rest []

end Grammars

/-! ## Blank characters -/

/-- What may follow a value: a blank character, a comma, a closing bracket, or nothing. -/
def Follows (rest : List Char) : Prop :=
  ∀ c ∈ rest.head?, isSpace c = true ∨ c = ',' ∨ c = '}' ∨ c = ']'

section Blank

variable {source rest : List Char}

private theorem blanks_skipSpace (source : List Char) : Blanks source (skipSpace source) :=
  ⟨source.takeWhile isSpace, List.takeWhile_append_dropWhile.symm,
    fun _ member => List.mem_takeWhile_imp member⟩

private theorem skipSpace_of_solid (solid : ∀ c ∈ rest.head?, isSpace c = false) :
    skipSpace rest = rest := by
  cases rest with
  | nil => rfl
  | cons c rest =>
      have first : isSpace c = false := solid c rfl
      simp [skipSpace, first]

theorem skipSpace_of_blanks (blanks : Blanks source rest)
    (solid : ∀ c ∈ rest.head?, isSpace c = false) : skipSpace source = rest := by
  obtain ⟨lead, rfl, spaces⟩ := blanks
  have whole : skipSpace (lead ++ rest) = skipSpace rest := List.dropWhile_append_of_pos spaces
  rw [whole, skipSpace_of_solid solid]

/-- Blank characters may stand before what follows a value. -/
theorem Blanks.follows (blanks : Blanks source rest) (follows : Follows rest) :
    Follows source := by
  obtain ⟨lead, rfl, spaces⟩ := blanks
  cases lead with
  | nil => exact follows
  | cons c lead =>
      intro d first
      cases first
      exact .inl (spaces c List.mem_cons_self)

end Blank

/-! ## Readers -/

/-- A reader fits a grammar: it takes what the grammar derives, unless the text goes on. -/
structure Reads {α : Type} (reader : Reader α) (grammar : Grammar α) : Prop where
  sound : ∀ {source value rest}, Takes (reader source) value rest → grammar source value rest
  complete : ∀ {source value rest}, grammar source value rest → Follows rest →
    Takes (reader source) value rest
  solid : ∀ {source value rest}, grammar source value rest →
    ∀ c ∈ source.head?, isSpace c = false

section Members

variable {α : Type} {element : Reader α} {grammar : Grammar α} {member : String × α}
  {members : List (String × α)} {source rest : List Char}

theorem takes_readMember_iff : Takes (readMember element source) member rest ↔
    ∃ body key afterKey beforeValue, source = '"' :: body ∧ BodyText body key afterKey ∧
      skipSpace afterKey = ':' :: beforeValue ∧
      Takes (element (skipSpace beforeValue)) member.2 rest ∧ String.ofList key = member.1 := by
  constructor
  · intro read
    unfold readMember at read
    split at read
    · exact (not_takes_error read).elim
    · next c body =>
      split at read
      · next quotation =>
        subst quotation
        split at read
        · exact (not_takes_error read).elim
        · next key spelled =>
          split at read
          · exact (not_takes_error read).elim
          · next beforeValue colon =>
            split at read
            · exact (not_takes_error read).elim
            · next value denoted =>
              obtain ⟨rfl, rfl⟩ := takes_ok_iff.mp read
              exact ⟨body, key.value, key.rest, beforeValue, rfl,
                takes_readQuoteBody_iff.mp (takes_of_eq_ok spelled), colon,
                takes_of_eq_ok denoted, rfl⟩
          · exact (not_takes_error read).elim
      · exact (not_takes_error read).elim
  · obtain ⟨name, value⟩ := member
    rintro ⟨body, key, afterKey, beforeValue, rfl, spelled, colon, denoted, rfl⟩
    obtain ⟨_, keyRead⟩ := takes_readQuoteBody_iff.mpr spelled
    obtain ⟨_, valueRead⟩ := denoted
    simp only [readMember, ↓reduceIte, keyRead]
    split
    · next ended => cases colon.symm.trans ended
    · next found =>
      cases colon.symm.trans found
      simp [valueRead]
    · next other found =>
      cases colon.symm.trans found
      exact (other rfl).elim

theorem takes_readMembers_iff {first : Bool} :
    Takes (readMembers element first source) members rest ↔
      (skipSpace source = '}' :: rest ∧ members = []) ∨
      ∃ c more start member next others, skipSpace source = c :: more ∧ c ≠ '}' ∧
        (if first then start = c :: more else c = ',' ∧ start = skipSpace more) ∧
        Takes (readMember element start) member next ∧
        Takes (readMembers element false next) others rest ∧ members = member :: others := by
  constructor
  · intro read
    rw [readMembers] at read
    split at read
    · exact (not_takes_error read).elim
    · next brace =>
      obtain ⟨rfl, rfl⟩ := takes_ok_iff.mp read
      exact .inl ⟨brace, rfl⟩
    · next c more other found =>
      simp only at read
      split at read
      · exact (not_takes_error read).elim
      · next start _ started =>
        split at read
        · exact (not_takes_error read).elim
        · next member pair =>
          split at read
          · exact (not_takes_error read).elim
          · next others further =>
            obtain ⟨rfl, rfl⟩ := takes_ok_iff.mp read
            refine .inr ⟨c, more, start, member.value, member.rest, others.value, found, other, ?_,
              takes_of_eq_ok pair, takes_of_eq_ok further, rfl⟩
            split_ifs at started with opening comma
            · cases started
              rw [if_pos opening]
            · cases started
              rw [if_neg opening]
              exact ⟨comma, rfl⟩
  · rintro (⟨brace, rfl⟩ | ⟨c, more, start, member, next, others, found, other, started,
      ⟨_, pair⟩, ⟨_, further⟩, rfl⟩)
    · rw [readMembers]
      split
      · next ended => cases brace.symm.trans ended
      · next closed =>
        cases brace.symm.trans closed
        exact takes_ok_iff.mpr ⟨rfl, rfl⟩
      · next open_ found =>
        cases brace.symm.trans found
        exact (open_ rfl).elim
    · rw [readMembers]
      split
      · next ended => cases found.symm.trans ended
      · next closed =>
        cases found.symm.trans closed
        exact (other rfl).elim
      · next c' more' _ same =>
        cases found.symm.trans same
        cases first with
        | true =>
            cases started
            simp [pair, further]
        | false =>
            obtain ⟨rfl, rfl⟩ := started
            simp [pair, further]

/-- A colon is no blank character. -/
theorem solid_colon (source : List Char) : ∀ c ∈ (':' :: source).head?, isSpace c = false := by
  simp [isSpace]

theorem MemberText.solid (text : MemberText grammar source member rest) :
    ∀ c ∈ source.head?, isSpace c = false := by
  cases text
  simp [isSpace]

theorem OthersText.follows (text : OthersText grammar source members rest) : Follows source := by
  cases text with
  | close brace => exact brace.follows (by simp [Follows])
  | next comma => exact comma.follows (by simp [Follows])

namespace Reads

variable (reads : Reads element grammar)

include reads

private theorem member_sound (read : Takes (readMember element source) member rest) :
    MemberText grammar source member rest := by
  obtain ⟨body, key, afterKey, beforeValue, rfl, spelled, colon, denoted, named⟩ :=
    takes_readMember_iff.mp read
  obtain ⟨name, value⟩ := member
  cases named
  have blanks := blanks_skipSpace afterKey
  rw [colon] at blanks
  exact .pair spelled blanks (blanks_skipSpace beforeValue) (reads.sound denoted)

private theorem member_complete (text : MemberText grammar source member rest)
    (follows : Follows rest) :
    Takes (readMember element source) member rest := by
  cases text with
  | @pair body key afterKey beforeValue start _ value spelled colon blanks denoted =>
      have skipped := skipSpace_of_blanks blanks (reads.solid denoted)
      refine takes_readMember_iff.mpr ⟨body, key, afterKey, beforeValue, rfl, spelled,
        skipSpace_of_blanks colon (solid_colon _), ?_, rfl⟩
      rw [skipped]
      exact reads.complete denoted follows

private theorem others_sound (read : Takes (readMembers element false source) members rest) :
    OthersText grammar source members rest := by
  induction members generalizing source with
  | nil =>
      obtain ⟨brace, -⟩ | ⟨c, more, start, member, next, others, -, -, -, -, -, same⟩ :=
        takes_readMembers_iff.mp read
      · have blanks := blanks_skipSpace source
        rw [brace] at blanks
        exact .close blanks
      · cases same
  | cons member members ih =>
      obtain ⟨-, same⟩ | ⟨c, more, start, member, next, others, found, -, started, pair, further,
        same⟩ := takes_readMembers_iff.mp read
      · cases same
      · cases same
        obtain ⟨rfl, rfl⟩ := started
        have blanks := blanks_skipSpace source
        rw [found] at blanks
        exact .next blanks (blanks_skipSpace more) (reads.member_sound pair) (ih further)

private theorem others_complete (text : OthersText grammar source members rest) :
    Takes (readMembers element false source) members rest := by
  induction text with
  | close brace =>
      exact takes_readMembers_iff.mpr (.inl ⟨skipSpace_of_blanks brace (by simp [isSpace]), rfl⟩)
  | next comma blanks first others ih =>
      refine takes_readMembers_iff.mpr (.inr ⟨',', _, _, _, _, _,
        skipSpace_of_blanks comma (by simp [isSpace]), by decide, ⟨rfl, ?_⟩,
        reads.member_complete first others.follows, ih, rfl⟩)
      exact (skipSpace_of_blanks blanks first.solid).symm

private theorem members_sound (read : Takes (readMembers element true source) members rest) :
    ObjectText grammar ('{' :: source) members rest := by
  obtain ⟨brace, rfl⟩ | ⟨c, more, start, member, next, others, found, -, started, pair, further,
    rfl⟩ := takes_readMembers_iff.mp read
  · have blanks := blanks_skipSpace source
    rw [brace] at blanks
    exact .empty blanks
  · cases started
    have blanks := blanks_skipSpace source
    rw [found] at blanks
    exact .members blanks (reads.member_sound pair) (reads.others_sound further)

private theorem members_complete (text : ObjectText grammar ('{' :: source) members rest) :
    Takes (readMembers element true source) members rest := by
  cases text with
  | empty brace =>
      exact takes_readMembers_iff.mpr (.inl ⟨skipSpace_of_blanks brace (by simp [isSpace]), rfl⟩)
  | @members _ start next _ member others blanks first further =>
      have pair := reads.member_complete first further.follows
      have skipped := skipSpace_of_blanks blanks first.solid
      cases first with
      | pair =>
          exact takes_readMembers_iff.mpr (.inr ⟨'"', _, _, _, next, others, skipped, by decide,
            rfl, pair, reads.others_complete further, rfl⟩)

end Reads

private theorem refuseStart_ne_ok {answer : α} : refuseStart source ≠ .ok answer := by
  unfold refuseStart
  split
  · nofun
  · split <;> nofun

/-- An object is read by its members. -/
theorem takes_readObject_iff {element : Nat → Reader α} {depth : Nat} :
    Takes (readObject element (depth + 1) source) members rest ↔
      ∃ body, source = '{' :: body ∧ Takes (readMembers (element depth) true body) members rest := by
  constructor
  · intro read
    simp only [readObject] at read
    split at read
    · next body =>
      split at read
      · exact (not_takes_error read).elim
      · next taken found =>
        obtain ⟨rfl, rfl⟩ := takes_ok_iff.mp read
        exact ⟨body, rfl, takes_of_eq_ok found⟩
    · obtain ⟨_, started⟩ := read
      exact (refuseStart_ne_ok started).elim
  · rintro ⟨body, rfl, _, read⟩
    simp [readObject, read]

/-- A reader of values makes a reader of objects. -/
theorem Reads.object {element : Nat → Reader α} {depth : Nat}
    (reads : Reads (element depth) grammar) :
    Reads (readObject element (depth + 1)) (ObjectText grammar) where
  sound := by
    intro source members rest read
    obtain ⟨body, rfl, inner⟩ := takes_readObject_iff.mp read
    exact reads.members_sound inner
  complete := by
    intro source members rest text _
    obtain ⟨body, rfl⟩ : ∃ body, source = '{' :: body := by
      cases text <;> exact ⟨_, rfl⟩
    exact takes_readObject_iff.mpr ⟨body, rfl, reads.members_complete text⟩
  solid := by
    intro source members rest text
    cases text <;> simp [isSpace]

/-- A reader that fits a grammar reads the documents of the grammar. -/
theorem Reads.document {reader : Reader α} {value : α} (reads : Reads reader grammar) :
    readDocument reader source = .ok value ↔ DocumentText grammar source value := by
  unfold readDocument
  constructor
  · intro read
    split at read
    · cases read
    · next taken found =>
      split at read
      · next ended =>
        cases read
        have blanks := blanks_skipSpace taken.rest
        rw [List.isEmpty_iff.mp ended] at blanks
        exact ⟨skipSpace source, taken.rest, blanks_skipSpace source,
          reads.sound (takes_of_eq_ok found), blanks⟩
      · cases read
  · rintro ⟨start, rest, blanks, denoted, ended⟩
    have follows : Follows rest := ended.follows (by simp [Follows])
    have skipped := skipSpace_of_blanks blanks (reads.solid denoted)
    have nothing : skipSpace rest = [] := skipSpace_of_blanks ended (by simp)
    obtain ⟨_, read⟩ := reads.complete denoted follows
    subst skipped
    simp [read, nothing]

end Members

end Json
end LinkFacts
