import LinkFacts.Proofs.Facts.Scalars
import LinkFacts.Proofs.Json.Trees

/-!
# Facts are flat objects

Of all values just the objects of texts, integers and truth values are facts.  One value of any
other kind refuses the whole object, wherever it stands and even if its key is repeated later.  A
text stands for itself, a truth value for its keyword and an integer for its literal.
-/

namespace LinkFacts

/-! ## Values of facts -/

namespace Json

/-- The text of a value that a fact may have. -/
def Tree.text? : Tree → Option String
  | .text value => some value
  | .flag true => some "true"
  | .flag false => some "false"
  | .integer value => some (String.ofList (literal value))
  | .null | .list _ | .object _ => none

/-- A value that is neither missing nor made of other values. -/
def Tree.IsScalar : Tree → Prop
  | .text _ | .flag _ | .integer _ => True
  | .null | .list _ | .object _ => False

private theorem Tree.isScalar_iff {tree : Tree} :
    tree.IsScalar ↔ ∃ text, tree.text? = some text := by
  cases tree with
  | flag value => cases value <;> simp [Tree.IsScalar, Tree.text?]
  | _ => simp [Tree.IsScalar, Tree.text?]

end Json

namespace Facts

open Json Text

/-- The object of which facts are collected: each member gives a pair, in their order. -/
def Collects (tree : Tree) (facts : Facts) : Prop :=
  ∃ members pairs, tree = .object members ∧
    List.Forall₂ (Named fun value text => value.text? = some text) members pairs ∧
    ofList pairs = facts

/-- What becomes of a text that denotes a value. -/
structure ReadsFlat (text : String) (tree : Tree) : Prop where
  /-- Just the objects are accepted of which all members are scalars. -/
  accepted : (∃ facts, ofJson text = .ok facts) ↔
    ∃ members, tree = .object members ∧ ∀ member ∈ members, member.2.IsScalar
  /-- What is accepted is collected from the members. -/
  collected : ∀ facts, ofJson text = .ok facts ↔ Collects tree facts

/-! ## Scalars -/

section Scalars

variable {source rest left : List Char} {tree : Tree} {text : String} {depth : Nat}

/-- The literal of an integer is its digits, with a minus in front of a negative one. -/
theorem scalarText_literal (value : Integer) (rest : List Char) :
    ScalarText (literal value ++ rest) (String.ofList (literal value)) rest := by
  obtain ⟨value, least, bounded⟩ := value
  have written (digits : Nat) : NumeralText (Nat.toDigits 10 digits ++ rest)
      ⟨Nat.toDigits 10 digits, [], none⟩ rest := by
    have run : Digits (Nat.toDigits 10 digits) :=
      ⟨List.ne_nil_of_length_pos Nat.length_toDigits_pos, isDecimal_of_mem_toDigits digits⟩
    exact .parts run (toDigits_of_zero_first digits) .absent .absent
  have number (minus : Bool) {digits : Nat} (fits : digits < significandBound) :
      Numeral.number minus ⟨Nat.toDigits 10 digits, [], none⟩ = .ok (integer minus digits) := by
    have short : Numeral.IsShort ⟨Nat.toDigits 10 digits, [], none⟩ := by
      refine ⟨rfl, rfl, ?_⟩
      rwa [foldDigits_toDigits]
    rw [Numeral.number, if_pos short, foldDigits_toDigits]
  cases value with
  | ofNat value =>
      have fits : value < significandBound := Int.ofNat_lt.mp bounded
      exact .plain (written value) (number false fits)
  | negSucc value =>
      have fits : value + 1 < significandBound := by
        have bound : significandBound = 2 ^ 64 := rfl
        omega
      have negative : integer true (value + 1) = .negative (value + 1) := by
        have large : Nat.pow 2 63 = 2 ^ 63 := rfl
        simp only [integer, large]
        rw [if_neg (by decide), if_neg]
        simp only [Bool.or_eq_true, decide_eq_true_eq]
        omega
      have denoted := number true fits
      rw [negative] at denoted
      exact .minus (written (value + 1)) denoted

private theorem scalarText_of_treeText (denoted : TreeText source tree rest)
    (known : tree.text? = some text) : ScalarText source text rest := by
  cases denoted with
  | text spelled =>
      cases known
      exact .text spelled
  | integer =>
      cases known
      exact scalarText_literal _ rest
  | holds =>
      cases known
      exact .holds
  | fails =>
      cases known
      exact .fails
  | null => cases known
  | list => cases known
  | object => cases known

/-- No fact is read from the text of a value that is no scalar. -/
theorem not_takes_readScalarText (denoted : TreeText source tree rest)
    (unknown : tree.text? = none) : ¬ Takes (readScalarText depth source) text left := by
  rw [takes_readScalarText_iff]
  rintro ⟨value, read, known⟩
  cases denoted with
  | null =>
      have null : Takes (@readScalar.keyword "ull".toList .null 'n' ("ull".toList ++ rest)) value
        left := read
      obtain ⟨-, rfl⟩ := takes_keyword_iff.mp null
      cases known
  | list listed => cases listed <;> exact not_takes_error read
  | object listed => cases listed <;> exact not_takes_error read
  | holds => cases unknown
  | fails => cases unknown
  | integer => cases unknown
  | text => cases unknown

private theorem solid_of_treeText (denoted : TreeText source tree rest) :
    ∀ c ∈ source.head?, isSpace c = false := by
  cases known : tree.text? with
  | some text => exact solid_of_scalarText (scalarText_of_treeText denoted known)
  | none =>
      cases denoted with
      | null => simp [isSpace]
      | list listed => cases listed <;> simp [isSpace]
      | object listed => cases listed <;> simp [isSpace]
      | holds => cases known
      | fails => cases known
      | integer => cases known
      | text => cases known

/-- The reader of a fact makes of a scalar its text, and refuses every other value. -/
theorem interprets_readScalarText (depth : Nat) :
    Interprets (readScalarText depth) TreeText fun tree text => tree.text? = some text where
  takes_iff := by
    intro source tree rest text left denoted follows
    have reads := reads_scalarText depth
    constructor
    · intro read
      cases known : tree.text? with
      | none => exact absurd read (not_takes_readScalarText denoted known)
      | some other =>
          have whole := reads.complete (scalarText_of_treeText denoted known) follows
          obtain ⟨rfl, rfl⟩ := whole.unique read
          exact ⟨rfl, rfl⟩
    · rintro ⟨known, rfl⟩
      exact reads.complete (scalarText_of_treeText denoted known) follows
  solid := solid_of_treeText

/-! ## Objects -/

private theorem object_of_treeText {body : List Char} (denoted : TreeText ('{' :: body) tree rest) :
    ∃ members, tree = .object members ∧ ObjectText TreeText ('{' :: body) members rest := by
  generalize same : '{' :: body = source at denoted
  cases denoted with
  | object listed => exact ⟨_, rfl, listed⟩
  | list listed =>
      subst same
      cases listed
  | text => cases same
  | null => simp at same
  | holds => simp at same
  | fails => simp at same
  | @integer value =>
      obtain ⟨value, bounds⟩ := value
      cases value with
      | negSucc value => cases same
      | ofNat value =>
          have digits := isDecimal_of_mem_toDigits value
          have nonempty : Nat.toDigits 10 value ≠ [] :=
            List.ne_nil_of_length_pos Nat.length_toDigits_pos
          obtain ⟨first, others, cons⟩ := List.exists_cons_of_ne_nil nonempty
          simp only [literal, cons, List.cons_append, List.cons.injEq] at same
          have decimal := digits first (by simp [cons])
          rw [← same.1] at decimal
          cases decimal

/-- The reader of facts collects the members of a flat object, and refuses every other value. -/
theorem interprets_read (depth : Nat) : Interprets (read (depth + 1)) TreeText Collects where
  takes_iff := by
    intro source tree rest facts left denoted follows
    rw [takes_read_iff]
    constructor
    · rintro ⟨pairs, object, collected⟩
      obtain ⟨body, rfl, inner⟩ := takes_readObject_iff.mp object
      obtain ⟨members, rfl, listed⟩ := object_of_treeText denoted
      obtain ⟨means, ended⟩ := ((interprets_readScalarText depth).members_iff listed).mp inner
      exact ⟨⟨members, pairs, rfl, means, collected⟩, ended⟩
    · rintro ⟨⟨members, pairs, rfl, means, collected⟩, rfl⟩
      cases denoted with
      | object listed =>
          obtain ⟨body, rfl⟩ : ∃ body, source = '{' :: body := by
            cases listed <;> exact ⟨_, rfl⟩
          have inner := ((interprets_readScalarText depth).members_iff listed).mpr ⟨means, rfl⟩
          exact ⟨pairs, takes_readObject_iff.mpr ⟨body, rfl, inner⟩, collected⟩
  solid := solid_of_treeText

/-- Members of which each has a text give a pair each. -/
theorem exists_pairs_iff {members : List (String × Tree)} :
    (∃ pairs, List.Forall₂ (Named fun value text => value.text? = some text) members pairs) ↔
      ∀ member ∈ members, member.2.IsScalar := by
  induction members with
  | nil => simp
  | cons member members ih =>
      rw [List.forall_mem_cons, ← ih, Tree.isScalar_iff]
      constructor
      · rintro ⟨_, pairs⟩
        cases pairs with
        | cons named others => exact ⟨⟨_, named.2⟩, ⟨_, others⟩⟩
      · rintro ⟨⟨text, known⟩, ⟨pairs, others⟩⟩
        exact ⟨(member.1, text) :: pairs, .cons ⟨rfl, known⟩ others⟩

end Scalars

/-! ## Documents -/

/-- Of a value, nested in any way, the facts are read just if it is a flat object; this holds of its
compact text and of every other text that denotes it. -/
theorem accepts_flat_objects (tree : Tree) : ReadsFlat (String.ofList tree.write) tree ∧
    ∀ text : String, DocumentText TreeText text.toList tree → ReadsFlat text tree := by
  have reads (text : String) (denotes : DocumentText TreeText text.toList tree) :
      ReadsFlat text tree := by
    have collected (facts : Facts) : ofJson text = .ok facts ↔ Collects tree facts :=
      (interprets_read 126).document_iff denotes
    refine ⟨?_, collected⟩
    simp only [collected, ← exists_pairs_iff]
    constructor
    · rintro ⟨facts, members, pairs, same, means, -⟩
      exact ⟨members, same, pairs, means⟩
    · rintro ⟨members, same, pairs, means⟩
      exact ⟨ofList pairs, members, pairs, same, means, rfl⟩
  refine ⟨reads _ ?_, reads⟩
  have written := treeText_write tree []
  rw [List.append_nil] at written
  rw [String.toList_ofList]
  exact ⟨tree.write, [], blanks_refl _, written, blanks_refl _⟩

/-- The greatest integer of 64 bits. -/
def greatest : Integer := ⟨18446744073709551615, by decide⟩

/-- The least integer of 64 bits. -/
def least : Integer := ⟨-9223372036854775808, by decide⟩

/-- A document in which a key is repeated. -/
def limitsDocument : String :=
  "\x7b \"n\":18446744073709551615 ,\"n\":-9223372036854775808\x7d"

/-- Neither integer is altered, and the later one is kept. -/
theorem limits_kept :
    DocumentText TreeText limitsDocument.toList
      (.object [("n", .integer greatest), ("n", .integer least)]) ∧
    ofJson limitsDocument = .ok (ofList [("n", "-9223372036854775808")]) := by
  have written : limitsDocument.toList = '{' :: ([' '] ++ (quote "n" ++ ':' ::
      (literal greatest ++ ([' '] ++ ',' :: (quote "n" ++ ':' ::
        (literal least ++ ['}'])))))) := by cbv
  have denotes : DocumentText TreeText limitsDocument.toList
      (.object [("n", .integer greatest), ("n", .integer least)]) := by
    rw [written]
    refine ⟨_, [], blanks_refl _, .object ?_, blanks_refl _⟩
    exact .members ⟨[' '], rfl, by simp [isSpace]⟩ (memberText_quote "n" .integer)
      (.next ⟨[' '], rfl, by simp [isSpace]⟩ (blanks_refl _) (memberText_quote "n" .integer)
        (.close (blanks_refl _)))
  have reads := (accepts_flat_objects _).2 limitsDocument denotes
  refine ⟨denotes, (reads.collected _).mpr ⟨_, [("n", String.ofList (literal greatest)),
    ("n", String.ofList (literal least))], rfl, ?_, ?_⟩⟩
  · exact .cons ⟨rfl, rfl⟩ (.cons ⟨rfl, rfl⟩ .nil)
  · cbv

end Facts
end LinkFacts
