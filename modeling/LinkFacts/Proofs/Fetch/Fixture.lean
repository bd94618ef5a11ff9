import Mathlib
import LinkFacts.Fetch.Fixture
import LinkFacts.Proofs.Facts.Scalars
import LinkFacts.Proofs.Naming

/-!
# Fixtures serve the links of their document

A fixture is loaded as a whole or not at all.  A text that is no object of facts is refused before
any key is looked at; a key that is no address refuses the fixture; otherwise the fixture holds one
entry for each link among the keys, in whatever spelling.
-/

namespace LinkFacts
namespace Fixture

open Json

/-- A text is an object whose values are all facts; these are its members, in their order. -/
def Document (text : String) (members : List (String × Facts)) : Prop :=
  DocumentText (ObjectText Facts.FactsText) text.toList members

/-- The facts of a key are those of the last member with it. -/
def LastMember (members : List (String × Facts)) (key : String) (facts : Facts) : Prop :=
  ∃ before after, members = before ++ (key, facts) :: after ∧ ∀ member ∈ after, member.1 ≠ key

/-- A key is no absolute address. -/
def NoAddress (key : String) : Prop :=
  ∃ cause, Address.resolve none (Text.trim key) = .error cause

/-- What a document says does not depend on the order of its keys. -/
structure Unambiguous (members : List (String × Facts)) : Prop where
  /-- Keys of one link have the same facts. -/
  agree : ∀ {key other link facts others}, LastMember members key facts →
    LastMember members other others → Link.ofTarget key = .ok link →
    Link.ofTarget other = .ok link → facts = others
  /-- At most one key is no address. -/
  single : ∀ member ∈ members, ∀ other ∈ members, NoAddress member.1 → NoAddress other.1 →
    member.1 = other.1

/-! ## Members -/

section Members

variable {text key : String} {facts : Facts} {member : String × Facts}
  {members : List (String × Facts)}

/-- The members of a text are read just if it is an object of facts. -/
theorem readMembers_eq_ok_iff : readMembers text = .ok members ↔ Document text members := by
  have object : Reads (readObject Facts.read greatestDepth) (ObjectText Facts.FactsText) :=
    (Facts.reads_factsText 125).object
  exact object.document

private theorem lastMember_cons_iff : LastMember (member :: members) key facts ↔
    LastMember members key facts ∨
      (member = (key, facts) ∧ ∀ other ∈ members, other.1 ≠ key) := by
  constructor
  · rintro ⟨before, after, same, last⟩
    cases before with
    | nil =>
        cases same
        exact .inr ⟨rfl, last⟩
    | cons first before =>
        cases same
        exact .inl ⟨before, after, rfl, last⟩
  · rintro (⟨before, after, rfl, last⟩ | ⟨rfl, last⟩)
    · exact ⟨member :: before, after, rfl, last⟩
    · exact ⟨[], members, rfl, last⟩

private theorem mem_lastMembers_iff :
    (key, facts) ∈ lastMembers members ↔ LastMember members key facts := by
  induction members with
  | nil => simp [lastMembers, LastMember]
  | cons member members ih =>
      rw [lastMember_cons_iff, ← ih, lastMembers]
      split
      · next repeated =>
        obtain ⟨other, later, same⟩ : ∃ other ∈ members, other.1 = member.1 := by
          simpa using repeated
        constructor
        · exact .inl
        · rintro (held | ⟨rfl, last⟩)
          · exact held
          · exact absurd same (last other later)
      · next fresh =>
        have last : ∀ other ∈ members, other.1 ≠ member.1 := by
          rintro ⟨name, value⟩ later rfl
          simp only [List.any_eq_true, decide_eq_true_eq, not_exists, not_and] at fresh
          exact fresh (member.1, value) later rfl
        rw [List.mem_cons]
        constructor
        · rintro (rfl | held)
          · exact .inr ⟨rfl, last⟩
          · exact .inl held
        · rintro (held | ⟨rfl, -⟩)
          · exact .inr held
          · exact .inl rfl

/-- Every key has a last member. -/
theorem exists_lastMember (held : ∃ member ∈ members, member.1 = key) :
    ∃ facts, LastMember members key facts := by
  induction members with
  | nil => simp at held
  | cons first members ih =>
      by_cases later : ∃ other ∈ members, other.1 = key
      · obtain ⟨facts, last⟩ := ih later
        exact ⟨facts, lastMember_cons_iff.mpr (.inl last)⟩
      · have last : ∀ other ∈ members, other.1 ≠ key := fun other member same =>
          later ⟨other, member, same⟩
        obtain ⟨member, found, rfl⟩ := held
        obtain rfl | elsewhere := List.mem_cons.mp found
        · exact ⟨member.2, lastMember_cons_iff.mpr (.inr ⟨rfl, last⟩)⟩
        · exact absurd rfl (last member elsewhere)

private theorem LastMember.mem (last : LastMember members key facts) : (key, facts) ∈ members := by
  obtain ⟨before, after, rfl, -⟩ := last
  simp

end Members

/-! ## Entries -/

section Entries

variable {link other : Link} {facts : Facts} {entries result : List (Link × Facts)}
  {members : List (String × Facts)}

private theorem lookup_insert : (insert entries link facts).lookup other =
    if other = link then some facts else entries.lookup other := by
  induction entries with
  | nil => simp [insert, Naming.lookup_cons_ite]
  | cons entry entries ih =>
      obtain ⟨first, held⟩ := entry
      unfold insert
      split
      · next same =>
        cases same
        simp only [Naming.lookup_cons_ite]
        split <;> rfl
      · next different =>
        simp only [Naming.lookup_cons_ite, ih]
        by_cases found : other = first
        · subst found
          simp [different]
        · simp [found]

private theorem mem_links_insert : other ∈ (insert entries link facts).map Prod.fst ↔
    other = link ∨ other ∈ entries.map Prod.fst := by
  induction entries with
  | nil => simp [insert]
  | cons entry entries ih =>
      unfold insert
      split
      · next same => simp [same]
      · rw [List.map_cons, List.mem_cons, ih, List.map_cons, List.mem_cons]
        exact or_left_comm

private theorem nodup_insert (distinct : (entries.map Prod.fst).Nodup) :
    ((insert entries link facts).map Prod.fst).Nodup := by
  induction entries with
  | nil => simp [insert]
  | cons entry entries ih =>
      obtain ⟨fresh, others⟩ := List.nodup_cons.mp distinct
      unfold insert
      split
      · next same =>
        rw [List.map_cons, List.nodup_cons]
        exact ⟨same ▸ fresh, others⟩
      · next different =>
        rw [List.map_cons, List.nodup_cons, mem_links_insert]
        exact ⟨by simp [different, fresh], ih others⟩

/-- A failure to collect is the failure of a key. -/
theorem collect_eq_error {failure : Failure} (failed : collect entries members = .error failure) :
    ∃ member ∈ members, ∃ fault, Link.ofTarget member.1 = .error fault ∧
      failure = .ofLink fault := by
  induction members generalizing entries with
  | nil => cases failed
  | cons member members ih =>
      unfold collect at failed
      split at failed
      · obtain ⟨bad, held, fault⟩ := ih failed
        exact ⟨bad, List.mem_cons_of_mem _ held, fault⟩
      · next fault refused =>
        cases failed
        exact ⟨member, List.mem_cons_self, fault, refused, rfl⟩

/-- Whatever is collected, every key was a link. -/
theorem link_of_collect (collected : collect entries members = .ok result) :
    ∀ member ∈ members, ∃ link, Link.ofTarget member.1 = .ok link := by
  induction members generalizing entries with
  | nil => simp
  | cons member members ih =>
      unfold collect at collected
      split at collected
      · next link resolved =>
        intro other held
        obtain rfl | later := List.mem_cons.mp held
        · exact ⟨link, resolved⟩
        · exact ih collected other later
      · cases collected

/-- The links of what is collected are those of the keys, each of them once. -/
theorem links_collect (collected : collect entries members = .ok result)
    (distinct : (entries.map Prod.fst).Nodup) : (result.map Prod.fst).Nodup ∧
      ∀ link, link ∈ result.map Prod.fst ↔
        link ∈ entries.map Prod.fst ∨ ∃ member ∈ members, Link.ofTarget member.1 = .ok link := by
  induction members generalizing entries with
  | nil =>
      cases collected
      exact ⟨distinct, by simp⟩
  | cons member members ih =>
      unfold collect at collected
      split at collected
      · next first resolved =>
        obtain ⟨once, links⟩ := ih collected (nodup_insert distinct)
        refine ⟨once, fun link => ?_⟩
        rw [links, mem_links_insert, List.exists_mem_cons_iff, resolved, Except.ok.injEq,
          eq_comm, or_assoc, or_left_comm]
      · cases collected

/-- What is found under a link comes from one of its keys, or was there before. -/
theorem lookup_collect (collected : collect entries members = .ok result) (link : Link) :
    (∃ member ∈ members, Link.ofTarget member.1 = .ok link ∧
        result.lookup link = some member.2) ∨
      (∀ member ∈ members, Link.ofTarget member.1 ≠ .ok link) ∧
        result.lookup link = entries.lookup link := by
  induction members generalizing entries with
  | nil =>
      cases collected
      exact .inr ⟨by simp, rfl⟩
  | cons member members ih =>
      unfold collect at collected
      split at collected
      · next first resolved =>
        obtain ⟨later, held, same, found⟩ | ⟨none, kept⟩ := ih collected
        · exact .inl ⟨later, List.mem_cons_of_mem _ held, same, found⟩
        · rw [lookup_insert] at kept
          split at kept
          · next same =>
            subst same
            exact .inl ⟨member, List.mem_cons_self, resolved, kept⟩
          · next different =>
            refine .inr ⟨fun other held resolves => ?_, kept⟩
            obtain rfl | later := List.mem_cons.mp held
            · exact different (Except.ok.inj (resolves.symm.trans resolved))
            · exact none other later resolves
      · cases collected

end Entries

/-! ## Loading -/

/-- A fixture serves the members of a document. -/
structure Serves (fixture : Fixture) (members : List (String × Facts)) : Prop where
  /-- A target that is the same link as a key has the facts of the key. -/
  found : ∀ {target link key facts}, Link.ofTarget target = .ok link →
    LastMember members key facts → Link.ofTarget key = .ok link → fixture.fetch link = .ok facts
  /-- Nothing is known about any other target. -/
  missing : ∀ {target link}, Link.ofTarget target = .ok link →
    (∀ member ∈ members, Link.ofTarget member.1 ≠ .ok link) →
    fixture.fetch link = .error (.ofProblem (.notFound link.text))
  /-- There are as many entries as different links among the keys. -/
  size : fixture.size =
    (members.filterMap fun member => (Link.ofTarget member.1).toOption).toFinset.card

/-- What becomes of a text that is loaded. -/
structure Loads (text : String) : Prop where
  /-- A text is refused just if it is no object of facts. -/
  refused : (∃ failure, ofJson text = .error failure ∧ failure.problem = .invalidData) ↔
    ∀ members, ¬ Document text members
  /-- An object of facts is refused for a key just if the key is no address. -/
  badKey : ∀ members, Document text members → ∀ target,
    (∃ failure, ofJson text = .error failure ∧ failure.problem = .invalidLink target) ↔
      ∃ member ∈ members, NoAddress member.1 ∧ Text.trim member.1 = target
  /-- Every other object of facts is loaded, and served. -/
  loaded : ∀ members, Document text members → (∀ member ∈ members, ¬ NoAddress member.1) →
    ∃ fixture, ofJson text = .ok fixture ∧ Serves fixture members
  /-- Nothing else is loaded. -/
  whole : ∀ fixture, ofJson text = .ok fixture → ∃ members, Document text members ∧
    ∀ member ∈ members, ¬ NoAddress member.1

section Loading

variable {text target : String} {members : List (String × Facts)} {fixture : Fixture}
  {failure : Failure}

private theorem ofTarget_eq_error_iff {fault : Link.Fault} : Link.ofTarget target = .error fault ↔
    fault.target = Text.trim target ∧
      Address.resolve none (Text.trim target) = .error fault.cause := by
  obtain ⟨name, cause⟩ := fault
  simp only [Link.ofTarget, Link.resolve]
  cases Address.resolve none (Text.trim target) with
  | ok address => simp
  | error other => simp [eq_comm]

private theorem noAddress_iff :
    NoAddress target ↔ ∃ fault, Link.ofTarget target = .error fault := by
  constructor
  · rintro ⟨cause, refused⟩
    exact ⟨⟨Text.trim target, cause⟩, ofTarget_eq_error_iff.mpr ⟨rfl, refused⟩⟩
  · rintro ⟨fault, refused⟩
    exact ⟨fault.cause, (ofTarget_eq_error_iff.mp refused).2⟩

private theorem not_noAddress_iff :
    ¬ NoAddress target ↔ ∃ link, Link.ofTarget target = .ok link := by
  rw [noAddress_iff]
  cases Link.ofTarget target <;> simp

private theorem toOption_eq_some_iff {link : Link} :
    (Link.ofTarget target).toOption = some link ↔ Link.ofTarget target = .ok link := by
  cases Link.ofTarget target <;> simp [Except.toOption]

private theorem ofJson_of_no_document (none : ∀ members, ¬ Document text members) :
    ∃ fault, ofJson text = .error (.ofDocument fault) := by
  cases read : readMembers text with
  | ok members => exact absurd (readMembers_eq_ok_iff.mp read) (none members)
  | error fault => exact ⟨fault, by simp only [ofJson, read]⟩

theorem ofJson_of_document (document : Document text members) : ofJson text =
    (collect [] (lastMembers members)).map fun entries => ⟨"fixture", entries⟩ := by
  simp only [ofJson, readMembers_eq_ok_iff.mpr document]
  cases collect [] (lastMembers members) <;> rfl

/-- Every key is the key of a last member. -/
theorem exists_mem_lastMembers (property : String → Prop) :
    (∃ member ∈ lastMembers members, property member.1) ↔
      ∃ member ∈ members, property member.1 := by
  constructor
  · rintro ⟨⟨key, facts⟩, last, holds⟩
    exact ⟨_, (mem_lastMembers_iff.mp last).mem, holds⟩
  · rintro ⟨member, held, holds⟩
    obtain ⟨facts, last⟩ := exists_lastMember ⟨member, held, rfl⟩
    exact ⟨_, mem_lastMembers_iff.mpr last, holds⟩

/-- Collecting the last members fails just where a key is no address. -/
theorem failure_of_collect (unambiguous : Unambiguous members) :
    (∃ failure, collect [] (lastMembers members) = .error failure ∧
        failure.problem = .invalidLink target) ↔
      ∃ member ∈ members, NoAddress member.1 ∧ Text.trim member.1 = target := by
  rw [← exists_mem_lastMembers fun key => NoAddress key ∧ Text.trim key = target]
  constructor
  · rintro ⟨failure, failed, same⟩
    obtain ⟨member, held, fault, refused, rfl⟩ := collect_eq_error failed
    obtain ⟨trimmed, cause⟩ := ofTarget_eq_error_iff.mp refused
    have named : Problem.invalidLink fault.target = .invalidLink target := same
    rw [Problem.invalidLink.injEq, trimmed] at named
    exact ⟨member, held, ⟨fault.cause, cause⟩, named⟩
  · rintro ⟨member, held, bad, rfl⟩
    cases collected : collect [] (lastMembers members) with
    | ok entries =>
        exact absurd bad (not_noAddress_iff.mpr (link_of_collect collected member held))
    | error failure =>
        obtain ⟨other, found, fault, refused, rfl⟩ := collect_eq_error collected
        obtain ⟨trimmed, cause⟩ := ofTarget_eq_error_iff.mp refused
        -- a failure names the only key that is no address
        have same : other.1 = member.1 :=
          unambiguous.single other (mem_lastMembers_iff.mp found).mem member
            (mem_lastMembers_iff.mp held).mem ⟨fault.cause, cause⟩ bad
        refine ⟨_, rfl, ?_⟩
        change Problem.invalidLink fault.target = _
        rw [trimmed, same]

/-- A link to which all its keys give the same facts is found with these. -/
theorem lookup_of_last {entries : List (Link × Facts)} {key : String} {facts : Facts} {link : Link}
    (collected : collect [] (lastMembers members) = .ok entries)
    (last : LastMember members key facts) (named : Link.ofTarget key = .ok link)
    (agreed : ∀ key others, LastMember members key others → Link.ofTarget key = .ok link →
      others = facts) : entries.lookup link = some facts := by
  obtain ⟨member, held, same, found⟩ | ⟨none, -⟩ := lookup_collect collected link
  · have equal : member.2 = facts := agreed member.1 member.2 (mem_lastMembers_iff.mp held) same
    rw [found, equal]
  · exact absurd named (none (key, facts) (mem_lastMembers_iff.mpr last))

/-- What is collected from the last members serves all of them. -/
theorem serves_of_collect {entries : List (Link × Facts)} (unambiguous : Unambiguous members)
    (collected : collect [] (lastMembers members) = .ok entries) (name : String) :
    Serves ⟨name, entries⟩ members := by
  obtain ⟨once, links⟩ := links_collect collected List.nodup_nil
  refine ⟨fun {target link key facts} _ last resolved => ?_, fun {target link} _ none => ?_, ?_⟩
  · have found := lookup_of_last collected last resolved fun key others other same =>
      unambiguous.agree other last same resolved
    simp only [fetch, found]
  · obtain ⟨member, held, same, -⟩ | ⟨-, missing⟩ := lookup_collect collected link
    · exact absurd same (none member (mem_lastMembers_iff.mp held).mem)
    · simp only [fetch, missing]
      rfl
  · have same : (entries.map Prod.fst).toFinset =
        (members.filterMap fun member => (Link.ofTarget member.1).toOption).toFinset := by
      ext link
      have keys := @exists_mem_lastMembers members fun key => Link.ofTarget key = .ok link
      simp only [List.mem_toFinset, links, keys, List.mem_filterMap, toOption_eq_some_iff,
        List.map_nil, List.not_mem_nil, false_or]
    rw [← same, List.toFinset_card_of_nodup once, List.length_map]
    rfl

end Loading

/-- A fixture document serves exactly its links, or is refused as a whole. -/
theorem document_loads (text : String)
    (unambiguous : ∀ members, Document text members → Unambiguous members) : Loads text where
  refused := by
    constructor
    · rintro ⟨failure, failed, invalid⟩ members document
      rw [ofJson_of_document document] at failed
      cases collected : collect [] (lastMembers members) with
      | ok entries =>
          rw [collected] at failed
          cases failed
      | error other =>
          obtain ⟨member, -, fault, -, rfl⟩ := collect_eq_error collected
          rw [collected] at failed
          cases failed
          cases invalid
    · intro none
      obtain ⟨fault, failed⟩ := ofJson_of_no_document none
      exact ⟨_, failed, rfl⟩
  badKey := by
    intro members document target
    rw [ofJson_of_document document, ← failure_of_collect (unambiguous members document)]
    cases collect [] (lastMembers members) with
    | ok entries => simp [Except.map]
    | error failure => simp [Except.map]
  loaded := by
    intro members document addresses
    rw [ofJson_of_document document]
    cases collected : collect [] (lastMembers members) with
    | ok entries => exact ⟨_, rfl, serves_of_collect (unambiguous members document) collected _⟩
    | error failure =>
        obtain ⟨member, held, fault, refused, -⟩ := collect_eq_error collected
        exact absurd (noAddress_iff.mpr ⟨fault, refused⟩)
          (addresses member (mem_lastMembers_iff.mp held).mem)
  whole := by
    intro fixture loaded
    cases read : readMembers text with
    | error fault =>
        simp only [ofJson, read] at loaded
        cases loaded
    | ok members =>
        have document := readMembers_eq_ok_iff.mp read
        refine ⟨members, document, fun member held bad => ?_⟩
        rw [ofJson_of_document document] at loaded
        cases collected : collect [] (lastMembers members) with
        | error failure =>
            rw [collected] at loaded
            cases loaded
        | ok entries =>
            obtain ⟨facts, last⟩ := exists_lastMember ⟨member, held, rfl⟩
            exact absurd bad (not_noAddress_iff.mpr
              (link_of_collect collected (member.1, facts) (mem_lastMembers_iff.mpr last)))

/-- A document with two spellings of one link, and with a repeated key. -/
def spelledDocument : String :=
  "\x7b\"a:b\":\x7b\x7d,\"A:b\":\x7b\x7d,\"a:c\":\x7b\x7d,\"a:c\":\x7b\"n\":true\x7d\x7d"

/-- Its members. -/
def spelledMembers : List (String × Facts) :=
  [("a:b", .empty), ("A:b", .empty), ("a:c", .empty), ("a:c", .ofList [("n", "true")])]

/-- The document says one thing about each link. -/
theorem spelledMembers_unambiguous : Unambiguous spelledMembers := by
  have last : lastMembers spelledMembers =
      [("a:b", .empty), ("A:b", .empty), ("a:c", .ofList [("n", "true")])] := by cbv
  have lower : Link.ofTarget "a:b" = .ok ⟨"a:b"⟩ := by cbv
  have upper : Link.ofTarget "A:b" = .ok ⟨"a:b"⟩ := by cbv
  have other : Link.ofTarget "a:c" = .ok ⟨"a:c"⟩ := by cbv
  have held {key facts link} (member : LastMember spelledMembers key facts)
      (resolved : Link.ofTarget key = .ok link) :
      facts = if link.text = "a:b" then .empty else .ofList [("n", "true")] := by
    rw [← mem_lastMembers_iff, last] at member
    simp only [List.mem_cons, Prod.mk.injEq, List.not_mem_nil, or_false] at member
    obtain ⟨rfl, rfl⟩ | ⟨rfl, rfl⟩ | ⟨rfl, rfl⟩ := member
    · cases lower.symm.trans resolved
      rfl
    · cases upper.symm.trans resolved
      rfl
    · cases other.symm.trans resolved
      rfl
  constructor
  · intro first second link facts others firstLast secondLast firstLink secondLink
    rw [held firstLast firstLink, held secondLast secondLink]
  · intro member found _ _ bad
    refine absurd bad (not_noAddress_iff.mpr ?_)
    simp only [spelledMembers, List.mem_cons, List.not_mem_nil, or_false] at found
    obtain rfl | rfl | rfl | rfl := found
    · exact ⟨_, lower⟩
    · exact ⟨_, upper⟩
    · exact ⟨_, other⟩
    · exact ⟨_, other⟩

theorem spelledDocument_loads :
    (∀ members, Document spelledDocument members → Unambiguous members) ∧
      Loads spelledDocument := by
  have read : readMembers spelledDocument = .ok spelledMembers := by cbv
  have clear : ∀ members, Document spelledDocument members → Unambiguous members := by
    intro members document
    cases (readMembers_eq_ok_iff.mpr document).symm.trans read
    exact spelledMembers_unambiguous
  exact ⟨clear, document_loads spelledDocument clear⟩

end Fixture
end LinkFacts
