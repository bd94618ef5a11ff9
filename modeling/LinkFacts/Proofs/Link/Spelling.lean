import LinkFacts.Proofs.Address.Spelling
import LinkFacts.Proofs.Cache.Operations
import LinkFacts.Proofs.Fetch.Fixture

/-!
# Spellings of one link

Spellings of a web address are one link or no link at all.  So they share their entry in every
cache, and a fixture that knows one of them knows all.
-/

namespace LinkFacts

/-- Asking a cache twice for a link changes nothing the second time. -/
theorem Store.entry_entry {store : Store} {cache : Nat} (inside : cache < store.caches.length)
    (link : Link) : (store.entry cache link).2.entry cache link = store.entry cache link := by
  rw [entry, placeOf?_entry_self inside]

/-- A fixture serves the facts of a link to which all keys of its document give the same ones. -/
theorem Fixture.fetch_of_document {document key : String} {members : List (String × Facts)}
    {facts : Facts} {fixture : Fixture} {link : Link} (read : Document document members)
    (last : LastMember members key facts) (named : Link.ofTarget key = .ok link)
    (agreed : ∀ key others, LastMember members key others → Link.ofTarget key = .ok link →
      others = facts)
    (loaded : ofJson document = .ok fixture) : fixture.fetch link = .ok facts := by
  rw [ofJson_of_document read] at loaded
  cases collected : collect [] (lastMembers members) with
  | error failure =>
      rw [collected] at loaded
      cases loaded
  | ok entries =>
      rw [collected] at loaded
      cases loaded
      simp only [fetch, lookup_of_last collected last named agreed]

namespace Link

open Address (IsWeb Spells)
open Fixture (Document LastMember)

variable {scheme host rest : List Char} {text left right : String}

/-- Two targets are used for each other, each resolved against any base or none. -/
structure Interchangeable (left right : String) : Prop where
  /-- Both are one link, or both are refused as invalid for one cause. -/
  resolves : ∀ base other,
    (∃ link, resolve base left = .ok link ∧ resolve other right = .ok link) ∨
      ∃ cause, resolve base left = .error ⟨Text.trim left, cause⟩ ∧
        resolve other right = .error ⟨Text.trim right, cause⟩
  /-- A cache that was asked for one has the entry of the other. -/
  shares : ∀ {base other link twin}, resolve base left = .ok link →
    resolve other right = .ok twin → ∀ (store : Store) (cache : Nat),
    cache < store.caches.length →
      (store.entry cache link).2.entry cache twin = store.entry cache link
  /-- What a fixture document says of one, and does not contradict, is found under the other. -/
  serves : ∀ {base link document members facts fixture}, resolve base right = .ok link →
    Document document members → LastMember members left facts →
    (∀ key others, LastMember members key others → ofTarget key = .ok link → others = facts) →
    Fixture.ofJson document = .ok fixture → fixture.fetch link = .ok facts

/-- A spelling of a web address resolves to what its scheme and its host in lower case give. -/
theorem resolve_of_spells (web : IsWeb scheme host rest) (spells : Spells scheme host rest text)
    (base : Option Address) : resolve base text =
      match Address.readPlain (scheme.map Text.lowerAscii) (host.map Text.lowerAscii)
        (Address.remainder rest) with
      | .ok address => .ok ⟨address.toText⟩
      | .error cause => .error ⟨Text.trim text, cause⟩ := by
  have resolved := Address.resolve_of_spells web spells base
  cases outcome : Address.readPlain (scheme.map Text.lowerAscii) (host.map Text.lowerAscii)
    (Address.remainder rest) with
  | ok address => simp only [resolve, resolved, outcome]
  | error cause => simp only [resolve, resolved, outcome]

/-- A host that is a number in disguise is written as the address that it stands for. -/
example : ofTarget " HTTP://0X7F.1?a" = .ok ⟨"http://127.0.0.1/?a"⟩ := by decide +kernel

/-- Blanks around a web address, the case of its scheme and its host, and what it is resolved
against make no difference. -/
theorem spellings_interchangeable (web : IsWeb scheme host rest)
    (first : Spells scheme host rest left) (second : Spells scheme host rest right) :
    Interchangeable left right := by
  have resolves (base other : Option Address) :
      (∃ link, resolve base left = .ok link ∧ resolve other right = .ok link) ∨
        ∃ cause, resolve base left = .error ⟨Text.trim left, cause⟩ ∧
          resolve other right = .error ⟨Text.trim right, cause⟩ := by
    rw [resolve_of_spells web first base, resolve_of_spells web second other]
    cases Address.readPlain (scheme.map Text.lowerAscii) (host.map Text.lowerAscii)
      (Address.remainder rest) with
    | ok address => exact .inl ⟨⟨address.toText⟩, rfl, rfl⟩
    | error cause => exact .inr ⟨cause, rfl, rfl⟩
  have equal {base other : Option Address} {link : Link} (resolved : resolve base right = .ok link) :
      resolve other left = .ok link := by
    obtain ⟨twin, here, there⟩ | ⟨cause, -, refused⟩ := resolves other base
    · cases there.symm.trans resolved
      exact here
    · cases refused.symm.trans resolved
  refine ⟨resolves, ?shares, ?serves⟩
  case shares =>
    intro base other link twin here there store cache inside
    cases here.symm.trans (equal there)
    exact Store.entry_entry inside link
  case serves =>
    intro base link document members facts fixture resolved read last agreed loaded
    exact Fixture.fetch_of_document read last (equal resolved) agreed loaded

/-- A repository, with blanks of another script around its address and with capital letters. -/
theorem github_spellings :
    IsWeb "https".toList "github.com".toList "/owner/repo".toList ∧
      Interchangeable "https://github.com/owner/repo" "\u2003HTTPS://GitHub.com/owner/repo \n" ∧
      ofTarget "https://github.com/owner/repo" = .ok ⟨"https://github.com/owner/repo"⟩ := by
  have web : IsWeb "https".toList "github.com".toList "/owner/repo".toList :=
    ⟨.inr rfl, ⟨by simp, List.all_eq_true.mp (by cbv), by decide +kernel⟩,
      by simp [Address.FollowsHost]⟩
  exact ⟨web, spellings_interchangeable web
    ⟨[], "https".toList, "github.com".toList, [], by simp, by simp, rfl, rfl, by cbv⟩
    ⟨"\u2003".toList, "HTTPS".toList, "GitHub.com".toList, " \n".toList,
      List.all_eq_true.mp (by cbv), List.all_eq_true.mp (by cbv), by cbv, by cbv, by cbv⟩,
    by decide +kernel⟩

end Link
end LinkFacts
