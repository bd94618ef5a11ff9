import Mathlib.Tactic
import LinkFacts.Address.Parser
import LinkFacts.Proofs.Host.Plain
import LinkFacts.Proofs.Text.Blank

/-!
# Spellings of web addresses

A text that gives a web scheme and a plain host is read in the same way whatever stands blank
around it, whatever case its scheme and its host are written in, and whatever it is resolved
against: all that is left of the spelling are the two in lower case.
-/

namespace LinkFacts
namespace Address

open Text
open Host (PlainName isNameChar isNameChar_iff ne_of_isNameChar)

variable {c : Char} {scheme host rest source : List Char} {text : String} {test : Char → Bool}

/-- What may follow a host: nothing, or a text that starts with a slash or with the mark of a query
or a fragment. -/
def FollowsHost (rest : List Char) : Prop :=
  ∀ c, rest.head? = some c → c = '/' ∨ c = '?' ∨ c = '#'

/-- A web scheme in any case, a plain host, and something that may follow the host. -/
structure IsWeb (scheme host rest : List Char) : Prop where
  scheme : scheme.map lowerAscii = "http".toList ∨ scheme.map lowerAscii = "https".toList
  host : PlainName host
  rest : FollowsHost rest

/-- A text is a web address but for blank characters around it and for the case of the letters of
its scheme and its host. -/
def Spells (scheme host rest : List Char) (text : String) : Prop :=
  ∃ lead written name tail, (∀ c ∈ lead, isBlank c = true) ∧ (∀ c ∈ tail, isBlank c = true) ∧
    SameLetters written scheme ∧ SameLetters name host ∧
    text.toList = lead ++ written ++ "://".toList ++ name ++ rest ++ tail

/-! ## What is read of a text -/

/-- An ASCII character that is no control character and no space. -/
def IsVisible (c : Char) : Prop := 0x20 < c.toNat ∧ c.toNat < 0x7F

private theorem IsVisible.isBlank (visible : IsVisible c) : isBlank c = false := by
  obtain ⟨least, greatest⟩ := visible
  simp only [Text.isBlank, Bool.or_eq_false_iff, Bool.and_eq_false_iff, decide_eq_false_iff_not,
    beq_eq_false_iff_ne]
  omega

private theorem IsVisible.isPadding (visible : IsVisible c) : isPadding c = false :=
  decide_eq_false (Nat.not_le_of_lt visible.1)

private theorem isSkipped_of_gt (visible : 0x20 < c.toNat) : isSkipped c = false := by
  simp only [isSkipped, Bool.or_eq_false_iff, beq_eq_false_iff_ne]
  refine ⟨⟨?_, ?_⟩, ?_⟩ <;>
    · rintro rfl
      revert visible
      decide

/-- The characters that matter of what follows a host. -/
def remainder (rest : List Char) : List Char :=
  (dropTail isPadding (dropTail isBlank rest)).filter (!isSkipped ·)

/-- The front of a text is read as it stands. -/
theorem clean_append (visible : ∀ c ∈ source, IsVisible c) (nonempty : source ≠ []) :
    clean (source ++ dropTail isBlank rest) = source ++ remainder rest := by
  have stripped : strip isPadding ([] ++ (source ++ dropTail isBlank rest) ++ []) =
      source ++ dropTail isPadding (dropTail isBlank rest) :=
    strip_append nonempty (by simp) (by simp)
      (fun c first => (visible c (List.mem_of_mem_head? first)).isPadding)
      (fun c last => (visible c (List.mem_of_getLast? last)).isPadding) _
  rw [List.nil_append, List.append_nil] at stripped
  rw [clean, stripped, List.filter_append, List.filter_eq_self.mpr, remainder]
  intro c there
  simp [isSkipped_of_gt (visible c there).1]

private theorem FollowsHost.dropTail (follows : FollowsHost rest)
    (front : ∀ c, c = '/' ∨ c = '?' ∨ c = '#' → test c = false) :
    FollowsHost (dropTail test rest) := by
  cases rest with
  | nil => exact follows
  | cons c rest =>
      have kept : test c = false := front c (follows c rfl)
      have same : Text.dropTail test ([c] ++ rest) = [c] ++ Text.dropTail test rest :=
        dropTail_append (by simp) (by simp [kept]) rest
      rw [← List.singleton_append, same]
      exact follows

private theorem FollowsHost.remainder (follows : FollowsHost rest) :
    FollowsHost (remainder rest) := by
  have visible : ∀ c, c = '/' ∨ c = '?' ∨ c = '#' → IsVisible c := by
    rintro c (rfl | rfl | rfl) <;> exact ⟨by decide, by decide⟩
  have dropped := (follows.dropTail fun c mark => (visible c mark).isBlank).dropTail
    fun c mark => (visible c mark).isPadding
  rw [Address.remainder]
  generalize Text.dropTail isPadding _ = source at dropped
  cases source with
  | nil => exact dropped
  | cons c source =>
      have kept : isSkipped c = false := isSkipped_of_gt (visible c (dropped c rfl)).1
      simp only [List.filter_cons, kept, Bool.not_false, if_true]
      exact dropped

/-! ## The host and what follows it -/

/-- Reads an address with a plain host in lower case, without credentials and without a port. -/
def readPlain (scheme host rest : List Char) : Except Fault Address :=
  match Host.ofAscii host with
  | .error fault => .error (.ofHost fault)
  | .ok host =>
    .ok (withSuffix .network
      { scheme := scheme
        authority := some ⟨[], none, some host, none⟩
        path := readPathAfterAuthority .network rest
        query := none
        fragment := none }
      (afterPath rest))

private theorem endsAuthority_of_isNameChar (char : isNameChar c = true) :
    endsAuthority .network c = false := by
  simp only [endsAuthority, isSeparator, endsPath, SchemeKind.isSpecial, Bool.true_and,
    Bool.or_eq_false_iff, beq_eq_false_iff_ne]
  exact ⟨⟨ne_of_isNameChar char rfl, ne_of_isNameChar char rfl⟩, ne_of_isNameChar char rfl,
    ne_of_isNameChar char rfl⟩

private theorem endsAuthority_of_followsHost (follows : FollowsHost (c :: rest)) :
    endsAuthority .network c = true := by
  obtain rfl | rfl | rfl := follows c rfl <;> rfl

/-- There are no credentials in front of a plain host. -/
theorem readUser_plain (plain : PlainName host) (follows : FollowsHost rest) :
    readUser .network (host ++ rest) = .ok (([], none), host ++ rest) := by
  have within : ∀ c ∈ host, (!endsAuthority .network c) = true := fun c there => by
    simp [endsAuthority_of_isNameChar (plain.chars c there)]
  have stops : rest.takeWhile (!endsAuthority .network ·) = [] := by
    cases rest with
    | nil => rfl
    | cons c rest =>
        exact List.takeWhile_cons_of_neg (by simp [endsAuthority_of_followsHost follows])
  have bare : host.reverse.dropWhile (· != '@') = [] := by
    rw [List.dropWhile_eq_nil_iff]
    intro c there
    have absent : '@' ∉ host := plain.not_mem (by decide)
    rw [bne_iff_ne]
    rintro rfl
    exact absent (List.mem_reverse.mp there)
  rw [readUser, List.takeWhile_append_of_pos within, stops, List.append_nil, splitLastAt?, bare]

private theorem takeHost_plain (chars : ∀ c ∈ host, isNameChar c = true)
    (follows : FollowsHost rest) :
    takeHost .network false (host ++ rest) = host := by
  induction host with
  | nil =>
      cases rest with
      | nil => rfl
      | cons c rest =>
          rw [List.nil_append, takeHost, endsAuthority_of_followsHost follows, Bool.or_true]
          rfl
  | cons c host ih =>
      have char := chars c List.mem_cons_self
      have colon : (c == ':') = false := beq_eq_false_iff_ne.mpr (ne_of_isNameChar char rfl)
      have opening : (c == '[') = false := beq_eq_false_iff_ne.mpr (ne_of_isNameChar char rfl)
      have closing : (c == ']') = false := beq_eq_false_iff_ne.mpr (ne_of_isNameChar char rfl)
      simp only [List.cons_append, takeHost, endsAuthority_of_isNameChar char, colon, opening,
        closing, Bool.false_and, Bool.or_false, Bool.false_eq_true, if_false,
        ih fun d there => chars d (List.mem_cons_of_mem c there)]

/-- A plain host ends the authority. -/
theorem readPlace_plain (plain : PlainName host) (follows : FollowsHost rest) :
    readPlace .network scheme (host ++ rest) =
      match Host.ofAscii (host.map lowerAscii) with
      | .error fault => .error (.ofHost fault)
      | .ok host => .ok ((some host, none), rest) := by
  have nonempty : host.isEmpty = false := List.isEmpty_eq_false_iff.mpr plain.nonempty
  have special : SchemeKind.network.isSpecial = true := rfl
  rw [readPlace, takeHost_plain plain.chars follows, readHost, nonempty, special, List.drop_left]
  simp only [Bool.false_eq_true, if_false, if_true, plain.read_eq]
  cases Host.ofAscii (host.map lowerAscii) with
  | error fault => rfl
  | ok host =>
      cases rest with
      | nil => rfl
      | cons c rest => obtain rfl | rfl | rfl := follows c rfl <;> rfl

private theorem readAuthority_plain (plain : PlainName host) (follows : FollowsHost rest) :
    readAuthority .network scheme (host ++ rest) =
      readPlain scheme (host.map lowerAscii) rest := by
  rw [readAuthority, readUser_plain plain follows]
  simp only [readPlace_plain plain follows]
  rw [readPlain]
  cases Host.ofAscii (host.map lowerAscii) with
  | error fault => rfl
  | ok host => rfl

/-! ## The scheme -/

private theorem isLetter_of_web (web : scheme.map lowerAscii = "http".toList ∨
    scheme.map lowerAscii = "https".toList) : ∀ c ∈ scheme, isLetter c = true := by
  have letters : ∀ c ∈ scheme.map lowerAscii, isLetter c = true := by
    obtain http | https := web
    · rw [http]
      exact List.all_eq_true.mp rfl
    · rw [https]
      exact List.all_eq_true.mp rfl
  intro c there
  rw [← isLetter_lowerAscii]
  exact letters _ (List.mem_map_of_mem there)

private theorem readScheme?_append (letters : ∀ c ∈ scheme, isLetter c = true)
    (nonempty : scheme ≠ []) :
    readScheme? (scheme ++ ':' :: rest) = some (scheme.map lowerAscii, rest) := by
  have chars : ∀ c ∈ scheme, isSchemeChar c = true := fun c there => by
    simp [isSchemeChar, isAlphanumeric, letters c there]
  have colon : ¬ isSchemeChar ':' = true := by decide
  have dropped : (scheme ++ ':' :: rest).dropWhile isSchemeChar = ':' :: rest := by
    rw [List.dropWhile_append_of_pos chars, List.dropWhile_cons_of_neg colon]
  have taken : (scheme ++ ':' :: rest).takeWhile isSchemeChar = scheme := by
    rw [List.takeWhile_append_of_pos chars, List.takeWhile_cons_of_neg colon, List.append_nil]
  cases scheme with
  | nil => exact absurd rfl nonempty
  | cons c scheme =>
      have first : isLetter c = true := letters c List.mem_cons_self
      rw [List.cons_append] at dropped taken ⊢
      simp only [readScheme?, first, dropped, taken, Bool.not_true, Bool.false_eq_true, if_false]

/-- No base matters behind two slashes. -/
theorem readWithScheme_web (base : Option Address) (plain : PlainName host)
    (follows : FollowsHost rest) (web : scheme = "http".toList ∨ scheme = "https".toList) :
    readWithScheme base scheme ("//".toList ++ host ++ rest) =
      readPlain scheme (host.map lowerAscii) rest := by
  have network : kindOf scheme = .network := by
    obtain rfl | rfl := web <;> decide +kernel
  have after : (host ++ rest).dropWhile isSlash = host ++ rest := by
    cases host with
    | nil => exact absurd rfl plain.nonempty
    | cons c host =>
        have solid := endsAuthority_of_isNameChar (plain.chars c List.mem_cons_self)
        simp only [endsAuthority, isSeparator, SchemeKind.isSpecial, Bool.true_and,
          Bool.or_eq_false_iff] at solid
        exact List.dropWhile_cons_of_neg (by simp [isSlash, solid])
  have front : ∀ c ∈ "//".toList, isSlash c = true := List.all_eq_true.mp rfl
  have slashes : ("//".toList ++ host ++ rest).dropWhile isSlash = host ++ rest := by
    rw [List.append_assoc, List.dropWhile_append_of_pos front, after]
  -- with fewer slashes a base of the same scheme would be extended
  have two : ¬ (("//".toList ++ host ++ rest).takeWhile isSlash).length < 2 := by
    rw [List.append_assoc, List.takeWhile_append_of_pos front, List.length_append]
    exact Nat.not_lt_of_le (Nat.le_add_right 2 _)
  rw [readWithScheme, network]
  simp only [slashes, readAuthority_plain plain follows, if_neg two]
  cases base.filter _ <;> rfl

/-! ## Texts -/

/-- The front of a spelling is visible. -/
theorem isVisible_front (letters : ∀ c ∈ scheme, isLetter c = true) (plain : PlainName host) :
    ∀ c ∈ scheme ++ "://".toList ++ host, IsVisible c := by
  intro c there
  simp only [List.mem_append] at there
  obtain (inScheme | between) | inHost := there
  · have codes := isLetter_iff.mp (letters c inScheme)
    exact ⟨by omega, by omega⟩
  · have marks : c = ':' ∨ c = '/' := by simpa using between
    obtain rfl | rfl := marks <;> exact ⟨by decide, by decide⟩
  · have codes := isNameChar_iff.mp (plain.chars c inHost)
    exact ⟨by omega, by omega⟩

/-- How a spelling of a web address is read, whatever it is resolved against. -/
theorem resolve_of_spells (web : IsWeb scheme host rest) (spells : Spells scheme host rest text)
    (base : Option Address) : resolve base (trim text) =
      readPlain (scheme.map lowerAscii) (host.map lowerAscii) (remainder rest) := by
  obtain ⟨lead, written, name, tail, blank, blanks, sameScheme, sameHost, spelled⟩ := spells
  have known : written.map lowerAscii = "http".toList ∨ written.map lowerAscii = "https".toList :=
    sameScheme ▸ web.scheme
  have letters := isLetter_of_web known
  have plain : PlainName name := web.host.of_sameLetters sameHost
  have visible := isVisible_front letters plain
  have nonempty : written ++ "://".toList ++ name ≠ [] :=
    List.append_ne_nil_of_right_ne_nil _ plain.nonempty
  have trimmed : (trim text).toList = written ++ "://".toList ++ name ++ dropTail isBlank rest := by
    rw [trim, String.toList_ofList, spelled,
      ← strip_append nonempty blank blanks
        (fun c first => (visible c (List.mem_of_mem_head? first)).isBlank)
        (fun c last => (visible c (List.mem_of_getLast? last)).isBlank) rest]
    simp only [List.append_assoc]
  have split : written ++ "://".toList ++ name ++ remainder rest =
      written ++ ':' :: ("//".toList ++ name ++ remainder rest) := by
    simp
  have started : written ≠ [] := by
    rintro rfl
    obtain none | none := known <;> exact absurd none (by decide)
  have cleaned : clean (written ++ "://".toList ++ name ++ dropTail isBlank rest) =
      written ++ "://".toList ++ name ++ remainder rest := clean_append visible nonempty
  simp only [resolve, trimmed, cleaned, split, readScheme?_append letters started,
    readWithScheme_web base plain web.rest.remainder known]
  rw [sameScheme, sameHost]

end Address
end LinkFacts
