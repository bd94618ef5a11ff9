import LinkFacts.Proofs.Session.Mounts

/-!
# One entry for each link

In a session all requests that a cache gets for a link are given the same entry, and requests for
other links are given other entries.
-/

namespace LinkFacts

open Replay (Waker)
open Naming (lookup_put)

/-- A request for a link and the place of the entry that it was given. -/
structure Grant where
  /-- The cache. -/
  cache : Nat
  /-- The link. -/
  link : Link
  /-- The place of the entry. -/
  place : Nat

/-- What was requested. -/
def Grant.request (grant : Grant) : Nat × Link := (grant.cache, grant.link)

namespace Session

variable {session first : Session} {operation : SessionOperation}
  {operations : List SessionOperation} {setup : SessionSetup} {name : String}

/-- The entry that the store gives to a request. -/
def granted (store : Store) (asked : Nat × Link) : Grant :=
  ⟨asked.1, asked.2, (store.entry asked.1 asked.2).1⟩

/-- What the requests of an operation are given: a subscription and a mount wait for their entry, and
whoever asks for an entry gets it. -/
def grants (session : Session) (operation : SessionOperation) : List Grant :=
  match operation with
  | .watch key name href =>
    (session.asked? key href).elim [] fun asked =>
      (((session.perform operation).2.watches.lookup name).map fun watch =>
        ⟨asked.1, asked.2, watch.place⟩).toList
  | .mount name anchor =>
    ((session.anchor? anchor).elim [] session.page.requestsOf).flatMap fun asked =>
      (((session.perform operation).2.mounts.lookup name).map fun mount =>
        ⟨asked.1, asked.2, mount.watch.place⟩).toList
  | .entry key href =>
    (session.asked? key href).elim [] fun asked => [granted session.page.store asked]
  | .sameEntry left right leftHref rightHref =>
    (session.asked? left leftHref).elim [] fun first =>
      (session.asked? right rightHref).elim [] fun second =>
        [granted session.page.store first,
          granted (session.page.store.entry first.1 first.2).2 second]
  | _ => []

/-- What all requests of some operations are given. -/
def allGrants (session : Session) : List SessionOperation → List Grant
  | [] => []
  | operation :: rest => session.grants operation ++ allGrants (session.perform operation).2 rest

/-- All links that some operations request. -/
def allRequests (session : Session) : List SessionOperation → List (Nat × Link)
  | [] => []
  | operation :: rest =>
    session.requests operation ++ allRequests (session.perform operation).2 rest

/-- The links that operations request of a cache. -/
def linksOf (session : Session) (cache : Nat) (operations : List SessionOperation) : List Link :=
  ((session.allRequests operations).filter (·.1 == cache)).map (·.2)

/-! ## One operation -/

/-- Grants are for some requests, and they are the entries of the requested links. -/
structure Grants (requests : List (Nat × Link)) (store : Store) (grants : List Grant) : Prop where
  requested : grants.map Grant.request = requests
  placed : ∀ grant ∈ grants, store.placeOf? grant.cache grant.link = some grant.place

private theorem Grants.none (store : Store) : Grants [] store [] := ⟨rfl, nofun⟩

private theorem Grants.one {store : Store} {cache place : Nat} {link : Link}
    (placed : store.placeOf? cache link = some place) :
    Grants [(cache, link)] store [⟨cache, link, place⟩] where
  requested := rfl
  placed grant there := by
    cases List.mem_singleton.mp there
    exact placed

private theorem Grants.append {requests more : List (Nat × Link)} {store : Store}
    {first second : List Grant}
    (earlier : Grants requests store first) (later : Grants more store second) :
    Grants (requests ++ more) store (first ++ second) where
  requested := by rw [List.map_append, earlier.requested, later.requested]
  placed grant there := (List.mem_append.mp there).elim (earlier.placed grant) (later.placed grant)

private theorem asked?_cases (session : Session) (key href : String) :
    session.asked? key href = none ∨
    ∃ cache link, session.caches.lookup key = some cache ∧ Link.ofTarget href = .ok link ∧
      session.asked? key href = some (cache, link) := by
  unfold asked?
  cases session.caches.lookup key with
  | none => exact .inl rfl
  | some cache =>
      cases Link.ofTarget href with
      | error fault => exact .inl rfl
      | ok link => exact .inr ⟨cache, link, rfl, rfl, rfl⟩

private theorem anchor?_cases (session : Session) (name : String) : session.anchor? name = none ∨
    ∃ place element, session.anchors.lookup name = some place ∧
      session.page.element? place = some element ∧ session.anchor? name = some element := by
  unfold anchor?
  cases session.anchors.lookup name with
  | none => exact .inl rfl
  | some place =>
      rw [Option.bind_some]
      cases there : session.page.element? place with
      | none => exact .inl rfl
      | some element => exact .inr ⟨place, element, rfl, there, rfl⟩

private theorem grants_entry (sound : session.Sound) {key href : String} {cache : Nat} {link : Link}
    (known : session.caches.lookup key = some cache) (target : Link.ofTarget href = .ok link) :
    (session.perform (.entry key href)).2.page.store.placeOf? cache link =
      some (session.page.store.entry cache link).1 := by
  have inside := sound.caches key cache known
  simp only [perform, withLink, known, target, snd_entry sound inside]
  exact Store.placeOf?_entry_self inside

private theorem grants_sameEntry (sound : session.Sound) {left right leftHref rightHref : String}
    {first second : Nat} {leftLink rightLink : Link}
    (known : session.caches.lookup left = some first)
    (target : Link.ofTarget leftHref = .ok leftLink)
    (other : session.caches.lookup right = some second)
    (goal : Link.ofTarget rightHref = .ok rightLink) :
    let after := (session.perform (.sameEntry left right leftHref rightHref)).2.page.store
    let middle := (session.page.store.entry first leftLink).2
    after.placeOf? first leftLink = some (session.page.store.entry first leftLink).1 ∧
      after.placeOf? second rightLink = some (middle.entry second rightLink).1 := by
  have step : Store.Step .nothing session.page.store (session.page.store.entry first leftLink).2 :=
    Store.step_entry (sound.caches left first known)
  have inside := Nat.lt_of_lt_of_le (sound.caches right second other) step.width
  have next : Store.Step .nothing (session.page.store.entry first leftLink).2
      ((session.page.store.entry first leftLink).2.entry second rightLink).2 :=
    Store.step_entry inside
  simp only [perform, sameEntry, withLink, known, target, other, goal]
  exact ⟨next.fixed (Store.placeOf?_entry_self (sound.caches left first known)),
    Store.placeOf?_entry_self inside⟩

private theorem grants_perform (sound : session.Sound) (operation : SessionOperation) :
    Grants (session.requests operation) (session.perform operation).2.page.store
      (session.grants operation) := by
  cases operation with
  | watch key name href =>
      obtain missing | ⟨cache, link, known, target, asked⟩ := session.asked?_cases key href
      · simp only [requests, grants, missing, Option.elim_none]
        exact .none _
      · obtain ⟨watch, found, placed⟩ := watches_perform sound name known target
        simp only [requests, grants, asked, Option.elim_some, found, Option.map_some,
          Option.toList_some]
        exact .one placed
  | mount name anchor =>
      obtain missing | ⟨place, element, named, there, asked⟩ := session.anchor?_cases anchor
      · simp only [requests, grants, missing, Option.elim_none, List.flatMap_nil]
        exact .none _
      · cases identified : session.page.identify element with
        | error fault =>
            simp only [requests, grants, asked, Option.elim_some, Page.requestsOf, identified,
              List.flatMap_nil]
            exact .none _
        | ok link =>
            obtain ⟨mount, found, placed⟩ := mounts_perform sound name named there identified
            simp only [requests, grants, asked, Option.elim_some, Page.requestsOf, identified,
              List.flatMap_singleton, found, Option.map_some, Option.toList_some]
            exact .one placed
  | entry key href =>
      obtain missing | ⟨cache, link, known, target, asked⟩ := session.asked?_cases key href
      · simp only [requests, grants, missing, Option.elim_none]
        exact .none _
      · simp only [requests, grants, asked, Option.elim_some]
        exact .one (grants_entry sound known target)
  | sameEntry left right leftHref rightHref =>
      obtain missing | ⟨first, leftLink, known, target, asked⟩ := session.asked?_cases left leftHref
      · simp only [requests, grants, missing, Option.elim_none]
        exact .none _
      · obtain missing | ⟨second, rightLink, other, goal, sought⟩ :=
          session.asked?_cases right rightHref
        · simp only [requests, grants, asked, missing, Option.elim_some, Option.elim_none]
          exact .none _
        · obtain ⟨placed, beside⟩ := grants_sameEntry sound known target other goal
          simp only [requests, grants, asked, sought, Option.elim_some]
          exact (Grants.one placed).append (.one beside)
  | _ => exact .none _

/-! ## Whole runs -/

private theorem grants_run (sound : session.Sound) (operations : List SessionOperation) :
    Grants (session.allRequests operations) (session.run operations).page.store
      (session.allGrants operations) := by
  induction operations generalizing session with
  | nil => exact .none _
  | cons operation rest ih =>
      have soundAfter := (follows_perform sound operation).sound sound
      obtain ⟨requested, placed⟩ := grants_perform sound operation
      have kept : Grants (session.requests operation)
          (session.run (operation :: rest)).page.store (session.grants operation) :=
        ⟨requested, fun grant there => placeOf?_run soundAfter rest (placed grant there)⟩
      exact kept.append (ih soundAfter)

private theorem files_run (sound : session.Sound) (fitted : session.Fitted)
    (operations : List SessionOperation) :
    Store.Files (session.allRequests operations) session.page.store
      (session.run operations).page.store := by
  induction operations generalizing session with
  | nil => exact .refl _
  | cons operation rest ih =>
      exact (turns_perform sound fitted operation).files.trans
        (ih ((follows_perform sound operation).sound sound) (fitted_perform sound fitted operation))

/-- A session starts with an empty cache. -/
theorem links_start (started : start setup = .ok first) (cache : Nat) :
    first.page.store.links cache = [] := by
  obtain ⟨provider, gates, base, template, -, rfl⟩ := start_cases started
  cases cache <;> rfl

private theorem mem_linksOf {cache : Nat} {link : Link} :
    link ∈ session.linksOf cache operations ↔ (cache, link) ∈ session.allRequests operations := by
  simp [linksOf]

/-- A cache has as many entries as links were requested of it. -/
theorem length_links_run (started : start setup = .ok first) (operations : List SessionOperation)
    (cache : Nat) : ((first.run operations).page.store.links cache).length =
      (first.linksOf cache operations).toFinset.card := by
  obtain ⟨sound, -⟩ := spec_start started ⟨""⟩
  exact (files_run sound (fitted_start started).1 operations).length_links (links_start started)
    fun link => mem_linksOf

/-- Two entries are at one place just in case they are for one link of one cache. -/
theorem place_eq_iff (sound : session.Sound) {cache other place spot : Nat} {link key : Link}
    (held : session.page.store.placeOf? cache link = some place)
    (beside : session.page.store.placeOf? other key = some spot) :
    place = spot ↔ cache = other ∧ link = key := by
  constructor
  · rintro rfl
    exact sound.indexed.distinct place cache link other key held beside
  · rintro ⟨rfl, rfl⟩
    exact Option.some.inj (held.symm.trans beside)

/-- Two targets are told to have one entry just in case they are one link of one cache. -/
theorem sameEntry_fst (sound : session.Sound) {left right leftHref rightHref : String}
    {one other : Nat × Link} (asked : session.asked? left leftHref = some one)
    (sought : session.asked? right rightHref = some other) :
    (session.perform (.sameEntry left right leftHref rightHref)).1 = .flag (one == other) := by
  obtain missing | ⟨first, leftLink, known, target, same⟩ := session.asked?_cases left leftHref
  · cases missing.symm.trans asked
  cases same.symm.trans asked
  obtain missing | ⟨second, rightLink, beside, goal, same⟩ := session.asked?_cases right rightHref
  · cases missing.symm.trans sought
  cases same.symm.trans sought
  have after := (follows_perform sound (.sameEntry left right leftHref rightHref)).sound sound
  obtain ⟨held, placed⟩ := grants_sameEntry sound known target beside goal
  have places := place_eq_iff after held placed
  simp only [perform, sameEntry, withLink, known, target, beside, goal, SessionAnswer.flag.injEq]
  rw [Bool.eq_iff_iff, beq_iff_eq, beq_iff_eq, places, Prod.mk.injEq]

/-- What is true of the entries of the caches after some operations of a session. -/
structure Shares (first : Session) (operations : List SessionOperation) : Prop where
  /-- Every request is given an entry, ... -/
  answered : (first.allGrants operations).map Grant.request = first.allRequests operations
  /-- ... and two of them are given one entry just in case they are for one link. -/
  shared : ∀ one ∈ first.allGrants operations, ∀ other ∈ first.allGrants operations,
    one.place = other.place ↔ one.cache = other.cache ∧ one.link = other.link
  /-- Whatever was given to a request is the entry of the link from then on, ... -/
  held : ∀ grant ∈ first.allGrants operations,
    (first.run operations).page.store.placeOf? grant.cache grant.link = some grant.place
  /-- ... because no entry is ever replaced or removed. -/
  kept : ∀ earlier later cache link place, operations = earlier ++ later →
    (first.run earlier).page.store.placeOf? cache link = some place →
      (first.run operations).page.store.placeOf? cache link = some place
  /-- A cache has as many entries as links were requested of it. -/
  counted : ∀ key cache, (first.run operations).caches.lookup key = some cache →
    ((first.run operations).perform (.size key)).1 =
      .size (first.linksOf cache operations).toFinset.card
  /-- Two targets have one entry just in case they are one link. -/
  compared : ∀ left right leftHref rightHref one other,
    (first.run operations).asked? left leftHref = some one →
    (first.run operations).asked? right rightHref = some other →
      ((first.run operations).perform (.sameEntry left right leftHref rightHref)).1 =
        .flag (one == other)
  /-- A clone stands for the cache that it was made from. -/
  cloned : ∀ key target cache, (first.run operations).caches.lookup key = some cache →
    ((first.run operations).perform (.cloneCache key target)).2.caches.lookup target = some cache

theorem shares (started : start setup = .ok first) (operations : List SessionOperation) :
    Shares first operations := by
  obtain ⟨soundStart, -⟩ := spec_start started ⟨""⟩
  have sound := soundStart.run operations
  obtain ⟨requested, placed⟩ := grants_run soundStart operations
  refine ⟨requested, ?_, placed, ?_, ?_, ?_, ?_⟩
  · intro one there other beside
    exact place_eq_iff sound (placed one there) (placed other beside)
  · rintro earlier later cache link place rfl held
    rw [run_append]
    exact placeOf?_run (soundStart.run earlier) later held
  · intro key cache known
    simp only [perform, known, Store.length_links, length_links_run started]
  · intro left right leftHref rightHref one other asked sought
    exact sameEntry_fst sound asked sought
  · intro key target cache known
    simp only [perform, known, lookup_put, if_pos]

end Session
end LinkFacts
