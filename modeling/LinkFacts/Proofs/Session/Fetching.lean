import Mathlib
import LinkFacts.Proofs.Session.Steps

/-!
# One fetch for each link

In a session a cache asks the provider for a link when a subscription to the link, or a mount of
it, is polled for the first time, and never again.
-/

namespace LinkFacts

open Replay (Cell Phase Stage Waker)
open Naming (lookup_put)
open Store (Demand Steps Quiet Indexed)

/-- An operation fetches a link without a cache. -/
def SessionOperation.fetches (link : Link) : SessionOperation → Bool
  | .fetch href => (Link.ofTarget href).toOption = some link
  | _ => false

namespace Session

variable {setup : SessionSetup} {session first after : Session} {operation : SessionOperation}
  {operations : List SessionOperation} {cache : Nat} {link : Link}

/-- The session after some operations. -/
def run (session : Session) (operations : List SessionOperation) : Session :=
  operations.foldl (fun session operation => (session.perform operation).2) session

/-- An operation polls a subscription to the entry of a link in a cache, or a mount of it. -/
def polls (session : Session) (cache : Nat) (link : Link) (operation : SessionOperation) : Bool :=
  match session.demand operation with
  | .poll place => session.page.store.placeOf? cache link = some place
  | _ => false

/-- How often a link was fetched by polls of its entry in a cache. -/
def fetches (cache : Nat) (link : Link) (session : Session) : List SessionOperation → Nat
  | [] => 0
  | operation :: rest =>
    let after := (session.perform operation).2
    (if session.polls cache link operation then
      after.page.store.fetched.count link - session.page.store.fetched.count link else 0) +
      fetches cache link after rest

theorem run_append (session : Session) (earlier later : List SessionOperation) :
    session.run (earlier ++ later) = (session.run earlier).run later :=
  List.foldl_append

theorem polls_iff : session.polls cache link operation = true ↔
    ∃ place, session.demand operation = .poll place ∧
      session.page.store.placeOf? cache link = some place := by
  unfold polls
  split
  · next place asks => simp [asks]
  · next other =>
    refine iff_of_false Bool.false_ne_true ?_
    rintro ⟨place, asks, -⟩
    exact other place asks

theorem Sound.run (sound : session.Sound) (operations : List SessionOperation) :
    (session.run operations).Sound := by
  induction operations generalizing session with
  | nil => exact sound
  | cons operation rest ih => exact ih ((follows_perform sound operation).sound sound)

/-! ## One operation -/

/-- An entry is started by the operation that polls it first. -/
theorem begun_perform (sound : session.Sound) (operation : SessionOperation) :
    (session.perform operation).2.page.store.begun cache link =
      (session.page.store.begun cache link || session.polls cache link operation) := by
  have steps := (follows_perform sound operation).steps
  cases polled : session.polls cache link operation with
  | true =>
      obtain ⟨place, asks, held⟩ := polls_iff.mp polled
      obtain ⟨phase, there, begun⟩ := sound.begins asks
      rw [Store.begun_of_held (steps.fixed held) there, begun, Bool.or_true]
  | false =>
      rw [Bool.or_false]
      refine steps.begun_of_ne sound.indexed (fun place asks => sound.serves asks) ?_
      intro place asks held
      rw [polls_iff.mpr ⟨place, asks, held⟩] at polled
      cases polled

/-- An operation that polls an entry fetches its link just in case it starts the entry. -/
theorem count_perform (sound : session.Sound)
    (polled : session.polls cache link operation = true) :
    (session.perform operation).2.page.store.fetched.count link +
        (session.page.store.begun cache link).toNat =
      session.page.store.fetched.count link +
        ((session.perform operation).2.page.store.begun cache link).toNat := by
  obtain ⟨place, asks, held⟩ := polls_iff.mp polled
  have steps := (follows_perform sound operation).steps
  rw [asks] at steps
  exact steps.count sound.indexed held

/-! ## Whole runs -/

private theorem fetches_add_begun (sound : session.Sound) (cache : Nat) (link : Link)
    (operations : List SessionOperation) :
    session.fetches cache link operations + (session.page.store.begun cache link).toNat =
      ((session.run operations).page.store.begun cache link).toNat := by
  induction operations generalizing session with
  | nil => simp [fetches, run]
  | cons operation rest ih =>
      have rest_counted := ih ((follows_perform sound operation).sound sound)
      have started : (session.perform operation).2.page.store.begun cache link = _ :=
        begun_perform sound operation
      change _ = (((session.perform operation).2.run rest).page.store.begun cache link).toNat
      rw [← rest_counted]
      simp only [fetches]
      split
      · next polled =>
        have counted := count_perform sound polled
        rw [started, polled, Bool.or_true] at counted ⊢
        have least := Bool.toNat_le (session.page.store.begun cache link)
        simp only [Bool.toNat_true] at counted ⊢
        omega
      · next quiet =>
        rw [started, Bool.eq_false_iff.mpr quiet, Bool.or_false]
        omega

/-- An entry is no longer idle when it was so before or one of the operations has polled it. -/
theorem begun_run (sound : session.Sound) (operations : List SessionOperation) :
    (session.run operations).page.store.begun cache link = true ↔
      session.page.store.begun cache link = true ∨
        ∃ earlier operation later, operations = earlier ++ operation :: later ∧
          (session.run earlier).polls cache link operation = true := by
  induction operations generalizing session with
  | nil => simp [run]
  | cons operation rest ih =>
      change ((session.perform operation).2.run rest).page.store.begun cache link = true ↔ _
      rw [ih ((follows_perform sound operation).sound sound), begun_perform sound operation,
        Bool.or_eq_true, or_assoc]
      refine or_congr_right ⟨?_, ?_⟩
      · rintro (polled | ⟨earlier, other, later, rfl, polled⟩)
        · exact ⟨[], operation, rest, rfl, polled⟩
        · exact ⟨operation :: earlier, other, later, rfl, polled⟩
      · rintro ⟨earlier, other, later, split, polled⟩
        cases earlier with
        | nil =>
            cases split
            exact .inl polled
        | cons first earlier =>
            cases split
            exact .inr ⟨earlier, other, later, rfl, polled⟩

private theorem tallied_run (sound : session.Sound) (tallied : session.page.store.Tallied)
    (operations : List SessionOperation) : (session.run operations).page.store.Tallied := by
  induction operations generalizing session with
  | nil => exact tallied
  | cons operation rest ih =>
      have follows := follows_perform sound operation
      exact ih (follows.sound sound) (follows.steps.tallied sound.indexed tallied)

private theorem entry_run (sound : session.Sound) (operations : List SessionOperation)
    {phase : FetchPhase} (found : session.page.store.entry? cache link = some phase) :
    ∃ later, (session.run operations).page.store.entry? cache link = some later ∧
      Store.Leads phase later := by
  induction operations generalizing session phase with
  | nil => exact ⟨phase, found, .same phase⟩
  | cons operation rest ih =>
      have follows := follows_perform sound operation
      obtain ⟨middle, reached, first⟩ := follows.steps.entry found
      obtain ⟨later, there, second⟩ := ih (follows.sound sound) reached
      exact ⟨later, there, first.trans second⟩

theorem placeOf?_run (sound : session.Sound) (operations : List SessionOperation) {place : Nat}
    (held : session.page.store.placeOf? cache link = some place) :
    (session.run operations).page.store.placeOf? cache link = some place := by
  induction operations generalizing session with
  | nil => exact held
  | cons operation rest ih =>
      have follows := follows_perform sound operation
      exact ih (follows.sound sound) (follows.steps.fixed held)

/-! ## The calls of the provider -/

private theorem fetches_iff :
    operation.fetches link = true ↔ session.demand operation = .fetch link := by
  cases operation with
  | fetch href =>
      simp only [SessionOperation.fetches, demand]
      cases Link.ofTarget href <;> simp [Except.toOption]
  | poll name | value name | pollMount name | collectMount name =>
      simp only [SessionOperation.fetches, demand]
      split <;> simp
  | _ => simp [SessionOperation.fetches, demand]

private theorem perform_of_fetch {other : Link} (asked : session.demand operation = .fetch other) :
    (session.perform operation).2.page.store = (session.page.store.fetchOnce other).2 := by
  cases operation with
  | fetch href =>
      simp only [demand] at asked
      split at asked
      · next target =>
        cases asked
        simp only [perform, fetch, target, withStore]
      · cases asked
  | poll name | value name | pollMount name | collectMount name =>
      simp only [demand] at asked
      split at asked <;> cases asked
  | _ => cases asked

/-- Every call of the provider is a fetch for a cache or was asked for without one. -/
def Called (session : Session) (link : Link) (direct : Nat) : Prop :=
  ∀ calls, session.page.store.provider.calls? = some calls →
    calls.count link = session.page.store.fetched.count link + direct

private theorem called_perform (sound : session.Sound) {direct : Nat}
    (called : session.Called link direct) (operation : SessionOperation) :
    (session.perform operation).2.Called link (direct + (operation.fetches link).toNat) := by
  intro calls found
  cases asked : session.demand operation with
  | fetch other =>
      rw [perform_of_fetch asked, Store.fetchOnce_snd] at found ⊢
      rw [Provider.calls?_begin] at found
      obtain ⟨earlier, there, rfl⟩ := Option.map_eq_some_iff.mp found
      have counted := called earlier there
      change _ = session.page.store.fetched.count link + _
      by_cases same : other = link
      · subst same
        rw [fetches_iff.mpr asked, List.count_cons_self, counted]
        rfl
      · have unasked : operation.fetches link = false := by
          refine Bool.eq_false_iff.mpr fun fetches => ?_
          cases asked.symm.trans (fetches_iff.mp fetches)
          exact same rfl
        rw [unasked, List.count_cons_of_ne same, counted]
        rfl
  | nothing | poll place =>
      have none_asked : operation.fetches link = false := by
        refine Bool.eq_false_iff.mpr fun fetches => ?_
        cases asked.symm.trans (fetches_iff.mp fetches)
      have steps := (follows_perform sound operation).steps
      rw [asked] at steps
      obtain ⟨news, grows⟩ := steps.grows (by simp)
      rw [grows.calls] at found
      obtain ⟨earlier, there, rfl⟩ := Option.map_eq_some_iff.mp found
      rw [List.count_append, called earlier there, grows.fetched, List.count_append, none_asked]
      simp only [Bool.toNat_false]
      omega

private theorem called_run (sound : session.Sound) {direct : Nat}
    (called : session.Called link direct) (operations : List SessionOperation) :
    (session.run operations).Called link (direct + operations.countP (·.fetches link)) := by
  induction operations generalizing session direct with
  | nil => exact called
  | cons operation rest ih =>
      have follows := follows_perform sound operation
      have counted := ih (follows.sound sound) (called_perform sound called operation)
      have added : (operation :: rest).countP (·.fetches link) =
          (operation.fetches link).toNat + rest.countP (·.fetches link) := by
        rw [List.countP_cons, Nat.add_comm]
        cases operation.fetches link <;> rfl
      rw [added, ← Nat.add_assoc]
      exact counted

/-! ## From the start of a session -/

private theorem calls_script {lines : List (String × ScriptLine)} {scripted later : Scripted}
    {gates names : List (String × Nat)}
    (scripts : script scripted gates lines = .ok (later, names)) :
    later.calls = scripted.calls := by
  induction lines generalizing scripted gates with
  | nil =>
      cases scripts
      rfl
  | cons line rest ih =>
      obtain ⟨target, answer⟩ := line
      simp only [script] at scripts
      split at scripts
      · cases scripts
      · split at scripts
        · rw [ih scripts]
          rfl
        · rw [ih scripts]
          rfl
        · rw [ih scripts]
          split
          · exact Scripted.calls_release ..
          · rfl

private theorem calls_provide {source : SessionSource} {provider : Provider}
    {gates : List (String × Nat)} (provides : provide source = .ok (provider, gates)) :
    ∀ calls, provider.calls? = some calls → calls = [] := by
  unfold provide at provides
  intro calls found
  split at provides
  · split at provides
    · cases provides
      cases found
    · cases provides
  · split at provides
    · next scripted names scripts =>
      cases provides
      cases found
      exact calls_script scripts
    · cases provides
  · cases provides
    cases found

theorem start_cases (started : start setup = .ok first) :
    ∃ provider gates base template, provide setup.source = .ok (provider, gates) ∧
      first = ⟨⟨.start provider setup.timeout, [], template, base⟩, [(firstCache, Page.cache)],
        [], [], [], [], gates⟩ := by
  unfold start at started
  cases provided : provide setup.source with
  | error fault => simp [provided, bind, Except.bind] at started
  | ok source =>
      cases read : readBase setup.base with
      | error fault => simp [provided, read, bind, Except.bind] at started
      | ok base =>
          simp only [provided, read, bind, Except.bind] at started
          split at started
          · cases started
          · cases started
            exact ⟨_, _, _, _, rfl, rfl⟩

/-- A session starts in order and without any fetch. -/
theorem spec_start (started : start setup = .ok first) (link : Link) :
    first.Sound ∧ first.page.store.Tallied ∧ first.Called link 0 ∧
      ∀ cache, first.page.store.begun cache link = false := by
  obtain ⟨provider, gates, base, template, provides, rfl⟩ := start_cases started
  have missing (cache : Nat) (link : Link) :
      (Store.start provider setup.timeout).placeOf? cache link = none := by
    unfold Store.placeOf? Store.start
    cases cache <;> simp
  refine ⟨⟨⟨?_, ?_, ?_, ?_⟩, Nat.zero_lt_one, ?_, ?_, ?_⟩, ?_, ?_, ?_⟩
  · intro cache link place held
    cases (missing cache link).symm.trans held
  · intro place cache link other key held
    cases (missing cache link).symm.trans held
  · intro place link idle
    cases idle
  · intro place driven
    cases driven
  · intro name cache found
    rw [Naming.lookup_cons_ite] at found
    split at found
    · cases found
      exact Nat.zero_lt_one
    · cases found
  · intro name watch found
    cases found
  · intro name mount found
    cases found
  · intro link
    have nobody : (Store.start provider setup.timeout).beginners link = ∅ := by
      unfold Store.beginners
      simp only [Store.begun_of_missing (missing _ link)]
      simp
    change ((Store.start provider setup.timeout).beginners link).encard = _
    rw [nobody, Set.encard_empty]
    rfl
  · intro calls found
    cases calls_provide provides calls found
    rfl
  · exact fun cache => Store.begun_of_missing (missing cache link)

/-! ## The result -/

private theorem lazy_perform (sound : session.Sound) (asks : session.demand operation = .nothing) :
    (session.perform operation).2.page.store.fetched = session.page.store.fetched ∧
      (session.perform operation).2.page.store.provider.calls? =
        session.page.store.provider.calls? := by
  have steps := (follows_perform sound operation).steps
  rw [asks] at steps
  have same := steps.lazy (by simp)
  obtain ⟨news, grows⟩ := steps.grows (by simp)
  have nothing : news = [] := List.append_left_eq_self.mp (grows.fetched.symm.trans same)
  subst nothing
  refine ⟨same, grows.calls.trans ?_⟩
  simp

/-- Whoever watches a link gets a subscription to the entry of the link. -/
theorem watches_perform (sound : session.Sound) {key href : String} (name : String)
    (known : session.caches.lookup key = some cache) (target : Link.ofTarget href = .ok link) :
    ∃ watch, (session.perform (.watch key name href)).2.watches.lookup name = some watch ∧
      (session.perform (.watch key name href)).2.page.store.placeOf? cache link =
        some watch.place := by
  have inside := sound.caches key cache known
  have freed : Follows .nothing (session.withStore (session.page.store.watch cache link).2)
      ((session.withStore (session.page.store.watch cache link).2).dropWatch name) :=
    follows_dropWatch name
  simp only [perform, withLink, known, target, watch]
  refine ⟨(session.page.store.watch cache link).1, ?_, ?_⟩
  · rw [lookup_put, if_pos rfl]
  · exact freed.steps.fixed (Store.placeOf?_watch inside)

/-- Whoever mounts a link gets a mount that waits for the entry of the link. -/
theorem mounts_perform (sound : session.Sound) {anchor : String} {place : Nat}
    {element : Anchor} (name : String) (named : session.anchors.lookup anchor = some place)
    (there : session.page.element? place = some element)
    (target : session.page.identify element = .ok link) :
    ∃ mount, (session.perform (.mount name anchor)).2.mounts.lookup name = some mount ∧
      (session.perform (.mount name anchor)).2.page.store.placeOf? Page.cache link =
        some mount.watch.place := by
  have held : (session.page.mount place element).2.store.placeOf? Page.cache link =
      some (session.page.mount place element).1.watch.place := by
    simp only [Page.mount, target]
    exact Store.placeOf?_watch sound.home
  simp only [perform, mount, withElement, named, there]
  generalize session.page.mount place element = mounted at held
  have freed : Follows .nothing { session with page := mounted.2 }
      ({ session with page := mounted.2 }.dropMount name) := follows_dropMount name
  refine ⟨mounted.1, ?_, freed.steps.fixed held⟩
  rw [lookup_put, if_pos rfl]

/-- What is true of the fetches of a link for a cache after some operations of a session. -/
structure FetchesOnce (first : Session) (operations : List SessionOperation) (cache : Nat)
    (link : Link) : Prop where
  /-- The cache has asked for the link once at most, ... -/
  once : first.fetches cache link operations ≤ 1
  /-- ... just in case the entry of the link is no longer idle, ... -/
  asked : first.fetches cache link operations = 1 ↔
    (first.run operations).page.store.begun cache link = true
  /-- ... that is when a subscription to the link or a mount of it was polled. -/
  polled : (first.run operations).page.store.begun cache link = true ↔
    ∃ earlier operation later, operations = earlier ++ operation :: later ∧
      (first.run earlier).polls cache link operation = true
  /-- No fetch of the link belongs to no cache. -/
  total : {other | (first.run operations).page.store.begun other link = true}.encard =
    (first.run operations).page.store.fetched.count link
  /-- The provider was called for these fetches, and when it was called without a cache. -/
  called : ∀ calls, (first.run operations).page.store.provider.calls? = some calls →
    calls.count link = (first.run operations).page.store.fetched.count link +
      operations.countP (·.fetches link)
  /-- An operation that polls nothing fetches nothing. -/
  lazy : ∀ earlier operation later, operations = earlier ++ operation :: later →
    (first.run earlier).demand operation = .nothing →
      ((first.run earlier).perform operation).2.page.store.fetched =
          (first.run earlier).page.store.fetched ∧
        ((first.run earlier).perform operation).2.page.store.provider.calls? =
          (first.run earlier).page.store.provider.calls?
  /-- A subscription to the link is one to its entry, whenever it was made. -/
  watched : ∀ earlier key name href later,
    operations = earlier ++ .watch key name href :: later →
      (first.run earlier).caches.lookup key = some cache → Link.ofTarget href = .ok link →
        ∃ watch, (first.run (earlier ++ [.watch key name href])).watches.lookup name =
            some watch ∧
          (first.run operations).page.store.placeOf? cache link = some watch.place
  /-- A mount of the link waits for its entry, whenever it was made. -/
  mounted : ∀ earlier name anchor place element later,
    operations = earlier ++ .mount name anchor :: later → cache = Page.cache →
      (first.run earlier).anchors.lookup anchor = some place →
      (first.run earlier).page.element? place = some element →
      (first.run earlier).page.identify element = .ok link →
        ∃ mount, (first.run (earlier ++ [.mount name anchor])).mounts.lookup name =
            some mount ∧
          (first.run operations).page.store.placeOf? cache link = some mount.watch.place
  /-- A fetch that came to its end, with facts or without, is not tried again. -/
  settled : ∀ earlier later outcome, operations = earlier ++ later →
    (first.run earlier).page.store.entry? cache link = some (Cell.settledPhase outcome) →
      (first.run operations).page.store.entry? cache link = some (Cell.settledPhase outcome) ∧
        (first.run earlier).fetches cache link later = 0
  /-- A fetch that waits remains the fetch of the link until it comes to its end, ... -/
  resumed : ∀ earlier later task, operations = earlier ++ later →
    (first.run earlier).page.store.entry? cache link = some (.parked task) →
      ((first.run operations).page.store.entry? cache link = some (.parked task) ∨
        ∃ outcome, (first.run operations).page.store.entry? cache link =
          some (Cell.settledPhase outcome)) ∧
        (first.run earlier).fetches cache link later = 0
  /-- ... and whoever subscribes anew goes on with it. -/
  resumes : ∀ task waker, (first.run operations).page.store.entry? cache link =
      some (.parked task) →
    let fresh := (first.run operations).page.store.watch cache link
    (fresh.2.poll fresh.1 waker).1 =
        Store.answerOf ((first.run operations).page.store.prospect? task) ∧
      (fresh.2.poll fresh.1 waker).2.2.fetched = (first.run operations).page.store.fetched

/-- Once an entry is no longer idle, its link is not fetched again. -/
theorem fetches_of_begun (sound : session.Sound)
    (begun : session.page.store.begun cache link = true) (operations : List SessionOperation) :
    session.fetches cache link operations = 0 := by
  have counted := fetches_add_begun sound cache link operations
  have least := Bool.toNat_le ((session.run operations).page.store.begun cache link)
  rw [begun, Bool.toNat_true] at counted
  omega

theorem begun_of_entry {phase : FetchPhase}
    (found : session.page.store.entry? cache link = some phase)
    (started : Store.started phase = true) : session.page.store.begun cache link = true := by
  simp [Store.begun, found, started]

/-- A cache fetches each link once at most, when its entry is polled for the first time. -/
theorem fetches_once (started : start setup = .ok first) (operations : List SessionOperation)
    (cache : Nat) (link : Link) : FetchesOnce first operations cache link := by
  obtain ⟨sound, tallied, called, idle⟩ := spec_start started link
  have counted : first.fetches cache link operations =
      ((first.run operations).page.store.begun cache link).toNat := by
    rw [← fetches_add_begun sound cache link operations, idle cache]
    rfl
  refine ⟨?_, ?_, ?_, ?_, ?_, ?_, ?_, ?_, ?_, ?_, ?_⟩
  · rw [counted]
    exact Bool.toNat_le _
  · rw [counted, Bool.toNat_eq_one]
  · rw [begun_run sound, idle cache]
    simp
  · exact tallied_run sound tallied operations link
  · have direct := called_run sound called operations
    rw [Nat.zero_add] at direct
    exact direct
  · intro earlier operation later _ asks
    exact lazy_perform (sound.run earlier) asks
  · rintro earlier key name href later rfl known target
    obtain ⟨watch, found, held⟩ := watches_perform (sound.run earlier) name known target
    refine ⟨watch, by rw [run_append]; exact found, ?_⟩
    rw [run_append]
    exact placeOf?_run ((follows_perform (sound.run earlier) _).sound (sound.run earlier)) later held
  · rintro earlier name anchor place element later rfl rfl named there target
    obtain ⟨mount, found, held⟩ :=
      mounts_perform (sound.run earlier) name named there target
    refine ⟨mount, by rw [run_append]; exact found, ?_⟩
    rw [run_append]
    exact placeOf?_run ((follows_perform (sound.run earlier) _).sound (sound.run earlier)) later held
  · rintro earlier later outcome rfl found
    obtain ⟨phase, reached, leads⟩ := entry_run (sound.run earlier) later found
    rw [run_append]
    exact ⟨leads.of_settled ▸ reached, fetches_of_begun (sound.run earlier)
      (begun_of_entry found (Store.started_settledPhase outcome)) later⟩
  · rintro earlier later task rfl found
    obtain ⟨phase, reached, leads⟩ := entry_run (sound.run earlier) later found
    rw [run_append]
    refine ⟨?_, fetches_of_begun (sound.run earlier) (begun_of_entry found rfl) later⟩
    cases leads with
    | same => exact .inl reached
    | ended task outcome => exact .inr ⟨outcome, reached⟩
  · intro task waker found
    exact Store.poll_watch_parked found waker

/-- A provider that holds the only link up at a gate. -/
def gatedSetup : SessionSetup :=
  ⟨.scripts [("https://x/", .gated "g")], none, some "", none⟩

/-- The link behind the gate. -/
def gatedLink : Link := ⟨"https://x/"⟩

/-- The session that starts with this provider. -/
def gatedSession : Session :=
  ⟨⟨.start (.scripted ⟨[(gatedLink, .gated 0)], [⟨.shut, false⟩], []⟩) none, [], ⟨[]⟩, none⟩,
    [(firstCache, Page.cache)], [], [], [], [], [("g", 0)]⟩

/-- The only subscriber is dropped while the fetch waits, and somebody else subscribes. -/
def droppedMidway : List SessionOperation :=
  [.watch "c" "s" "https://x/", .poll "s" .silent, .drop "s",
    .watch "c" "t" "https://x/", .openGate "g" (Facts.ofList [("stars", "5")]),
    .poll "t" .silent]

theorem dropped_fetch_resumed :
    start gatedSetup = .ok gatedSession ∧
      FetchesOnce gatedSession droppedMidway Page.cache gatedLink ∧
      (gatedSession.run (droppedMidway.take 3)).page.store.entry? Page.cache gatedLink =
        some (.parked ⟨gatedLink, 0, none⟩) ∧
      gatedSession.fetches Page.cache gatedLink droppedMidway = 1 := by
  have started : start gatedSetup = .ok gatedSession := by cbv
  have parked : (gatedSession.run (droppedMidway.take 3)).page.store.entry? Page.cache gatedLink =
      some (.parked ⟨gatedLink, 0, none⟩) := by cbv
  have fetched : gatedSession.fetches Page.cache gatedLink droppedMidway = 1 := by cbv
  exact ⟨started, fetches_once started droppedMidway Page.cache gatedLink, parked, fetched⟩

end Session
end LinkFacts
