import LinkFacts.Proofs.Session.Sharing

/-!
# How entries reflect their fetches

In a session an entry holds the facts that its fetch gave, and holds nothing once its fetch failed,
found nothing or took too long.  Subscribers see these facts and nothing else.
-/

namespace LinkFacts

open Replay (Cell Phase Waker)

/-- The facts that a poll gives. -/
def Poll.facts : Poll Source → List Facts
  | item source => [source.facts]
  | _ => []

/-- The facts that an answer shows to a subscriber; nothing else is shown to subscribers. -/
def SessionAnswer.shown? : SessionAnswer → Option (List Facts)
  | pending | ended => some []
  | item facts => some [facts]
  | value facts => some facts.toList
  | componentItem view => some [view.facts]
  | components views => some (views.map ComponentView.facts)
  | _ => none

private theorem SessionAnswer.Shows.shown? {answer : SessionAnswer} {given : Poll Source}
    (shows : answer.Shows given) : answer.shown? = some given.facts := by
  cases shows with
  | pending | ended => rfl
  | item same => simp [SessionAnswer.shown?, Poll.facts, same]

private theorem SessionAnswer.Collects.shown? {answer : SessionAnswer} {given : Poll Source}
    (collects : answer.Collects given) : answer.shown? = some given.facts := by
  cases collects with
  | pending | ended => rfl
  | item same => simp [SessionAnswer.shown?, Poll.facts, same]

namespace Session

variable {session first : Session} {operation : SessionOperation}
  {operations : List SessionOperation} {setup : SessionSetup} {name : String} {cache : Nat}
  {link : Link}

/-- How the fetch of an entry ends by an operation, if it does. -/
def endingAt? (session : Session) (cache : Nat) (link : Link) (operation : SessionOperation) :
    Option Ending :=
  if session.polls cache link operation then
    (session.page.store.entry? cache link).bind session.page.store.ending?
  else none

/-- How the fetch of an entry has ended after some operations, if it has. -/
def ending? (cache : Nat) (link : Link) (session : Session) : List SessionOperation → Option Ending
  | [] => none
  | operation :: rest =>
    (session.endingAt? cache link operation).or
      (ending? cache link (session.perform operation).2 rest)

/-- An entry shows how its fetch has ended. -/
inductive Reflects : Option FetchPhase → Option Ending → Prop
  | absent : Reflects none none
  | idle (link : Link) : Reflects (some (.idle link)) none
  | parked (task : FetchTask) : Reflects (some (.parked task)) none
  | settled (ending : Ending) : Reflects (some (Cell.settledPhase ending.value?)) (some ending)

/-! ## One operation -/

/-- What a poll by an operation moves on, and what it shows. -/
structure Polled (store later : Store) (place : Nat) (phase : FetchPhase) (answer : SessionAnswer) :
    Prop where
  moved : ∃ next, later.phase? place = some next ∧ store.Leaves phase (store.verdict? phase) next
  shown : ∃ shown, answer.shown? = some shown ∧ ∀ facts ∈ shown, ∃ source,
    store.verdict? phase = some (some source) ∧ source.facts = facts

private theorem polled_of_poll {store later : Store} {watch : Watch} {waker : Waker}
    {phase : FetchPhase} {answer : SessionAnswer} (holds : store.Holds watch)
    (found : store.phase? watch.place = some phase) (calm : phase ≠ .driven)
    (kept : later.phase? = (store.poll watch waker).2.2.phase?)
    (shown : answer.shown? = some (store.poll watch waker).1.facts) :
    Polled store later watch.place phase answer := by
  obtain ⟨next, reached, leaves, given⟩ := Store.poll_leaves holds found calm waker
  refine ⟨⟨next, kept ▸ reached, leaves⟩, _, shown, fun facts there => ?_⟩
  cases polled : (store.poll watch waker).1 with
  | pending | ended =>
      rw [polled] at there
      cases there
  | item source =>
      rw [polled] at there
      exact ⟨source, given source polled, (List.mem_singleton.mp there).symm⟩

private theorem shown?_pollAnswer (given : Poll Source) :
    (pollAnswer given).shown? = some given.facts := by
  cases given <;> rfl

private theorem shown?_value {watch : Watch} (named : session.watches.lookup name = some watch) :
    (session.perform (.value name)).1.shown? =
      some (session.page.store.poll watch .silent).1.facts := by
  simp only [perform, value, poll, named]
  cases (session.page.store.poll watch .silent).1 <;> rfl

private theorem quiet_dropWatch (session : Session) (name : String) :
    Store.Quiet session.page.store (session.dropWatch name).page.store := by
  unfold dropWatch
  split
  · exact Store.quiet_unwatch _
  · exact .refl _

/-- An operation that polls a computation moves it on, and shows nothing but its value. -/
theorem polled_perform (sound : session.Sound) {place : Nat} {phase : FetchPhase}
    (asks : session.demand operation = .poll place)
    (found : session.page.store.phase? place = some phase) :
    Polled session.page.store (session.perform operation).2.page.store place phase
      (session.perform operation).1 := by
  have calm : phase ≠ .driven := fun driven => sound.calm place (driven ▸ found)
  cases operation with
  | poll name waker =>
      simp only [demand] at asks
      split at asks
      · next watch named =>
        cases asks
        simp only [perform, poll, named]
        exact polled_of_poll (sound.watches name watch named) found calm rfl (shown?_pollAnswer _)
      · cases asks
  | value name =>
      simp only [demand] at asks
      split at asks
      · next watch named =>
        cases asks
        refine polled_of_poll (sound.watches name watch named) found calm ?_ (shown?_value named)
        simp only [perform, value_snd]
        refine (quiet_dropWatch _ name).phases.trans ?_
        simp only [poll, named]
        rfl
      · cases asks
  | pollMount name waker =>
      simp only [demand] at asks
      split at asks
      · next mount named =>
        cases asks
        have quiet := Page.quiet_poll session.page mount waker
        have page := (pollMount_of_found named waker).1
        refine polled_of_poll (sound.mounts name mount named) found calm ?_
          (shows_pollMount named waker).shown?
        simp only [perform, page]
        exact quiet.phases
      · cases asks
  | collectMount name =>
      simp only [demand] at asks
      split at asks
      · next mount named =>
        cases asks
        have quiet := Page.quiet_poll session.page mount .silent
        have page := (collectMount_of_found sound named).1
        refine polled_of_poll (sound.mounts name mount named) found calm ?_
          (collects_collectMount sound named).shown?
        simp only [perform, page]
        exact (Store.quiet_unwatch _).phases.trans quiet.phases
      · cases asks
  | fetch href =>
      simp only [demand] at asks
      split at asks <;> cases asks
  | _ => cases asks

private theorem Reflects.leaves_unsettled {store : Store} {phase next : FetchPhase}
    (verdict : store.verdict? phase = (store.ending? phase).map Ending.value?)
    (leaves : store.Leaves phase (store.verdict? phase) next) :
    Reflects (some next) (store.ending? phase) := by
  rw [verdict] at leaves
  cases said : store.ending? phase with
  | none =>
      rw [said] at leaves
      cases leaves with
      | waits waits => exact .parked _
  | some ending =>
      rw [said] at leaves
      cases leaves with
      | settled => exact .settled ending

/-- How a fetch ends that is polled decides what its entry shows from then on. -/
theorem Reflects.leaves {store : Store} {phase next : FetchPhase} {ending : Option Ending}
    (reflects : Reflects (some phase) ending)
    (leaves : store.Leaves phase (store.verdict? phase) next) :
    Reflects (some next) (ending.or (store.ending? phase)) := by
  cases reflects with
  | idle link => exact .leaves_unsettled rfl leaves
  | parked task => exact .leaves_unsettled rfl leaves
  | settled ending =>
      rw [Store.verdict?_settledPhase] at leaves
      cases leaves with
      | settled => exact .settled ending

/-- An entry is settled when its fetch has ended or ends by the poll. -/
theorem Reflects.verdict {store : Store} {phase : FetchPhase} {ending : Option Ending}
    (reflects : Reflects (some phase) ending) :
    store.verdict? phase = (ending.or (store.ending? phase)).map Ending.value? := by
  cases reflects with
  | idle link | parked task => rfl
  | settled ending => exact Store.verdict?_settledPhase _

/-- An operation that polls an entry moves its fetch on. -/
theorem polled_entry (sound : session.Sound) (polls : session.polls cache link operation = true) :
    ∃ phase next, session.page.store.entry? cache link = some phase ∧
      (session.perform operation).2.page.store.entry? cache link = some next ∧
      session.page.store.Leaves phase (session.page.store.verdict? phase) next := by
  obtain ⟨place, asks, held⟩ := polls_iff.mp polls
  obtain ⟨phase, found⟩ := sound.serves asks
  obtain ⟨next, reached, leaves⟩ := (polled_perform sound asks found).moved
  have steps := (follows_perform sound operation).steps
  refine ⟨phase, next, ?_, ?_, leaves⟩
  · rw [Store.entry?_of_placed held, found]
  · rw [Store.entry?_of_placed (steps.fixed held), reached]

/-- An entry that is not polled stays as it is, or appears and is idle. -/
theorem unpolled_entry (sound : session.Sound)
    (silent : session.polls cache link operation = false) :
    (session.perform operation).2.page.store.entry? cache link =
        session.page.store.entry? cache link ∨
      session.page.store.entry? cache link = none ∧ ∃ key,
        (session.perform operation).2.page.store.entry? cache link = some (.idle key) := by
  refine (follows_perform sound operation).steps.entry_of_ne sound.indexed
    (fun place asks => sound.serves asks) fun place asks held => ?_
  rw [polls_iff.mpr ⟨place, asks, held⟩] at silent
  cases silent

theorem reflects_perform (sound : session.Sound) {ending : Option Ending}
    (reflects : Reflects (session.page.store.entry? cache link) ending)
    (operation : SessionOperation) :
    Reflects ((session.perform operation).2.page.store.entry? cache link)
      (ending.or (session.endingAt? cache link operation)) := by
  cases polls : session.polls cache link operation with
  | false =>
      rw [endingAt?, polls, if_neg Bool.false_ne_true, Option.or_none]
      obtain same | ⟨missing, key, idle⟩ := unpolled_entry sound polls
      · rw [same]
        exact reflects
      · rw [missing] at reflects
        rw [idle]
        cases reflects
        exact .idle key
  | true =>
      obtain ⟨phase, next, found, reached, leaves⟩ := polled_entry sound polls
      rw [found] at reflects
      rw [endingAt?, polls, if_pos rfl, reached, found]
      exact reflects.leaves leaves

/-! ## Whole runs -/

private theorem reflects_run (sound : session.Sound) {ending : Option Ending}
    (reflects : Reflects (session.page.store.entry? cache link) ending)
    (operations : List SessionOperation) :
    Reflects ((session.run operations).page.store.entry? cache link)
      (ending.or (session.ending? cache link operations)) := by
  induction operations generalizing session ending with
  | nil =>
      rw [ending?, Option.or_none]
      exact reflects
  | cons operation rest ih =>
      have later := ih ((follows_perform sound operation).sound sound)
        (reflects_perform sound reflects operation)
      rw [Option.or_assoc] at later
      exact later

private theorem ending?_concat (session : Session) (operations : List SessionOperation)
    (operation : SessionOperation) : session.ending? cache link (operations ++ [operation]) =
      (session.ending? cache link operations).or
        ((session.run operations).endingAt? cache link operation) := by
  induction operations generalizing session with
  | nil => simp [ending?, run]
  | cons earlier rest ih =>
      rw [List.cons_append, ending?, ih, ending?, Option.or_assoc]
      rfl

private theorem owned_run (sound : session.Sound) (owned : session.page.store.Owned)
    (operations : List SessionOperation) : (session.run operations).page.store.Owned := by
  induction operations generalizing session with
  | nil => exact owned
  | cons operation rest ih =>
      have follows := follows_perform sound operation
      exact ih (follows.sound sound) (follows.steps.owned owned)

/-- A session starts without any entries. -/
theorem entry?_start (started : start setup = .ok first) (cache : Nat) (link : Link) :
    first.page.store.entry? cache link = none ∧ first.page.store.Owned := by
  obtain ⟨provider, gates, base, template, -, rfl⟩ := start_cases started
  exact ⟨by cases cache <;> rfl, fun place phase found => by cases found⟩

theorem reflects_start (started : start setup = .ok first) (operations : List SessionOperation)
    (cache : Nat) (link : Link) :
    Reflects ((first.run operations).page.store.entry? cache link)
      (first.ending? cache link operations) := by
  obtain ⟨sound, -⟩ := spec_start started link
  have unasked : Reflects (first.page.store.entry? cache link) none := by
    rw [(entry?_start started cache link).1]
    exact .absent
  have later := reflects_run sound unasked operations
  rw [Option.none_or] at later
  exact later

theorem Reflects.settled_iff {phase : Option FetchPhase} {ending : Option Ending}
    (reflects : Reflects phase ending) (outcome : Option Source) :
    phase = some (Cell.settledPhase outcome) ↔ ending.map Ending.value? = some outcome := by
  cases reflects with
  | absent => simp
  | idle link | parked task => cases outcome <;> simp [Cell.settledPhase]
  | settled ending => simp

/-- What is true of the entry of a link after some operations of a session. -/
structure Classifies (first : Session) (operations : List SessionOperation) (cache : Nat)
    (link : Link) : Prop where
  /-- An entry has a value if its fetch gave facts that are not empty, and the value is these
  facts. -/
  resolved : ∀ source,
    (first.run operations).page.store.entry? cache link = some (.resolved source) ↔
      ∃ facts, first.ending? cache link operations = some (.answered (.ok facts)) ∧
        facts.isEmpty = false ∧ source.facts = facts
  /-- An entry is over without a value if its fetch failed, gave empty facts, or took too long. -/
  completed : (first.run operations).page.store.entry? cache link = some .completed ↔
    (∃ failure, first.ending? cache link operations = some (.answered (.error failure))) ∨
      (∃ facts, first.ending? cache link operations = some (.answered (.ok facts)) ∧
        facts.isEmpty = true) ∨
      first.ending? cache link operations = some .expired
  /-- An entry is open as long as its fetch has not ended. -/
  unsettled : first.ending? cache link operations = none ↔
    ∀ outcome, (first.run operations).page.store.entry? cache link ≠
      some (Cell.settledPhase outcome)
  /-- Every subscription that has given nothing yet is told how the fetch has ended, whenever it was
  made, and there is nothing more to tell after that. -/
  replied : ∀ name watch waker, (first.run operations).watches.lookup name = some watch →
    (first.run operations).page.store.placeOf? cache link = some watch.place →
      ((first.run operations).perform (.poll name waker)).1 =
        if watch.done then .ended
        else pollAnswer (Store.answerOf
          ((first.ending? cache link (operations ++ [.poll name waker])).map Ending.value?))

/-- What is true of all entries and of all that subscribers see in a session. -/
structure Faithful (first : Session) (operations : List SessionOperation) : Prop where
  /-- All requests for a link share one entry. -/
  shares : Shares first operations
  /-- Entries show how their fetches have ended. -/
  classifies : ∀ cache link, Classifies first operations cache link
  /-- A poll shows facts that are not empty and that the fetch of its entry gave, and no failure. -/
  seen : ∀ earlier operation later place, operations = earlier ++ operation :: later →
    (first.run earlier).demand operation = .poll place →
      ∃ shown, ((first.run earlier).perform operation).1.shown? = some shown ∧
        ∀ facts ∈ shown, facts.isEmpty = false ∧
          ∃ cache link, (first.run earlier).polls cache link operation = true ∧
            first.ending? cache link (earlier ++ [operation]) = some (.answered (.ok facts))

private theorem classifies (started : start setup = .ok first) (operations : List SessionOperation)
    (cache : Nat) (link : Link) : Classifies first operations cache link := by
  have reflects := reflects_start started operations cache link
  refine ⟨fun source => ?_, ?_, ?_, ?_⟩
  · refine (reflects.settled_iff (some source)).trans ?_
    rw [Option.map_eq_some_iff]
    constructor
    · rintro ⟨ending, ended, value⟩
      obtain ⟨facts, rfl, nonempty, same⟩ := Ending.value?_eq_some_iff.mp value
      exact ⟨facts, ended, nonempty, same⟩
    · rintro ⟨facts, ended, nonempty, same⟩
      exact ⟨_, ended, Ending.value?_eq_some_iff.mpr ⟨facts, rfl, nonempty, same⟩⟩
  · refine (reflects.settled_iff none).trans ?_
    rw [Option.map_eq_some_iff]
    constructor
    · rintro ⟨ending, ended, value⟩
      obtain ⟨failure, rfl⟩ | ⟨facts, rfl, empty⟩ | rfl := Ending.value?_eq_none_iff.mp value
      · exact .inl ⟨failure, ended⟩
      · exact .inr (.inl ⟨facts, ended, empty⟩)
      · exact .inr (.inr ended)
    · rintro (⟨failure, ended⟩ | ⟨facts, ended, empty⟩ | ended)
      · exact ⟨_, ended, rfl⟩
      · exact ⟨_, ended, Ending.value?_eq_none_iff.mpr (.inr (.inl ⟨facts, rfl, empty⟩))⟩
      · exact ⟨_, ended, rfl⟩
  · constructor
    · intro waits outcome settled
      rw [reflects.settled_iff, waits] at settled
      cases settled
    · intro unsettled
      cases ended : first.ending? cache link operations with
      | none => rfl
      | some ending =>
          refine absurd ((reflects.settled_iff ending.value?).mpr ?_) (unsettled _)
          rw [ended]
          rfl
  · intro name watch waker named held
    obtain ⟨soundStart, -⟩ := spec_start started link
    have sound := soundStart.run operations
    obtain ⟨phase, found, -⟩ := sound.watches name watch named
    have asks : (first.run operations).demand (.poll name waker) = .poll watch.place := by
      simp only [demand, named]
    have polls := polls_iff.mpr ⟨watch.place, asks, held⟩
    simp only [perform, poll, named]
    split
    · next ended => rw [Store.poll_of_done ended]; rfl
    · next live =>
      obtain ⟨later, -, gives⟩ := Store.gives_poll ((Bool.not_eq_true _).mp live) found
        (fun driven => sound.calm _ (driven ▸ found)) waker
      rw [Store.entry?_of_placed held, found] at reflects
      rw [gives.answers, ending?_concat, reflects.verdict]
      simp [endingAt?, polls, Store.entry?_of_placed held, found]

/-- What an operation shows that polls a computation are facts that the fetch of an entry gave. -/
theorem seen_perform (started : start setup = .ok first) (earlier : List SessionOperation)
    {place : Nat} (asks : (first.run earlier).demand operation = .poll place) :
    ∃ shown, ((first.run earlier).perform operation).1.shown? = some shown ∧
      ∀ facts ∈ shown, facts.isEmpty = false ∧
        ∃ cache link, (first.run earlier).polls cache link operation = true ∧
          first.ending? cache link (earlier ++ [operation]) = some (.answered (.ok facts)) := by
  obtain ⟨soundStart, -⟩ := spec_start started ⟨""⟩
  have sound := soundStart.run earlier
  obtain ⟨phase, found⟩ := sound.serves asks
  obtain ⟨⟨next, reached, leaves⟩, shown, answered, given⟩ := polled_perform sound asks found
  refine ⟨shown, answered, fun facts there => ?_⟩
  obtain ⟨source, verdict, rfl⟩ := given facts there
  refine ⟨source.nonempty, ?_⟩
  rw [verdict] at leaves
  cases leaves
  have owned := owned_run soundStart (entry?_start started 0 ⟨""⟩).2 earlier
  obtain rfl | ⟨cache, link, held⟩ := owned place phase found
  · cases verdict
  · refine ⟨cache, link, polls_iff.mpr ⟨place, asks, held⟩, ?_⟩
    have placed := (follows_perform sound operation).steps.fixed held
    have resolved := (classifies started (earlier ++ [operation]) cache link).resolved source
    rw [run_concat, Store.entry?_of_placed placed] at resolved
    obtain ⟨facts, ended, -, same⟩ := resolved.mp reached
    rw [same]
    exact ended

/-- Entries are shared, show how their fetches have ended, and give subscribers what these gave. -/
theorem entries_faithful (started : start setup = .ok first)
    (operations : List SessionOperation) : Faithful first operations where
  shares := shares started operations
  classifies := classifies started operations
  seen := by
    rintro earlier operation later place rfl asks
    exact seen_perform started earlier asks

/-- A provider whose fetches wait once, and then find nothing, fail, or give facts. -/
def changingSetup : SessionSetup :=
  ⟨.oracle "changing" fun poll =>
      if poll = 0 then none
      else if poll = 1 then some (.ok .empty)
      else some (.ok (Facts.ofList [("stars", "5")])),
    none, some "x", some 10⟩

/-- The session that starts with this provider. -/
def changingSession : Session :=
  ⟨⟨.start (.oracle ⟨"changing", fun poll =>
        if poll = 0 then none
        else if poll = 1 then some (.ok .empty)
        else some (.ok (Facts.ofList [("stars", "5")])), 0⟩) (some 10), [], ⟨[.raw "x"]⟩, none⟩,
    [(firstCache, Page.cache)], [], [], [], [], []⟩

/-- Two links are watched, one of them under two spellings. -/
def watchedThrice : List SessionOperation :=
  [.watch "c" "s" "https://x/", .watch "c" "t" "https://x", .watch "c" "u" "https://y/",
    .poll "s" .silent, .poll "t" .silent, .poll "u" .silent]

theorem spellings_share_entry :
    start changingSetup = .ok changingSession ∧ Faithful changingSession watchedThrice ∧
      changingSession.linksOf 0 watchedThrice = [⟨"https://x/"⟩, ⟨"https://x/"⟩, ⟨"https://y/"⟩] ∧
      ((changingSession.run watchedThrice).perform (.size "c")).1 = .size 2 ∧
      changingSession.ending? 0 ⟨"https://x/"⟩ watchedThrice = some (.answered (.ok .empty)) := by
  have started : start changingSetup = .ok changingSession := by cbv
  have asked : changingSession.linksOf 0 watchedThrice =
      [⟨"https://x/"⟩, ⟨"https://x/"⟩, ⟨"https://y/"⟩] := by cbv
  have counted : ((changingSession.run watchedThrice).perform (.size "c")).1 = .size 2 := by cbv
  have ended : changingSession.ending? 0 ⟨"https://x/"⟩ watchedThrice =
      some (.answered (.ok .empty)) := by cbv
  exact ⟨started, entries_faithful started watchedThrice, asked, counted, ended⟩

end Session
end LinkFacts
