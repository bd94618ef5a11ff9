import LinkFacts.Proofs.Session.Classifying
import LinkFacts.Proofs.Session.Moves

/-!
# Deadlines

A fetch has so much time from the first poll of its entry on.  Each poll finds an answer, or finds
the time up, or finds neither and waits; the first poll that finds something decides how the fetch
ends, and nothing that happens after that changes it.
-/

namespace LinkFacts

open Replay (Cell Phase Waker)

/-- How much time an operation lets pass. -/
def SessionOperation.elapsed : SessionOperation → Nat
  | advance milliseconds => milliseconds
  | _ => 0

/-- An operation settles what is behind a gate. -/
inductive SessionOperation.Releases : SessionOperation → Prop
  | opened (gate : String) (facts : Facts) : Releases (.openGate gate facts)
  | failed (gate : String) : Releases (.failGate gate)

private theorem Store.Quiet.entry? {before after : Store} (quiet : Store.Quiet before after) :
    after.entry? = before.entry? := by
  unfold Store.entry?
  rw [quiet.phases, quiet.places]

namespace Session

variable {session first : Session} {operation : SessionOperation}
  {operations : List SessionOperation} {setup : SessionSetup} {name : String} {cache : Nat}
  {link : Link} {limit : Nat}

/-- What the provider says now of the fetch of an entry; nothing as long as the fetch waits. -/
def answerNow? (session : Session) (cache : Nat) (link : Link) : Option Fetched :=
  (session.page.store.entry? cache link).bind session.page.store.says?

/-- The time at which an operation polls an entry, if it does. -/
def polledAt? (session : Session) (cache : Nat) (link : Link) (operation : SessionOperation) :
    Option Nat :=
  if session.polls cache link operation then some session.page.store.clock else none

/-- When an entry is first polled by some operations, if it is. -/
def firstPoll? (cache : Nat) (link : Link) (session : Session) : List SessionOperation → Option Nat
  | [] => none
  | operation :: rest =>
    (session.polledAt? cache link operation).or
      (firstPoll? cache link (session.perform operation).2 rest)

/-- What an operation finds that polls an entry: an answer, or else that the time is up since the
entry was first polled. -/
def decision? (session : Session) (cache : Nat) (link : Link) (limit : Nat) (since : Option Nat)
    (operation : SessionOperation) : Option Ending :=
  if session.polls cache link operation then
    match session.answerNow? cache link with
    | some answer => some (.answered answer)
    | none =>
      if since.getD session.page.store.clock + limit ≤ session.page.store.clock then some .expired
      else none
  else none

/-- What the first poll of an entry has found that found anything. -/
def decided? (cache : Nat) (link : Link) (limit : Nat) (since : Option Nat) (session : Session) :
    List SessionOperation → Option Ending
  | [] => none
  | operation :: rest =>
    (session.decision? cache link limit since operation).or
      (decided? cache link limit (since.or (session.polledAt? cache link operation))
        (session.perform operation).2 rest)

/-- What a poll at a time makes of a fetch that has not ended and was first polled at another. -/
inductive Decides (limit since clock : Nat) : Option Fetched → FetchPhase → Prop
  /-- An answer counts even if the time is up. -/
  | answered (answer : Fetched) :
    Decides limit since clock (some answer) (Cell.settledPhase (Store.sourceOf answer))
  | expired (due : since + limit ≤ clock) : Decides limit since clock none .completed
  | waits (early : clock < since + limit) (link : Link) (gate : Nat) :
    Decides limit since clock none (.parked ⟨link, gate, some (since + limit)⟩)

/-- A fetch that waits is given up so much time after its entry was first polled. -/
inductive Dated (limit : Nat) : Option FetchPhase → Option Nat → Prop
  | absent : Dated limit none none
  | idle (link : Link) : Dated limit (some (.idle link)) none
  | parked (link : Link) (gate since : Nat) :
    Dated limit (some (.parked ⟨link, gate, some (since + limit)⟩)) (some since)
  | resolved (source : Source) (since : Nat) : Dated limit (some (.resolved source)) (some since)
  | completed (since : Nat) : Dated limit (some .completed) (some since)

/-! ## Time passes -/

/-- How long fetches may take in a session, and what time it is. -/
def timing (session : Session) : Option Nat × Nat := session.page.store.timing

private theorem timing_perform_of_ne (other : ∀ milliseconds, operation ≠ .advance milliseconds) :
    (session.perform operation).2.timing = session.timing :=
  (moves_perform other).timing

/-- Only the passing of time lets time pass. -/
theorem timing_perform (session : Session) (operation : SessionOperation) :
    (session.perform operation).2.timing =
      (session.timing.1, session.timing.2 + operation.elapsed) := by
  cases operation with
  | advance milliseconds => exact Store.timing_advance session.page.store milliseconds
  | _ => exact timing_perform_of_ne fun _ same => by cases same

private theorem timing_run (session : Session) (operations : List SessionOperation) :
    (session.run operations).timing =
      (session.timing.1, session.timing.2 + (operations.map (·.elapsed)).sum) := by
  induction operations generalizing session with
  | nil => rfl
  | cons operation rest ih =>
      change ((session.perform operation).2.run rest).timing = _
      rw [ih, timing_perform, List.map_cons, List.sum_cons, Nat.add_assoc]

/-- The limit of a session is there from its start, and time begins with the session. -/
theorem timing_start (started : start setup = .ok first) (operations : List SessionOperation) :
    (first.run operations).timing = (setup.timeout, (operations.map (·.elapsed)).sum) := by
  obtain ⟨provider, gates, base, template, -, rfl⟩ := start_cases started
  rw [timing_run]
  exact congrArg (Prod.mk _) (Nat.zero_add _)

/-! ## One operation -/

section Polls

variable {store : Store} {phase next : FetchPhase} {since : Option Nat} {task : FetchTask}

private theorem Dated.settled (outcome : Option Source) (since : Nat) :
    Dated limit (some (Cell.settledPhase outcome)) (some since) := by
  cases outcome with
  | none => exact .completed since
  | some source => exact .resolved source since

private theorem Dated.deadline (dated : Dated limit (some phase) since)
    (unsettled : ∀ outcome, phase ≠ Cell.settledPhase outcome)
    (timed : store.timeout = some limit) :
    store.deadline? phase = some (since.getD store.clock + limit) := by
  cases dated with
  | idle link => simp [Store.deadline?, timed]
  | parked link gate since => rfl
  | resolved source since => exact absurd rfl (unsettled (some source))
  | completed since => exact absurd rfl (unsettled none)

/-- A poll of an unsettled fetch goes by the answer first and by the deadline then. -/
theorem Dated.ending (dated : Dated limit (some phase) since)
    (unsettled : ∀ outcome, phase ≠ Cell.settledPhase outcome)
    (timed : store.timeout = some limit) :
    store.ending? phase = match store.says? phase with
      | some answer => some (.answered answer)
      | none => if since.getD store.clock + limit ≤ store.clock then some .expired else none := by
  rw [Store.ending?, dated.deadline unsettled timed]
  cases store.says? phase <;> simp

/-- A fetch that waits after a poll waits for the time at which it was first polled. -/
theorem Dated.waits (dated : Dated limit (some phase) since) (timed : store.timeout = some limit)
    (waits : store.Waits phase task) :
    ∃ link gate, task = ⟨link, gate, some (since.getD store.clock + limit)⟩ := by
  cases waits with
  | begun link gate =>
      cases dated
      exact ⟨link, gate, by simp [timed]⟩
  | still task =>
      cases dated with
      | parked link gate since => exact ⟨link, gate, rfl⟩

/-- A poll leaves a fetch dated by its first poll. -/
theorem Dated.leaves (dated : Dated limit (some phase) since) (timed : store.timeout = some limit)
    {verdict : Option (Option Source)} (leaves : store.Leaves phase verdict next) :
    Dated limit (some next) (some (since.getD store.clock)) := by
  cases leaves with
  | settled outcome => exact .settled outcome _
  | waits waits =>
      obtain ⟨link, gate, rfl⟩ := dated.waits timed waits
      exact .parked link gate _

private theorem verdict?_of_unsettled (unsettled : ∀ outcome, phase ≠ Cell.settledPhase outcome) :
    store.verdict? phase = (store.ending? phase).map Ending.value? := by
  cases phase with
  | resolved source => exact absurd rfl (unsettled (some source))
  | completed => exact absurd rfl (unsettled none)
  | idle | parked | driven => rfl

/-- What a poll makes of an unsettled fetch. -/
theorem Dated.decides (dated : Dated limit (some phase) since)
    (unsettled : ∀ outcome, phase ≠ Cell.settledPhase outcome)
    (timed : store.timeout = some limit)
    (leaves : store.Leaves phase (store.verdict? phase) next) :
    Decides limit (since.getD store.clock) store.clock (store.says? phase) next := by
  rw [verdict?_of_unsettled unsettled, dated.ending unsettled timed] at leaves
  cases said : store.says? phase with
  | some answer =>
      rw [said] at leaves
      cases leaves with
      | settled => exact .answered answer
  | none =>
      rw [said] at leaves
      dsimp only at leaves
      split at leaves
      · next due =>
        cases leaves with
        | settled => exact .expired due
      · next early =>
        cases leaves with
        | waits waits =>
            obtain ⟨link, gate, rfl⟩ := dated.waits timed waits
            exact .waits (Nat.lt_of_not_le early) link gate

end Polls

variable {since : Option Nat}

private theorem dated_perform (sound : session.Sound)
    (timed : session.page.store.timeout = some limit)
    (dated : Dated limit (session.page.store.entry? cache link) since)
    (operation : SessionOperation) :
    Dated limit ((session.perform operation).2.page.store.entry? cache link)
      (since.or (session.polledAt? cache link operation)) := by
  cases polls : session.polls cache link operation with
  | false =>
      rw [polledAt?, polls, if_neg Bool.false_ne_true, Option.or_none]
      obtain same | ⟨missing, key, idle⟩ := unpolled_entry sound polls
      · rw [same]
        exact dated
      · rw [missing] at dated
        rw [idle]
        cases dated
        exact .idle key
  | true =>
      obtain ⟨phase, next, found, reached, leaves⟩ := polled_entry sound polls
      have begun : since.or (some session.page.store.clock) =
          some (since.getD session.page.store.clock) := by cases since <;> rfl
      rw [found] at dated
      rw [polledAt?, polls, if_pos rfl, reached, begun]
      exact dated.leaves timed leaves

/-- An unsettled entry ends by the first poll that finds something. -/
theorem decision?_eq (sound : session.Sound) (timed : session.page.store.timeout = some limit)
    (dated : Dated limit (session.page.store.entry? cache link) since)
    (reflects : Reflects (session.page.store.entry? cache link) none)
    (operation : SessionOperation) :
    session.decision? cache link limit since operation =
      session.endingAt? cache link operation := by
  cases polls : session.polls cache link operation with
  | false => simp [decision?, endingAt?, polls]
  | true =>
      obtain ⟨phase, -, found, -⟩ := polled_entry sound polls
      rw [found] at dated reflects
      have unsettled (outcome : Option Source) : phase ≠ Cell.settledPhase outcome := fun settled => by
        have ended := (reflects.settled_iff outcome).mp (congrArg some settled)
        cases ended
      rw [decision?, endingAt?, polls, if_pos rfl, if_pos rfl, answerNow?, found, Option.bind_some,
        Option.bind_some, dated.ending unsettled timed]

/-! ## Whole runs -/

private theorem timed_perform (timed : session.page.store.timeout = some limit)
    (operation : SessionOperation) :
    (session.perform operation).2.page.store.timeout = some limit :=
  (congrArg Prod.fst (timing_perform session operation)).trans timed

private theorem dated_run (sound : session.Sound) (timed : session.page.store.timeout = some limit)
    (dated : Dated limit (session.page.store.entry? cache link) since)
    (operations : List SessionOperation) :
    Dated limit ((session.run operations).page.store.entry? cache link)
      (since.or (session.firstPoll? cache link operations)) := by
  induction operations generalizing session since with
  | nil =>
      rw [firstPoll?, Option.or_none]
      exact dated
  | cons operation rest ih =>
      have later := ih ((follows_perform sound operation).sound sound)
        (timed_perform timed operation) (dated_perform sound timed dated operation)
      rw [Option.or_assoc] at later
      exact later

/-- The first poll that finds something decides how a fetch ends. -/
theorem decided?_eq (sound : session.Sound) (timed : session.page.store.timeout = some limit)
    (dated : Dated limit (session.page.store.entry? cache link) since) {ending : Option Ending}
    (reflects : Reflects (session.page.store.entry? cache link) ending)
    (operations : List SessionOperation) :
    ending.or (session.decided? cache link limit since operations) =
      ending.or (session.ending? cache link operations) := by
  induction operations generalizing session since ending with
  | nil => rfl
  | cons operation rest ih =>
      -- once something was found, what later polls find does not count on either side
      cases ending with
      | some ending => rfl
      | none =>
          have agreed := decision?_eq sound timed dated reflects operation
          have later := ih ((follows_perform sound operation).sound sound)
            (timed_perform timed operation) (dated_perform sound timed dated operation)
            (reflects_perform sound reflects operation)
          rw [decided?, ending?, agreed]
          exact later

private theorem firstPoll?_concat (session : Session) (operations : List SessionOperation)
    (operation : SessionOperation) : session.firstPoll? cache link (operations ++ [operation]) =
      (session.firstPoll? cache link operations).or
        ((session.run operations).polledAt? cache link operation) := by
  induction operations generalizing session with
  | nil => simp [firstPoll?, run]
  | cons earlier rest ih =>
      rw [List.cons_append, firstPoll?, ih, firstPoll?, Option.or_assoc]
      rfl

private theorem decided?_append (session : Session) (since : Option Nat)
    (earlier later : List SessionOperation) :
    session.decided? cache link limit since (earlier ++ later) =
      (session.decided? cache link limit since earlier).or
        ((session.run earlier).decided? cache link limit
          (since.or (session.firstPoll? cache link earlier)) later) := by
  induction earlier generalizing session since with
  | nil => simp [decided?, firstPoll?, run]
  | cons operation rest ih =>
      rw [List.cons_append, decided?, ih, decided?, firstPoll?, Option.or_assoc, Option.or_assoc]
      rfl

/-- Answers arrive without anybody noticing them who does not poll. -/
theorem arrives_perform (releases : operation.Releases) :
    (session.perform operation).2.page.store.entry? = session.page.store.entry? ∧
      (session.perform operation).2.page.store.fetched = session.page.store.fetched ∧
      (session.perform operation).1.shown? = none := by
  have released (name : String) (state : GateState) :
      (session.release name state).2.page.store.entry? = session.page.store.entry? ∧
        (session.release name state).2.page.store.fetched = session.page.store.fetched ∧
        (session.release name state).1.shown? = none := by
    unfold release
    split
    · exact ⟨rfl, rfl, rfl⟩
    · next gate _ =>
      have quiet : Store.Quiet session.page.store (session.page.store.release gate state) :=
        Store.quiet_release gate state
      exact ⟨quiet.entry?, quiet.grows.fetched, rfl⟩
  cases releases with
  | opened gate facts => exact released gate _
  | failed gate => exact released gate _

/-- What is true of the fetch of a link for a cache in a session whose fetches have so much time. -/
structure KeepsTime (limit : Nat) (first : Session) (operations : List SessionOperation)
    (cache : Nat) (link : Link) : Prop where
  /-- The time is what operations have let pass. -/
  clock : (first.run operations).page.store.clock = (operations.map (·.elapsed)).sum
  /-- No time is taken from a fetch as long as its entry is not polled, and it does not begin. -/
  dormant : first.firstPoll? cache link operations = none ↔
    (first.run operations).page.store.begun cache link = false
  /-- A poll of a fetch that has not ended finds an answer, or else the time since the first poll to
  be up, or leaves the fetch waiting. -/
  driven : ∀ earlier operation later, operations = earlier ++ operation :: later →
    (first.run earlier).polls cache link operation = true →
    (∀ outcome, (first.run earlier).page.store.entry? cache link ≠
      some (Cell.settledPhase outcome)) →
    ∃ since next, first.firstPoll? cache link (earlier ++ [operation]) = some since ∧
      (first.run (earlier ++ [operation])).page.store.entry? cache link = some next ∧
      Decides limit since (first.run earlier).page.store.clock
        ((first.run earlier).answerNow? cache link) next
  /-- The first poll that finds something decides how the fetch ends. -/
  decided : ∀ outcome, (first.run operations).page.store.entry? cache link =
      some (Cell.settledPhase outcome) ↔
    (first.decided? cache link limit none operations).map Ending.value? = some outcome
  /-- It decides for good. -/
  final : ∀ earlier later ending, operations = earlier ++ later →
    first.decided? cache link limit none earlier = some ending →
      first.decided? cache link limit none operations = some ending ∧
        (first.run operations).page.store.entry? cache link =
          some (Cell.settledPhase ending.value?) ∧
        (first.run earlier).fetches cache link later = 0
  /-- Nothing is given to anybody by a fetch that was given up. -/
  late : ∀ earlier operation later, operations = earlier ++ operation :: later →
    first.decided? cache link limit none earlier = some .expired →
    (first.run earlier).polls cache link operation = true →
      ((first.run earlier).perform operation).1.shown? = some []
  /-- An answer that arrives changes no entry, gives nobody a value, and begins no fetch. -/
  arrivals : ∀ earlier operation later, operations = earlier ++ operation :: later →
    operation.Releases →
      (first.run (earlier ++ [operation])).page.store.entry? =
          (first.run earlier).page.store.entry? ∧
        (first.run (earlier ++ [operation])).page.store.fetched =
          (first.run earlier).page.store.fetched ∧
        ((first.run earlier).perform operation).1.shown? = none

private theorem dated_start (started : start setup = .ok first) (timed : setup.timeout = some limit)
    (operations : List SessionOperation) (cache : Nat) (link : Link) :
    Dated limit ((first.run operations).page.store.entry? cache link)
      (first.firstPoll? cache link operations) := by
  obtain ⟨sound, -⟩ := spec_start started link
  have limited : first.page.store.timeout = some limit :=
    (congrArg Prod.fst (timing_start started [])).trans timed
  have unasked : Dated limit (first.page.store.entry? cache link) none := by
    rw [(entry?_start started cache link).1]
    exact .absent
  have later := dated_run sound limited unasked operations
  rw [Option.none_or] at later
  exact later

private theorem decided?_start (started : start setup = .ok first)
    (timed : setup.timeout = some limit)
    (operations : List SessionOperation) (cache : Nat) (link : Link) :
    first.decided? cache link limit none operations = first.ending? cache link operations := by
  obtain ⟨sound, -⟩ := spec_start started link
  have limited : first.page.store.timeout = some limit :=
    (congrArg Prod.fst (timing_start started [])).trans timed
  have agreed := decided?_eq sound limited (dated_start started timed [] cache link)
    (reflects_start started [] cache link) operations
  exact agreed

/-- A poll of an unsettled entry goes by the time of the first poll. -/
theorem decides_perform (started : start setup = .ok first) (timed : setup.timeout = some limit)
    (earlier : List SessionOperation)
    (polls : (first.run earlier).polls cache link operation = true)
    (unsettled : ∀ outcome, (first.run earlier).page.store.entry? cache link ≠
      some (Cell.settledPhase outcome)) :
    ∃ since next, first.firstPoll? cache link (earlier ++ [operation]) = some since ∧
      (first.run (earlier ++ [operation])).page.store.entry? cache link = some next ∧
      Decides limit since (first.run earlier).page.store.clock
        ((first.run earlier).answerNow? cache link) next := by
  obtain ⟨soundStart, -⟩ := spec_start started link
  obtain ⟨phase, next, found, reached, leaves⟩ := polled_entry (soundStart.run earlier) polls
  have dated := dated_start started timed earlier cache link
  rw [found] at dated unsettled
  have limited : (first.run earlier).page.store.timeout = some limit :=
    (congrArg Prod.fst (timing_start started earlier)).trans timed
  have decides := dated.decides (fun outcome same => unsettled outcome (congrArg some same))
    limited leaves
  rw [run_concat, firstPoll?_concat, polledAt?, polls, if_pos rfl, reached, answerNow?, found]
  generalize first.firstPoll? cache link earlier = since at decides
  exact ⟨since.getD _, next, by cases since <;> rfl, rfl, decides⟩

/-- Nothing that happens later undoes what a poll has found. -/
theorem decided_run (started : start setup = .ok first) (timed : setup.timeout = some limit)
    {earlier : List SessionOperation} {ending : Ending}
    (ended : first.decided? cache link limit none earlier = some ending)
    (later : List SessionOperation) :
    first.decided? cache link limit none (earlier ++ later) = some ending ∧
      (first.run (earlier ++ later)).page.store.entry? cache link =
        some (Cell.settledPhase ending.value?) ∧
      (first.run earlier).fetches cache link later = 0 := by
  obtain ⟨soundStart, -⟩ := spec_start started link
  have settled {operations : List SessionOperation}
      (ended : first.decided? cache link limit none operations = some ending) :
      (first.run operations).page.store.entry? cache link =
        some (Cell.settledPhase ending.value?) := by
    rw [decided?_start started timed] at ended
    refine ((reflects_start started operations cache link).settled_iff _).mpr ?_
    rw [ended]
    rfl
  have still : first.decided? cache link limit none (earlier ++ later) = some ending := by
    rw [decided?_append, ended, Option.some_or]
  exact ⟨still, settled still, fetches_of_begun (soundStart.run earlier)
    (begun_of_entry (settled ended) (Store.started_settledPhase _)) later⟩

/-- A poll of a fetch that is over without a value shows nothing. -/
theorem shown_completed (sound : session.Sound)
    (completed : session.page.store.entry? cache link = some .completed)
    (polls : session.polls cache link operation = true) :
    (session.perform operation).1.shown? = some [] := by
  obtain ⟨place, asks, held⟩ := polls_iff.mp polls
  rw [Store.entry?_of_placed held] at completed
  obtain ⟨shown, answered, given⟩ := (polled_perform sound asks completed).shown
  have nothing : shown = [] := by
    refine List.eq_nil_iff_forall_not_mem.mpr fun facts there => ?_
    obtain ⟨source, verdict, -⟩ := given facts there
    cases verdict
  rw [answered, nothing]

/-- A fetch is given up by the first poll that finds no answer after its time is up, for good. -/
theorem keeps_time (started : start setup = .ok first) (timed : setup.timeout = some limit)
    (operations : List SessionOperation) (cache : Nat) (link : Link) :
    KeepsTime limit first operations cache link where
  clock := congrArg Prod.snd (timing_start started operations)
  dormant := by
    have dated := dated_start started timed operations cache link
    generalize first.firstPoll? cache link operations = since at dated
    unfold Store.begun
    generalize (first.run operations).page.store.entry? cache link = entry at dated
    cases dated <;> simp [Store.started, Cell.ofPhase, Cell.stage]
  driven := by
    rintro earlier operation later - polls unsettled
    exact decides_perform started timed earlier polls unsettled
  decided outcome := by
    rw [decided?_start started timed]
    exact (reflects_start started operations cache link).settled_iff outcome
  final := by
    rintro earlier later ending rfl ended
    exact decided_run started timed ended later
  late := by
    rintro earlier operation later - expired polls
    obtain ⟨soundStart, -⟩ := spec_start started link
    have completed := (decided_run started timed expired []).2.1
    rw [List.append_nil] at completed
    exact shown_completed (soundStart.run earlier) completed polls
  arrivals := by
    rintro earlier operation later - releases
    rw [run_concat]
    exact arrives_perform releases

/-- A provider that holds the only link up at a gate, for ten milliseconds at most. -/
def hastySetup : SessionSetup := { gatedSetup with timeout := some 10 }

/-- The session that starts with this provider. -/
def hastySession : Session :=
  ⟨⟨.start (.scripted ⟨[(gatedLink, .gated 0)], [⟨.shut, false⟩], []⟩) (some 10), [], ⟨[]⟩, none⟩,
    [(firstCache, Page.cache)], [], [], [], [], [("g", 0)]⟩

/-- The link is watched long before it is polled, and the gate is opened too late. -/
def openedLate : List SessionOperation :=
  [.watch "c" "s" "https://x/", .advance 70, .poll "s" .silent, .advance 10,
    .watch "c" "t" "https://x/", .poll "t" .silent,
    .openGate "g" (Facts.ofList [("stars", "5")]), .poll "s" .silent]

theorem late_answer_ignored :
    start hastySetup = .ok hastySession ∧ hastySetup.timeout = some 10 ∧
      KeepsTime 10 hastySession openedLate Page.cache gatedLink ∧
      hastySession.firstPoll? Page.cache gatedLink openedLate = some 70 ∧
      hastySession.decided? Page.cache gatedLink 10 none (openedLate.take 5) = none ∧
      hastySession.decided? Page.cache gatedLink 10 none (openedLate.take 6) = some .expired ∧
      (hastySession.run openedLate).page.store.entry? Page.cache gatedLink = some .completed := by
  have started : start hastySetup = .ok hastySession := by cbv
  have first : hastySession.firstPoll? Page.cache gatedLink openedLate = some 70 := by cbv
  have waits : hastySession.decided? Page.cache gatedLink 10 none (openedLate.take 5) = none := by
    cbv
  have expired : hastySession.decided? Page.cache gatedLink 10 none (openedLate.take 6) =
      some .expired := by cbv
  have completed : (hastySession.run openedLate).page.store.entry? Page.cache gatedLink =
      some .completed := by cbv
  exact ⟨started, rfl, keeps_time started rfl openedLate Page.cache gatedLink, first, waits, expired,
    completed⟩

end Session
end LinkFacts
