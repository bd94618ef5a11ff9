import LinkFacts.Proofs.Cache.Watching

/-!
# How fetches end

A poll of a subscription finds what the provider says of the fetch at that moment, and whether the
time of the fetch is up.  This alone decides what the poll gives and what becomes of the fetch.
-/

namespace LinkFacts

open Replay (Cell Phase Stage Waker)

/-- How a fetch comes to its end. -/
inductive Ending where
  /-- The provider has answered. -/
  | answered (answer : Fetched)
  /-- The fetch was given up at its deadline. -/
  | expired

namespace Ending

/-- The value that a fetch leaves behind. -/
def value? : Ending → Option Source
  | answered answer => Store.sourceOf answer
  | expired => none

/-- A fetch leaves a value behind if it gave facts that are not empty, and these are the value. -/
theorem value?_eq_some_iff {ending : Ending} {source : Source} : ending.value? = some source ↔
    ∃ facts, ending = .answered (.ok facts) ∧ facts.isEmpty = false ∧ source.facts = facts := by
  constructor
  · intro found
    cases ending with
    | expired => cases found
    | answered answer =>
        cases answer with
        | error failure => cases found
        | ok facts =>
            simp only [value?, Store.sourceOf, Source.ofFacts?] at found
            split at found
            · next nonempty =>
              cases found
              exact ⟨facts, rfl, nonempty, rfl⟩
            · cases found
  · rintro ⟨facts, rfl, nonempty, same⟩
    cases source
    subst same
    simp [value?, Store.sourceOf, Source.ofFacts?, nonempty]

/-- A fetch leaves no value behind if it failed, gave no facts, or was given up. -/
theorem value?_eq_none_iff {ending : Ending} : ending.value? = none ↔
    (∃ failure, ending = .answered (.error failure)) ∨
      (∃ facts, ending = .answered (.ok facts) ∧ facts.isEmpty = true) ∨ ending = .expired := by
  cases ending with
  | expired => simp [value?]
  | answered answer =>
      cases answer with
      | error failure => simp [value?, Store.sourceOf]
      | ok facts => simp [value?, Store.sourceOf, Source.ofFacts?]

end Ending

namespace Store

variable {store : Store} {watch : Watch} {phase : FetchPhase} {task : FetchTask}
  {later : FetchPhase} {outcome : Option Source}

/-- What the provider says of a fetch that is polled now; nothing as long as the fetch waits. -/
def says? (store : Store) : FetchPhase → Option Fetched
  | .idle link =>
    match (store.provider.begin link).1 with
    | .answered answer => some answer
    | .waits _ => none
  | .parked task => store.provider.answer? task.gate
  | _ => none

/-- The deadline of a fetch that is polled now. -/
def deadline? (store : Store) : FetchPhase → Option Nat
  | .idle _ => store.timeout.map (store.clock + ·)
  | .parked task => task.deadline
  | _ => none

/-- How a fetch ends if it is polled now; an answer counts even if the time is up. -/
def ending? (store : Store) (phase : FetchPhase) : Option Ending :=
  match store.says? phase with
  | some answer => some (.answered answer)
  | none => if (store.deadline? phase).any (· ≤ store.clock) then some .expired else none

/-- The outcome that a poll finds, if there is one by then. -/
def verdict? (store : Store) : FetchPhase → Option (Option Source)
  | .resolved source => some (some source)
  | .completed => some none
  | phase => (store.ending? phase).map Ending.value?

/-- A fetch waits as this task once it was polled. -/
inductive Waits (store : Store) : FetchPhase → FetchTask → Prop
  | begun (link : Link) (gate : Nat) :
    Waits store (.idle link) ⟨link, gate, store.timeout.map (store.clock + ·)⟩
  | still (task : FetchTask) : Waits store (.parked task) task

/-- What a poll makes of a phase by the outcome that it finds. -/
inductive Leaves (store : Store) (phase : FetchPhase) : Option (Option Source) → FetchPhase → Prop
  | settled (outcome : Option Source) :
    Leaves store phase (some outcome) (Cell.settledPhase outcome)
  | waits {task : FetchTask} (waits : store.Waits phase task) :
    Leaves store phase none (.parked task)

/-- The phase of a fetch that may have to wait. -/
def phaseOf (task : FetchTask) : Option (Option Source) → FetchPhase
  | some outcome => Cell.settledPhase outcome
  | none => .parked task

/-- A poll of a subscription gives the outcome that it finds, and ends the subscription then. -/
structure Gives (store : Store) (watch : Watch) (later : FetchPhase)
    (verdict : Option (Option Source)) (polled : Poll Source × Watch × Store) : Prop where
  answers : polled.1 = answerOf verdict
  ends : polled.2.1 = { watch with done := verdict.isSome }
  phases : polled.2.2.phase? = Function.update store.phase? watch.place (some later)

private theorem Waits.leaves (waits : store.Waits phase task) (verdict : Option (Option Source)) :
    store.Leaves phase verdict (phaseOf task verdict) := by
  cases verdict with
  | none => exact .waits waits
  | some outcome => exact .settled outcome

private theorem answerOf_eq_item_iff {verdict : Option (Option Source)} {source : Source} :
    answerOf verdict = .item source ↔ verdict = some (some source) := by
  rcases verdict with _ | _ | value <;> simp [answerOf]

theorem verdict?_settledPhase (outcome : Option Source) :
    store.verdict? (Cell.settledPhase outcome) = some outcome := by
  cases outcome <;> rfl

/-- Elsewhere the store must be the same before; the polled computation may have been changed. -/
theorem Gives.rebase {middle : Store} {verdict : Option (Option Source)}
    {polled : Poll Source × Watch × Store} (gives : middle.Gives watch later verdict polled)
    (phases : ∀ place, place ≠ watch.place → middle.phase? place = store.phase? place) :
    store.Gives watch later verdict polled where
  answers := gives.answers
  ends := gives.ends
  phases := by
    funext place
    rw [gives.phases, Function.update_apply, Function.update_apply]
    split
    · rfl
    · next elsewhere => exact phases place elsewhere

private theorem gives_settle (found : store.phase? watch.place = some phase) (answer : Fetched) :
    store.Gives watch (Cell.settledPhase (sourceOf answer)) (some (sourceOf answer))
      (store.settle watch answer) where
  answers := settle_fst store watch answer
  ends := rfl
  phases := (sets_settle found answer).phases

/-- The outcome of a fetch that has no answer yet. -/
def verdictAt (store : Store) (deadline : Option Nat) : Option (Option Source) :=
  if deadline.any (· ≤ store.clock) then some none else none

private theorem gives_await (live : watch.done = false)
    (found : store.phase? watch.place = some phase) (task : FetchTask) :
    store.Gives watch (phaseOf task (store.verdictAt task.deadline))
      (store.verdictAt task.deadline) (store.await watch task) := by
  unfold await verdictAt
  split
  · exact gives_settle found (.error (.ofProblem .timeout))
  · refine ⟨rfl, ?_, phase?_modifyCell_of_sets found fun _ => rfl⟩
    cases watch
    cases live
    rfl

private theorem map_ending?_of_silent (silent : store.says? phase = none) :
    (store.ending? phase).map Ending.value? = store.verdictAt (store.deadline? phase) := by
  unfold ending?
  rw [silent]
  exact apply_ite (Option.map Ending.value?) _ _ _

private theorem gives_begin (live : watch.done = false)
    (found : store.phase? watch.place = some phase)
    (link : Link) : ∃ gate, let task := ⟨link, gate, store.timeout.map (store.clock + ·)⟩
      store.Gives watch (phaseOf task (store.verdict? (.idle link))) (store.verdict? (.idle link))
        (store.begin watch link) := by
  have kept : (store.asked link).phase? watch.place = some phase := found
  cases begun : (store.provider.begin link).1 with
  | answered answer =>
      have verdict : store.verdict? (.idle link) = some (sourceOf answer) := by
        simp [verdict?, ending?, says?, begun, Ending.value?]
      rw [begin_of_answered begun, verdict]
      exact ⟨0, (gives_settle kept answer).rebase fun _ _ => rfl⟩
  | waits gate =>
      have verdict : store.verdict? (.idle link) =
          store.verdictAt (store.timeout.map (store.clock + ·)) :=
        map_ending?_of_silent (by simp only [says?, begun])
      rw [begin_of_waits begun, verdict]
      exact ⟨gate, (gives_await live kept _).rebase fun _ _ => rfl⟩

private theorem gives_resume (live : watch.done = false)
    (found : store.phase? watch.place = some phase) (task : FetchTask) :
    store.Gives watch (phaseOf task (store.verdict? (.parked task)))
      (store.verdict? (.parked task)) (store.resume watch task) := by
  have kept : { store with provider := store.provider.polled }.phase? watch.place = some phase :=
    found
  unfold resume
  cases said : store.provider.answer? task.gate with
  | some answer =>
      have verdict : store.verdict? (.parked task) = some (sourceOf answer) := by
        simp [verdict?, ending?, says?, said, Ending.value?]
      rw [verdict]
      exact (gives_settle kept answer).rebase fun _ _ => rfl
  | none =>
      have verdict : store.verdict? (.parked task) = store.verdictAt task.deadline :=
        map_ending?_of_silent said
      rw [verdict]
      exact (gives_await live kept task).rebase fun _ _ => rfl

private theorem gives_replay (found : store.phase? watch.place = some (Cell.settledPhase outcome))
    (change : FetchCell → FetchCell)
    (keeps : ∀ cell, (change cell).phase = Cell.settledPhase outcome) :
    store.Gives watch (Cell.settledPhase outcome) (some outcome)
      ((store.modifyCell watch.place change).conclude watch outcome) where
  answers := by cases outcome <;> rfl
  ends := rfl
  phases := phase?_modifyCell_of_sets found keeps

/-- A poll gives what the provider says of the fetch at that moment. -/
theorem gives_poll (live : watch.done = false) (found : store.phase? watch.place = some phase)
    (calm : phase ≠ .driven) (waker : Waker) :
    ∃ later, store.Leaves phase (store.verdict? phase) later ∧
      store.Gives watch later (store.verdict? phase) (store.poll watch waker) := by
  obtain ⟨cell, here, rfl⟩ := Option.map_eq_some_iff.mp found
  -- a fetch is driven on a store that differs from the polled one at the place of the fetch only
  have elsewhere (change : FetchCell → FetchCell) (place : Nat) (other : place ≠ watch.place) :
      ((store.modifyCell watch.place change).modifyCell watch.place
        (·.prepare watch.id waker)).phase? place = store.phase? place := by
    rw [phase?_modifyCell, if_neg other, phase?_modifyCell, if_neg other]
  have driven : ((store.modifyCell watch.place fun _ => { cell with phase := .driven }).modifyCell
      watch.place (·.prepare watch.id waker)).phase? watch.place = some .driven := by
    simp [phase?, modifyCell, here, Cell.prepare, Cell.register]
  cases phased : cell.phase with
  | driven => exact absurd phased calm
  | idle link =>
      obtain ⟨gate, gives⟩ := gives_begin live driven link
      simp only [poll, live, here, Cell.approach, phased]
      exact ⟨_, (Waits.begun link gate).leaves _, gives.rebase (elsewhere _)⟩
  | parked task =>
      have gives := gives_resume live driven task
      simp only [poll, live, here, Cell.approach, phased]
      exact ⟨_, (Waits.still task).leaves _, gives.rebase (elsewhere _)⟩
  | resolved source =>
      have replayed : store.phase? watch.place = some (Cell.settledPhase (some source)) :=
        found.trans (congrArg some phased)
      simp only [poll, live, here, Cell.approach, phased]
      exact ⟨_, .settled (some source), gives_replay replayed _ fun _ => phased⟩
  | completed =>
      have replayed : store.phase? watch.place = some (Cell.settledPhase none) :=
        found.trans (congrArg some phased)
      simp only [poll, live, here, Cell.approach, phased]
      exact ⟨_, .settled none, gives_replay replayed _ fun _ => phased⟩

theorem poll_of_done (done : watch.done = true) (waker : Waker) :
    store.poll watch waker = (.ended, watch, store) := by
  simp [poll, done]

/-- A poll moves the fetch on by what the provider says; a value that it gives is the outcome. -/
theorem poll_leaves (holds : store.Holds watch) (found : store.phase? watch.place = some phase)
    (calm : phase ≠ .driven) (waker : Waker) :
    ∃ later, (store.poll watch waker).2.2.phase? watch.place = some later ∧
      store.Leaves phase (store.verdict? phase) later ∧
      ∀ source, (store.poll watch waker).1 = .item source →
        store.verdict? phase = some (some source) := by
  cases ends : watch.done with
  | true =>
      obtain ⟨settled, there, outcomes⟩ := holds
      obtain ⟨outcome, rfl⟩ := outcomes ends
      cases found.symm.trans there
      rw [poll_of_done ends, verdict?_settledPhase]
      exact ⟨_, there, .settled outcome, fun source item => by cases item⟩
  | false =>
      obtain ⟨later, leaves, gives⟩ := gives_poll ends found calm waker
      refine ⟨later, ?_, leaves, fun source item => ?_⟩
      · rw [gives.phases, Function.update_self]
      · exact answerOf_eq_item_iff.mp (gives.answers ▸ item)

/-- A value ends the subscription that gives it, and it is the value of the fetch. -/
theorem poll_item {source : Source} {waker : Waker} (holds : store.Holds watch)
    (calm : store.phase? watch.place ≠ some .driven)
    (item : (store.poll watch waker).1 = .item source) :
    watch.done = false ∧ (store.poll watch waker).2.1.done = true ∧
      (store.poll watch waker).2.2.phase? watch.place = some (.resolved source) := by
  cases ends : watch.done with
  | true => 
      rw [poll_of_done ends] at item
      cases item
  | false =>
      obtain ⟨phase, found, -⟩ := holds
      obtain ⟨later, leaves, gives⟩ :=
        gives_poll ends found (fun driven => calm (driven ▸ found)) waker
      rw [gives.answers] at item
      have verdict : store.verdict? phase = some (some source) := answerOf_eq_item_iff.mp item
      rw [verdict] at leaves gives
      cases leaves
      refine ⟨rfl, ?_, ?_⟩
      · rw [gives.ends]
        rfl
      · rw [gives.phases, Function.update_self]
        rfl

/-- A fetch that is over without a value has nothing to give, and nothing happens to it. -/
theorem poll_completed (found : store.phase? watch.place = some .completed) (waker : Waker) :
    (store.poll watch waker).1 = .ended ∧ (store.poll watch waker).2.2.phase? = store.phase? ∧
      (store.poll watch waker).2.2.provider = store.provider ∧
      (store.poll watch waker).2.2.fetched = store.fetched := by
  cases ends : watch.done with
  | true =>
      rw [poll_of_done ends]
      exact ⟨rfl, rfl, rfl, rfl⟩
  | false =>
      obtain ⟨cell, here, phased⟩ := Option.map_eq_some_iff.mp found
      have polled : store.poll watch waker = (store.modifyCell watch.place fun _ =>
          cell.unregister watch.id).conclude watch none := by
        simp only [poll, ends, here, Cell.approach, phased, Bool.false_eq_true, if_false]
      have finished : (cell.unregister watch.id).phase = .completed := phased
      have kept : (store.modifyCell watch.place fun _ => cell.unregister watch.id).phase? =
          store.phase? :=
        (phase?_modifyCell_of_sets found fun _ => finished).trans
          (Function.update_eq_self_iff.mpr found.symm)
      rw [polled]
      exact ⟨rfl, kept, rfl, rfl⟩

end Store
end LinkFacts
