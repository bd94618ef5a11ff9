import Mathlib
import LinkFacts.Proofs.Replay.Poll

/-!
# One run for all

A shared computation is started at most once, and it is polled as often as the polls of its
subscriptions say: once by a poll that starts or resumes it, never by any other, and never again
after it came to an end.
-/

namespace LinkFacts
namespace Replay

/-- A computation is started. -/
def Entry.starts : Entry → Bool
  | .started .. => true
  | _ => false

/-- The changes of a stage. -/
inductive Stage.Moves : Stage → Stage → Prop
  | start : Moves .idle .running
  | resolve : Moves .running .resolved
  | complete : Moves .running .completed

/-- What can be seen of a phase from outside. -/
def Phase.stage (phase : Phase Factory Future String) : Stage := (Cell.ofPhase phase).stage

private theorem stage_settledPhase (outcome : Option String) :
    Stage.running.Moves (Cell.settledPhase outcome : Phase Factory Future String).stage := by
  cases outcome
  · exact .complete
  · exact .resolve

/-- Every start of a computation follows the beginning of a poll. -/
def StartsAsked (place : Nat) (history : List Entry) : Prop :=
  ∀ later announced earlier, history = later ++ .started place announced :: earlier →
    ∃ id waker before, earlier = .asked place id waker :: before

private theorem StartsAsked.cons {place : Nat} {entry : Entry} {history : List Entry}
    (asked : StartsAsked place history)
    (first : ∀ announced, entry = .started place announced →
      ∃ id waker before, history = .asked place id waker :: before) :
    StartsAsked place (entry :: history) := by
  intro later announced earlier split
  cases later with
  | nil =>
      rw [List.nil_append, List.cons.injEq] at split
      exact split.2 ▸ first announced split.1
  | cons other later =>
      rw [List.cons_append, List.cons.injEq] at split
      exact asked later announced earlier split.2

private theorem StartsAsked.grows {place : Nat} {earlier later : List Entry}
    (asked : StartsAsked place earlier) (grows : Grows (Entry.runs place) earlier later) :
    StartsAsked place later := by
  obtain ⟨news, rfl, quiet⟩ := grows
  induction news with
  | nil => exact asked
  | cons entry news ih =>
      refine (ih fun other member => quiet other (List.mem_cons_of_mem _ member)).cons ?_
      rintro announced rfl
      simpa [Entry.runs] using quiet _ List.mem_cons_self

namespace View

/-- A computation was started at most once, and not at all while it is idle. -/
structure StartedOnce (place : Nat) (view : View) : Prop where
  fresh : ∀ factory, view.phase? = some (.idle factory) → view.runs place = []
  once : (view.runs place).countP Entry.starts ≤ 1
  asked : StartsAsked place view.history

namespace StartedOnce

variable {place : Nat} {view changed : View}

private theorem still (started : StartedOnce place view)
    (grows : Grows (Entry.runs place) view.history changed.history)
    (idle : ∀ factory, changed.phase? = some (.idle factory) → view.phase? = some (.idle factory)) :
    StartedOnce place changed := by
  have same : changed.runs place = view.runs place := grows.filter_eq
  refine ⟨fun factory phase => ?_, ?_, started.asked.grows grows⟩
  · rw [same]
    exact started.fresh factory (idle factory phase)
  · rw [same]
    exact started.once

private theorem polled (started : StartedOnce place view) {count : Nat}
    (history : changed.history = .polled place count :: view.history)
    (idle : ∀ factory, changed.phase? ≠ some (.idle factory)) : StartedOnce place changed := by
  have runs : changed.runs place = .polled place count :: view.runs place := by
    simp [View.runs, history, Entry.runs]
  refine ⟨fun factory phase => absurd phase (idle factory), ?_, ?_⟩
  · rw [runs, List.countP_cons_of_neg (by simp [Entry.starts])]
    exact started.once
  · rw [history]
    exact started.asked.cons (by simp)

private theorem kept (place : Nat) : Kept place (StartedOnce place) where
  touch {operation view changed} sound started touched := by
    cases touched.effect with
    | still grows frames phase => exact started.still grows fun factory idle => phase ▸ idle
    | made missing grows makes phase =>
        have nothing : view.runs place = [] := by
          cases found : view.cell with
          | some cell => simp [View.phase?, found] at missing
          | none =>
              refine List.filter_eq_nil_iff.mpr fun entry member => ?_
              rw [(sound.blank found).2.2 entry member]
              exact Bool.false_ne_true
        have same : changed.runs place = [] := grows.filter_eq.trans nothing
        exact ⟨fun _ _ => same, by simp [same], started.asked.grows grows⟩
    | @started driver factory polls idle phase history =>
        have runs : changed.runs place =
            .started place factory.announced :: view.runs place := by
          simp [View.runs, history, Entry.runs]
        rw [started.fresh factory idle] at runs
        refine ⟨fun _ other => (by cases phase.symm.trans other), by simp [runs, Entry.starts], ?_⟩
        have asked : StartsAsked place (.asked place driver.id driver.waker :: view.history) :=
          started.asked.cons (by simp)
        exact history ▸ asked.cons fun _ _ => ⟨_, _, _, rfl⟩
    | @resumed driver future polls parked phase history =>
        have asked : StartedOnce place
            { view with history := .asked place driver.id driver.waker :: view.history } :=
          started.still ((Grows.refl ..).cons rfl) fun _ idle => idle
        exact asked.polled history fun _ idle => by cases phase.symm.trans idle
  drive sound started driven := by
    obtain ⟨-, progress⟩ := driven.progress sound
    cases progress with
    | still goes grows phase =>
        exact started.still grows fun _ idle => by cases phase.symm.trans idle
    | entered goes phase history =>
        exact started.polled history fun _ idle => by cases phase.symm.trans idle
    | parked goes grows phase =>
        exact started.still grows fun _ idle => by cases phase.symm.trans idle
    | @ended outcome grows ends phase =>
        refine started.still grows fun _ idle => ?_
        cases outcome <;> cases phase.symm.trans idle

end StartedOnce

/-- A computation has its outcome, and was run this often. -/
def Over (place : Nat) (outcome : Option String) (runs : List Entry) (view : View) : Prop :=
  view.phase? = some (Cell.settledPhase outcome) ∧ view.runs place = runs

/-- What is over stays as it is. -/
theorem Over.kept (place : Nat) (outcome : Option String) (runs : List Entry) :
    Kept place (Over place outcome runs) where
  touch sound settled_before touched := by
    obtain ⟨settled, same_runs⟩ := settled_before
    cases touched.effect with
    | still grows frames phase => exact ⟨phase.trans settled, grows.filter_eq.trans same_runs⟩
    | made missing => cases missing.symm.trans settled
    | started polls idle => cases outcome <;> cases idle.symm.trans settled
    | resumed polls parked => cases outcome <;> cases parked.symm.trans settled
  drive sound settled_before driven := by
    have phase := (driven.progress sound).1.symm.trans settled_before.1
    cases outcome <;> cases phase

/-- Operations only start a computation that is idle. -/
theorem stage_of_touches {operation : Operation} {place : Nat} {view changed : View}
    {phase : Phase Factory Future String} (found : view.phase? = some phase)
    (touched : Touches operation place view changed) :
    ∃ later, changed.phase? = some later ∧
      (later.stage = phase.stage ∨ phase.stage = .idle ∧ later.stage = .running) := by
  induction touched with
  | refl => exact ⟨phase, found, .inl rfl⟩
  | tail _ touch ih =>
      obtain ⟨earlier, earlier_found, moved⟩ := ih
      cases touch.effect with
      | still grows frames same => exact ⟨earlier, same.trans earlier_found, moved⟩
      | made missing => cases missing.symm.trans earlier_found
      | @started driver factory polls idle driven history =>
          cases idle.symm.trans earlier_found
          refine ⟨.driven, driven, .inr ⟨?_, rfl⟩⟩
          rcases moved with same | ⟨_, running⟩
          · exact same.symm
          · cases running
      | @resumed driver future polls parked driven history =>
          cases parked.symm.trans earlier_found
          exact ⟨.driven, driven, moved⟩

/-- An operation that is no poll leaves the phase and the runs of every computation alone. -/
theorem still_of_touches {operation : Operation} {place : Nat} {view changed : View}
    {phase : Phase Factory Future String} (other : operation.poll? = none)
    (found : view.phase? = some phase) (touched : Touches operation place view changed) :
    changed.phase? = some phase ∧ changed.runs place = view.runs place := by
  induction touched with
  | refl => exact ⟨found, rfl⟩
  | tail _ touch ih =>
      obtain ⟨earlier_found, same_runs⟩ := ih
      cases touch.effect with
      | still grows frames same =>
          exact ⟨same.trans earlier_found, grows.filter_eq.trans same_runs⟩
      | made missing => cases missing.symm.trans earlier_found
      | started polls => cases other.symm.trans polls
      | resumed polls => cases other.symm.trans polls

end View

namespace Machine

open View

variable {machine after : Machine} {place : Nat}

/-- What can be seen of a computation from outside. -/
def stage? (machine : Machine) (place : Nat) : Option Stage :=
  (machine.cell? place).map Cell.stage

theorem stage?_eq (machine : Machine) (place : Nat) :
    machine.stage? place = (machine.phase? place).map Phase.stage := by
  unfold stage? phase?
  rw [Option.map_map]
  rfl

private theorem Reachable.next_stage (reach : machine.Reachable) (next : machine.Next after)
    {stage : Stage} (found : machine.stage? place = some stage) :
    ∃ later, after.stage? place = some later ∧ (later = stage ∨ stage.Moves later) := by
  rw [stage?_eq, Option.map_eq_some_iff] at found
  obtain ⟨phase, phase_found, rfl⟩ := found
  have viewed : (machine.view place).phase? = some phase := phase_found
  obtain ⟨operation, view, -, same | ⟨-, driven⟩, touched⟩ := next_view reach reach.sound next place
  · subst same
    obtain ⟨later, later_found, moved⟩ := stage_of_touches viewed touched
    refine ⟨later.stage, by rw [stage?_eq, ← phase?_view, later_found]; rfl, ?_⟩
    rcases moved with same | ⟨idle, running⟩
    · exact .inl same
    · exact .inr (idle ▸ running ▸ .start)
  · obtain ⟨was_driven, progress⟩ := driven.progress (reach.sound place)
    cases was_driven.symm.trans viewed
    have moves : ∃ later, view.phase? = some later ∧
        (later.stage = .running ∨ Stage.running.Moves later.stage) := by
      cases progress with
      | still goes grows phase => exact ⟨_, phase, .inl rfl⟩
      | entered goes phase history => exact ⟨_, phase, .inl rfl⟩
      | parked goes grows phase => exact ⟨_, phase, .inl rfl⟩
      | ended grows ends phase => exact ⟨_, phase, .inr (stage_settledPhase _)⟩
    obtain ⟨middle, middle_found, moved⟩ := moves
    obtain ⟨later, later_found, same | ⟨idle, -⟩⟩ := stage_of_touches middle_found touched
    · refine ⟨later.stage, by rw [stage?_eq, ← phase?_view, later_found]; rfl, ?_⟩
      exact same ▸ moved
    · rw [idle] at moved
      obtain same | moves := moved
      · cases same
      · cases moves

/-- A computation that is over stays as it is. -/
theorem Reachable.stays (reach : machine.Reachable) (later : machine.Reaches after)
    {outcome : Option String} (found : machine.phase? place = some (Cell.settledPhase outcome)) :
    after.phase? place = some (Cell.settledPhase outcome) ∧
      after.runs place = machine.runs place := by
  have settled_after := reach.keeps later (Over.kept place outcome (machine.runs place))
    ⟨found, machine.runs_view place⟩
  exact ⟨settled_after.1, (after.runs_view place).symm.trans settled_after.2⟩

theorem driver_of_verdict? {outcome : Outcome} (ends : machine.verdict? = some (place, outcome)) :
    ∃ driver work below, machine.frames = ⟨driver, work⟩ :: below ∧ driver.cell = place := by
  unfold verdict? at ends
  split at ends
  · next top => exact ⟨_, _, _, top, congrArg Prod.fst (Option.some.inj ends)⟩
  · next top => exact ⟨_, _, _, top, congrArg Prod.fst (Option.some.inj ends)⟩
  · next top => exact ⟨_, _, _, top, congrArg Prod.fst (Option.some.inj ends)⟩
  · next top =>
    obtain ⟨opened, -, same⟩ := Option.map_eq_some_iff.mp ends
    exact ⟨_, _, _, top, congrArg Prod.fst same⟩
  · cases ends

/-- A verdict ends a computation for good. -/
theorem Reachable.verdict (reach : machine.Reachable) {outcome : Outcome}
    (ends : machine.verdict? = some (place, outcome)) :
    ∃ value, (outcome = .ready value ∨ value = none ∧ ∃ message, outcome = .panicked message) ∧
      machine.step.phase? place = some (Cell.settledPhase value) ∧
      machine.step.runs place = machine.runs place := by
  obtain ⟨driver, work, below, top, rfl⟩ := driver_of_verdict? ends
  have framed : ⟨driver, work⟩ ∈ machine.frames := by simp [top]
  obtain ⟨cell, found, -⟩ := reach.driven framed
  obtain ⟨operation, view, -, driven, touched⟩ := machine.step_drives top found
  have sound := reach.sound driver.cell
  obtain ⟨-, progress⟩ := driven.progress sound
  cases progress with
  | still goes => cases goes.symm.trans ends
  | entered goes => cases goes.symm.trans ends
  | parked goes => cases goes.symm.trans ends
  | @ended value grows ruled phase =>
      have settled_view : Over driver.cell value (machine.runs driver.cell) view :=
        ⟨phase, grows.filter_eq.trans (machine.runs_view driver.cell)⟩
      obtain ⟨-, settled, same_runs⟩ :=
        (Over.kept ..).touches (sound.drive driven) settled_view touched
      refine ⟨value, ?_, settled, (machine.step.runs_view driver.cell).symm.trans same_runs⟩
      rw [ends] at ruled
      rcases ruled with ready | ⟨rfl, message, panicked⟩
      · cases ready
        exact .inl rfl
      · cases panicked
        exact .inr ⟨rfl, message, rfl⟩

private theorem Reachable.startedOnce (reach : machine.Reachable) (place : Nat) :
    StartedOnce place (machine.view place) := by
  refine reach.invariant (StartedOnce.kept place) ⟨fun _ => (by rintro ⟨⟩), Nat.zero_le 1, ?_⟩
  simp [StartsAsked, view, initial]

/-- However often a subscription is polled, its computation is run as its phase demands. -/
theorem Begins.runs_of_poll {operation : Operation} {request : Request} {name : String}
    {waker : Waker} {subscription : Subscription} (begins : machine.Begins operation)
    (polls : operation.poll? = some (request, name, waker))
    (held : machine.subscriptions.lookup name = some subscription)
    (here : subscription.cell = place) :
    ∃ phase, machine.phase? place = some phase ∧
      (machine.complete operation).runs place =
        (if subscription.done then [] else phase.runs place) ++ machine.runs place := by
  have trivially : Kept place fun _ => True := ⟨fun _ _ _ => trivial, fun _ _ _ => trivial⟩
  have sound := (begins.invariant trivially trivial).1
  have named : (machine.view place).named name = some subscription := by simp [view, held, here]
  obtain ⟨cell, found⟩ := sound.found_of_named named
  have phase_found : machine.phase? place = some cell.phase := by
    rw [← phase?_view, View.phase?, found]
    rfl
  have fits := sound.fits name subscription named
  obtain ⟨home, id, done, busy⟩ := subscription
  subst here
  cases busy with
  | true =>
      have open_still : done = false := fits.open_of_busy rfl
      obtain ⟨frame, member, -⟩ := fits.busy.mp rfl
      obtain ⟨top, below, top_eq⟩ := List.exists_cons_of_ne_nil (List.ne_nil_of_mem member)
      obtain ⟨-, other, other_found, driven⟩ := sound.found_of_frame top_eq
      cases found.symm.trans other_found
      refine ⟨cell.phase, phase_found, ?_⟩
      rw [complete_busy machine polls held rfl, runs_reply]
      simp [driven, Phase.runs, open_still]
  | false =>
      cases done with
      | true =>
          refine ⟨cell.phase, phase_found, ?_⟩
          rw [complete_done machine polls held, runs_conclude]
          rfl
      | false =>
          obtain ⟨before, outcome, after, polled⟩ := begins.polled machine polls held
          exact ⟨before, polled.found, polled.runs⟩

/-- What it means that a computation runs once for all. -/
structure RunsOnce (place : Nat) : Prop where
  /-- It is started at most once. -/
  started_once : ∀ machine : Machine, machine.Reachable →
    (machine.runs place).countP Entry.starts ≤ 1
  /-- It is started when a subscription that is not done has just begun a poll. -/
  started_by_poll : ∀ machine : Machine, machine.Reachable →
    StartsAsked place (machine.view place).history
  /-- A poll runs it as its phase demands, and not at all if the subscription is done. -/
  runs_of_poll : ∀ (machine : Machine) operation request name waker subscription phase,
    machine.Begins operation → operation.poll? = some (request, name, waker) →
    machine.subscriptions.lookup name = some subscription → subscription.cell = place →
    machine.phase? place = some phase →
    (machine.complete operation).runs place =
      (if subscription.done then [] else phase.runs place) ++ machine.runs place
  /-- Its polls are never nested. -/
  not_nested : ∀ machine : Machine, machine.Reachable →
    (machine.frames.filter (·.driver.cell = place)).length ≤ 1
  /-- Once it gave an outcome or panicked it is never run again. -/
  never_again : ∀ (machine after : Machine) outcome, machine.Reachable →
    machine.verdict? = some (place, outcome) → machine.step.Reaches after →
    after.runs place = machine.runs place
  /-- With every transition its stage stays or moves on. -/
  stage_moves : ∀ (machine after : Machine) stage, machine.Reachable → machine.Next after →
    machine.stage? place = some stage →
    ∃ later, after.stage? place = some later ∧ (later = stage ∨ stage.Moves later)
  /-- Its outcome never changes. -/
  outcome_stays : ∀ (machine after : Machine) outcome, machine.Reachable →
    machine.Reaches after → machine.phase? place = some (Cell.settledPhase outcome) →
    after.phase? place = some (Cell.settledPhase outcome)
  /-- Operations that are no polls leave it alone. -/
  only_polls : ∀ (machine : Machine) operation phase, operation.poll? = none →
    machine.phase? place = some phase →
    (machine.complete operation).phase? place = some phase ∧
      (machine.complete operation).runs place = machine.runs place

/-- Every shared computation runs once, however its subscriptions are polled. -/
theorem runs_once (place : Nat) : RunsOnce place where
  started_once machine reach := machine.runs_view place ▸ (reach.startedOnce place).once
  started_by_poll machine reach := (reach.startedOnce place).asked
  runs_of_poll machine operation request name waker subscription phase begins polls held here
      found := by
    obtain ⟨other, other_found, runs⟩ := begins.runs_of_poll polls held here
    cases found.symm.trans other_found
    exact runs
  not_nested machine reach := by
    have framed : (machine.view place).frames.length ≤ 1 := by
      cases frames : (machine.view place).frames with
      | nil => exact Nat.zero_le 1
      | cons frame below =>
          obtain ⟨rfl, -⟩ := (reach.sound place).found_of_frame frames
          exact Nat.le_refl 1
    exact framed
  never_again machine after outcome reach ends later := by
    obtain ⟨driver, work, below, top, -⟩ := driver_of_verdict? ends
    obtain ⟨value, -, settled, same_runs⟩ := reach.verdict ends
    have reach_step : machine.step.Reachable := reach.tail (.step (by simp [top]))
    exact (reach_step.stays later settled).2.trans same_runs
  stage_moves machine after stage reach next found := reach.next_stage next found
  outcome_stays machine after outcome reach later found := (reach.stays later found).1
  only_polls machine operation phase other found := by
    rw [complete_of_frames machine (machine.frames_start_of_poll? other)]
    have viewed : (machine.view place).phase? = some phase := found
    have still := still_of_touches other viewed (machine.start_touches place operation)
    rw [runs_view, runs_view] at still
    exact still

/-- A factory polls another subscription of the computation that it starts. -/
def startedTwice : List Operation :=
  [.createLazy "r" [.poll "t" .silent] none [[.ready (some "v")]], .subscribe "r" "s",
    .subscribe "r" "t"]

theorem nested_poll_runs_nothing :
    ({ initial.run startedTwice with answer := none }.complete (.poll "s" .silent)).runs 0 =
      [.polled 0 0, .started 0 true] := by
  obtain ⟨reach, idle⟩ := reachable_run .refl rfl startedTwice
  have held : (initial.run startedTwice).subscriptions.lookup "s" =
      some ⟨0, 0, false, false⟩ := by cbv
  have phase : (initial.run startedTwice).phase? 0 =
      some (.idle ⟨true, [.poll "t" .silent], none, ⟨0, [[.ready (some "v")]]⟩⟩) := by cbv
  have nothing : (initial.run startedTwice).runs 0 = [] := by cbv
  have runs := (runs_once 0).runs_of_poll _ _ _ _ _ _ _ (.outside reach idle (.poll "s" .silent))
    rfl held rfl phase
  exact runs.trans (congrArg _ nothing)

end Machine
end Replay
end LinkFacts
