import LinkFacts.Proofs.Replay.Effect

/-!
# Whole polls

What a poll comes to when it is run to its end: what it answers, how often it starts or polls the
computation, and what it leaves behind.  Whatever else happens in the meantime, among it other polls
of the same computation, is run within the steps of the poll.
-/

namespace LinkFacts
namespace Replay

open Naming

/-- What a poll in progress will note of its computation when it goes on: that it polls it, once its
factory has come to an end. -/
def Work.runs (place : Nat) : Work → List Entry
  | .starting _ none future => [.polled place future.count]
  | .starting _ (some _) _ => []
  | .polling .. => []

private theorem Work.Played.runs {work later : Work} (played : work.Played later) (place : Nat) :
    later.runs place = work.runs place := by
  cases played with
  | starting operation operations panics future => cases panics <;> rfl
  | polling action actions rest => rfl

/-- What a poll notes of a computation in a phase: that it starts it, and that it polls it. -/
def Phase.runs (place : Nat) : Phase Factory Future String → List Entry
  | .idle ⟨announced, _, none, future⟩ =>
    [.polled place future.count, .started place announced]
  | .idle ⟨announced, _, some _, _⟩ => [.started place announced]
  | .parked future => [.polled place future.count]
  | _ => []

/-- What a poll of a subscription that is not done comes to, by the phases of the computation before
and after it. -/
inductive Answers : Phase Factory Future String → Outcome → Phase Factory Future String → Prop
  | replayed (outcome : Option String) :
      Answers (Cell.settledPhase outcome) (.ready outcome) (Cell.settledPhase outcome)
  | waited : Answers .driven .pending .driven
  | started {factory : Factory} {outcome : Outcome} {after : Phase Factory Future String}
      (leaves : outcome.Leaves after) : Answers (.idle factory) outcome after
  | resumed {future : Future} {outcome : Outcome} {after : Phase Factory Future String}
      (leaves : outcome.Leaves after) : Answers (.parked future) outcome after

namespace View

/-- A poll of a computation is in progress, and so far the computation was run this often. -/
structure Driven (place : Nat) (frames : List Frame) (runs : List Entry) (view : View) : Prop where
  phase : view.phase? = some .driven
  frames : view.frames = frames
  runs : view.runs place = runs

/-- No operation drives a computation that is driven already. -/
theorem Driven.touch {operation : Operation} {place : Nat} {frames : List Frame}
    {runs : List Entry} {view changed : View} (driven : Driven place frames runs view)
    (touch : Touch operation place view changed) : Driven place frames runs changed := by
  obtain ⟨phase, same_frames, same_runs⟩ := driven
  cases touch.effect with
  | still grows frames same_phase =>
      exact ⟨same_phase.trans phase, frames.trans same_frames, grows.filter_eq.trans same_runs⟩
  | made missing => cases missing.symm.trans phase
  | started polls idle => cases idle.symm.trans phase
  | resumed polls parked => cases parked.symm.trans phase

private theorem Driven.touches {operation : Operation} {place : Nat} {frames : List Frame}
    {runs : List Entry} {view changed : View} (driven : Driven place frames runs view)
    (touches : Touches operation place view changed) : Driven place frames runs changed := by
  induction touches with
  | refl => exact driven
  | tail _ touched ih => exact ih.touch touched

end View

namespace Machine

variable (machine : Machine)

section Frames

@[simp]
theorem frames_note (entry : Entry) : (machine.note entry).frames = machine.frames := rfl

@[simp]
theorem frames_modifyCell (place : Nat) (change : ScriptCell → ScriptCell) :
    (machine.modifyCell place change).frames = machine.frames := rfl

@[simp]
theorem frames_noteWakes (place : Nat) (waiting : List (Nat × Waker)) :
    (machine.noteWakes place waiting).frames = machine.frames := rfl

@[simp]
theorem frames_addCell (handle : String) (cell : ScriptCell) :
    (machine.addCell handle cell).frames = machine.frames := rfl

@[simp]
theorem frames_notify (place : Nat) : (machine.notify place).frames = machine.frames := by
  unfold notify
  split <;> rfl

@[simp]
theorem frames_wakeCell (place : Nat) : (machine.wakeCell place).frames = machine.frames :=
  frames_notify _ _

@[simp]
theorem frames_reply (operation : Operation) (answer : Answer) :
    (machine.reply operation answer).frames = machine.frames := by
  unfold reply
  split <;> rfl

@[simp]
theorem frames_dropSubscription (name : String) :
    (machine.dropSubscription name).frames = machine.frames := by
  unfold dropSubscription
  split <;> rfl

@[simp]
theorem frames_modifySubscription (name : String) (change : Subscription → Subscription) :
    (machine.modifySubscription name change).frames = machine.frames := by
  unfold modifySubscription
  split <;> rfl

@[simp]
theorem frames_release (driver : Driver) (outcome : Outcome) :
    (machine.release driver outcome).frames = machine.frames := by
  unfold release
  split
  · split <;> simp
  · rfl

@[simp]
theorem frames_conclude (driver : Driver) (outcome : Outcome) :
    (machine.conclude driver outcome).frames = machine.frames := by simp [conclude]

@[simp]
theorem frames_finish (driver : Driver) (outcome : Outcome) :
    (machine.finish driver outcome).frames = machine.frames := by simp [finish]

@[simp]
theorem frames_freeName (name : String) : (machine.freeName name).frames = machine.frames := by
  unfold freeName
  split
  · split <;> simp
  · rfl

@[simp]
theorem frames_wakeKept (name : String) : (machine.wakeKept name).frames = machine.frames := by
  unfold wakeKept
  split <;> simp

@[simp]
theorem frames_inspect (operation : Operation) (handle : String) (question : ScriptCell → Answer) :
    (machine.inspect operation handle question).frames = machine.frames := by
  unfold inspect
  split <;> simp

@[simp]
theorem frames_inspectSubscription (operation : Operation) (name : String)
    (question : Subscription → Answer) :
    (machine.inspectSubscription operation name question).frames = machine.frames := by
  unfold inspectSubscription
  split <;> simp

@[simp]
theorem frames_subscribe (handle name : String) :
    (machine.subscribe handle name).frames = machine.frames := by
  unfold subscribe
  split
  · simp
  · split <;> simp

private theorem frames_approach (driver : Driver) (cell : ScriptCell) :
    (machine.approach driver cell).frames = machine.frames ∨
      ∃ work, (machine.approach driver cell).frames = ⟨driver, work⟩ :: machine.frames := by
  unfold approach Cell.approach
  cases cell.phase with
  | idle factory => exact .inr ⟨_, rfl⟩
  | parked future => exact .inr ⟨_, rfl⟩
  | driven => simp
  | resolved value => simp
  | completed => simp

private theorem frames_poll (request : Request) (name : String) (waker : Waker) :
    (machine.poll request name waker).frames = machine.frames ∨
      ∃ frame, (machine.poll request name waker).frames = frame :: machine.frames := by
  unfold poll
  split
  · simp
  · split
    · simp
    · split
      · simp
      · split
        · exact (machine.frames_approach _ _).imp_right fun ⟨work, pushed⟩ => ⟨_, pushed⟩
        · simp

theorem start_of_poll? {operation : Operation} {request : Request} {name : String}
    {waker : Waker} (polls : operation.poll? = some (request, name, waker)) :
    machine.start operation = machine.poll request name waker := by
  cases operation <;> cases polls <;> rfl

theorem frames_start_of_poll? {operation : Operation} (other : operation.poll? = none) :
    (machine.start operation).frames = machine.frames := by
  cases operation with
  | poll => cases other
  | value => cases other
  | collect => cases other
  | clone handle target => simp only [start]; split <;> simp
  | same left right => simp only [start]; split <;> simp
  | drop name =>
      simp only [start]
      split
      · split <;> simp
      · simp
  | wake name => simp only [start]; split <;> simp
  | _ => simp [start]

/-- An operation leaves the polls in progress alone; it may begin another one. -/
theorem frames_start (operation : Operation) :
    (machine.start operation).frames = machine.frames ∨
      ∃ frame, (machine.start operation).frames = frame :: machine.frames := by
  cases polls : operation.poll? with
  | none => exact .inl (machine.frames_start_of_poll? polls)
  | some poll => exact machine.start_of_poll? polls ▸ machine.frames_poll _ _ _

end Frames

section Answers

theorem lastAnswer?_reply (operation : Operation) (answer : Answer) :
    (machine.reply operation answer).lastAnswer? = some answer := by
  unfold reply
  split
  · next quiet => simp [lastAnswer?, quiet]
  · next busy => simp [lastAnswer?, note, busy]

theorem lastAnswer?_finish (driver : Driver) (outcome : Outcome) :
    (machine.finish driver outcome).lastAnswer? =
      some (Request.answer driver.request outcome) :=
  lastAnswer?_reply _ _ _

end Answers

section Phases

variable (place : Nat)

@[simp]
theorem phase?_reply (operation : Operation) (answer : Answer) :
    (machine.reply operation answer).phase? place = machine.phase? place := by
  unfold reply
  split <;> rfl

private theorem phase?_modifyCell (other : Nat) {change : ScriptCell → ScriptCell}
    (keeps : ∀ cell, (change cell).phase = cell.phase) :
    (machine.modifyCell other change).phase? place = machine.phase? place := by
  unfold phase? cell? modifyCell
  rw [List.getElem?_modify]
  cases machine.cells[place]? with
  | none => rfl
  | some cell =>
      simp only [Option.map_eq_map, Option.map_some, Option.some.injEq]
      split
      · exact keeps cell
      · rfl

private theorem phase?_conclude (driver : Driver) (outcome : Outcome) :
    (machine.conclude driver outcome).phase? place = machine.phase? place := by
  unfold conclude
  rw [phase?_reply]
  unfold release
  split
  · split
    · unfold modifySubscription
      split <;> rfl
    · unfold dropSubscription
      split
      · exact phase?_modifyCell _ _ _ fun _ => rfl
      · rfl
  · exact phase?_modifyCell _ _ _ fun _ => rfl

@[simp]
theorem phase?_finish (driver : Driver) (outcome : Outcome) :
    (machine.finish driver outcome).phase? place = machine.phase? place :=
  phase?_conclude _ _ _ _

end Phases

section Runs

variable (place : Nat)

private theorem runs_note (entry : Entry) :
    (machine.note entry).runs place =
      if entry.runs place then entry :: machine.runs place else machine.runs place := by
  rw [runs, note, List.filter_cons]
  rfl

@[simp]
theorem runs_modifyCell (other : Nat) (change : ScriptCell → ScriptCell) :
    (machine.modifyCell other change).runs place = machine.runs place := rfl

@[simp]
theorem runs_push (driver : Driver) (work : Work) :
    (machine.push driver work).runs place = machine.runs place := by
  have marked (name : String) (change : Subscription → Subscription) :
      (machine.modifySubscription name change).journal = machine.journal := by
    unfold modifySubscription
    split <;> rfl
  exact congrArg (·.filter (·.runs place)) (marked _ _)

@[simp]
theorem runs_reply (operation : Operation) (answer : Answer) :
    (machine.reply operation answer).runs place = machine.runs place := by
  unfold reply
  split <;> rfl

theorem runs_conclude (driver : Driver) (outcome : Outcome) :
    (machine.conclude driver outcome).runs place = machine.runs place := by
  unfold conclude
  rw [runs_reply]
  unfold release
  split
  · split
    · unfold modifySubscription
      split <;> rfl
    · unfold dropSubscription
      split <;> rfl
  · rfl

@[simp]
theorem runs_finish (driver : Driver) (outcome : Outcome) :
    (machine.finish driver outcome).runs place = machine.runs place :=
  runs_conclude _ _ _ _

private theorem runs_noteWakes (other : Nat) (waiting : List (Nat × Waker)) :
    (machine.noteWakes other waiting).runs place = machine.runs place := by
  exact ((Grows.refl (Entry.runs place) machine.journal).woke other
    (fun _ _ => rfl) waiting.reverse).filter_eq

private theorem runs_notify (other : Nat) :
    (machine.notify other).runs place = machine.runs place := by
  unfold notify
  split
  · exact machine.runs_noteWakes place other _
  · rfl

end Runs

section Ends

variable {driver : Driver} {cell : ScriptCell}

/-- A poll has come to its end. -/
structure Ended (machine after : Machine) (driver : Driver) (outcome : Outcome) : Prop where
  frames : after.frames = machine.frames
  answer : after.lastAnswer? = some (Request.answer driver.request outcome)
  runs : after.runs driver.cell = machine.runs driver.cell
  leaves : ∃ phase, after.phase? driver.cell = some phase ∧ outcome.Leaves phase

private theorem phase?_modifyCell_self (change : ScriptCell → ScriptCell) {place : Nat}
    (found : machine.cell? place = some cell) :
    (machine.modifyCell place change).phase? place = some (change cell).phase := by
  simp only [cell?] at found
  simp [phase?, cell?, modifyCell, found]

private theorem ended_resolve (outcome : Option String)
    (found : machine.cell? driver.cell = some cell) :
    Ended machine (machine.resolve driver outcome) driver (.ready outcome) where
  frames := by simp [resolve]
  answer := lastAnswer?_finish _ _ _
  runs := by
    rw [resolve, runs_finish]
    exact machine.runs_noteWakes _ _ _
  leaves := by
    refine ⟨(cell.settle outcome).phase, ?_, rfl⟩
    have noted : (machine.noteWakes driver.cell
        (((machine.cell? driver.cell).map Cell.waiting).getD [])).cell? driver.cell =
          some cell := found
    unfold resolve
    rw [phase?_finish]
    refine (phase?_modifyCell _ _ _ ?_).trans (phase?_modifyCell_self _ _ noted)
    exact fun _ => rfl

private theorem ended_abandon (message : String) (found : machine.cell? driver.cell = some cell) :
    Ended machine (machine.abandon driver message) driver (.panicked message) where
  frames := by simp [abandon]
  answer := lastAnswer?_finish _ _ _
  runs := by
    rw [abandon, runs_finish]
    exact machine.runs_noteWakes _ _ _
  leaves := by
    refine ⟨(cell.settle none).phase, ?_, rfl⟩
    have noted : (machine.noteWakes driver.cell
        (((machine.cell? driver.cell).map Cell.waiting).getD [])).cell? driver.cell =
          some cell := found
    unfold abandon
    rw [phase?_finish]
    exact phase?_modifyCell_self _ _ noted

private theorem phase?_notify (place other : Nat) :
    (machine.notify other).phase? place = machine.phase? place := by
  unfold notify
  split
  · exact phase?_modifyCell _ _ _ fun _ => rfl
  · rfl

private theorem ended_suspend (rest : Future) (found : machine.cell? driver.cell = some cell) :
    Ended machine (machine.suspend driver rest) driver .pending where
  frames := by
    unfold suspend
    rw [frames_finish]
    split <;> simp
  answer := lastAnswer?_finish _ _ _
  runs := by
    unfold suspend
    rw [runs_finish]
    split
    · exact runs_notify _ _ _
    · rfl
  leaves := by
    refine ⟨(cell.park rest).phase, ?_, rest, rfl⟩
    unfold suspend
    rw [phase?_finish]
    split
    · rw [phase?_notify]
      refine (phase?_modifyCell _ _ _ ?_).trans (phase?_modifyCell_self _ _ found)
      exact fun _ => rfl
    · exact phase?_modifyCell_self _ _ found

end Ends

private theorem runs_of_touches {after : Machine} {operation : Operation} {place : Nat}
    {cell : ScriptCell} (found : machine.cell? place = some cell) (phase : cell.phase = .driven)
    (touched : View.Touches operation place (machine.view place) (after.view place)) :
    after.runs place = machine.runs place := by
  have driven : View.Driven place (machine.view place).frames (machine.runs place)
      (machine.view place) := by
    refine ⟨?_, rfl, machine.runs_view place⟩
    simp [phase?_view, phase?, found, phase]
  have same_runs := (driven.touches touched).runs
  rwa [runs_view] at same_runs

/-- An operation that begins while a computation is driven leaves its runs alone. -/
theorem start_driven {driver : Driver} {later : Work} {below : List Frame} {cell : ScriptCell}
    (top : machine.frames = ⟨driver, later⟩ :: below)
    (found : machine.cell? driver.cell = some cell) (phase : cell.phase = .driven)
    (operation : Operation) :
    ∃ above, (machine.start operation).frames = above ++ ⟨driver, later⟩ :: below ∧
      (machine.start operation).runs driver.cell = machine.runs driver.cell := by
  have same_runs := machine.runs_of_touches found phase (machine.start_touches _ operation)
  rcases machine.frames_start operation with same | ⟨frame, pushed⟩
  · exact ⟨[], same.trans top, same_runs⟩
  · exact ⟨[frame], by rw [pushed, top]; rfl, same_runs⟩

/-- A poll in progress goes on, or it comes to its end. -/
theorem step_driver {driver : Driver} {work : Work} {below : List Frame} {cell : ScriptCell}
    (top : machine.frames = ⟨driver, work⟩ :: below)
    (found : machine.cell? driver.cell = some cell) (phase : cell.phase = .driven) :
    (∃ above later, machine.step.frames = above ++ ⟨driver, later⟩ :: below ∧
      later.runs driver.cell ++ machine.step.runs driver.cell =
        work.runs driver.cell ++ machine.runs driver.cell) ∨
    work.runs driver.cell = [] ∧
      ∃ outcome, Ended { machine with frames := below } machine.step driver outcome := by
  cases machine.stepped top with
  | @entered future begins goes steps =>
      subst begins
      refine .inl ⟨[], pollWork future, ?_⟩
      rw [steps]
      refine ⟨rfl, ?_⟩
      simp [Work.runs, runs, enter, note, modifyCell, pollWork, Entry.runs]
  | @called later operation played goes calls steps =>
      obtain ⟨above, frames, same_runs⟩ := start_driven
        { machine with frames := ⟨driver, later⟩ :: below } rfl found phase operation
      refine .inl ⟨above, later, ?_⟩
      rw [steps, same_runs, played.runs]
      exact ⟨frames, rfl⟩
  | @kept later kept played goes steps =>
      refine .inl ⟨[], later, ?_⟩
      rw [steps, played.runs]
      exact ⟨rfl, rfl⟩
  | @woken action actions rest plays goes steps =>
      subst plays
      refine .inl ⟨[], .polling actions rest, ?_⟩
      rw [steps]
      refine ⟨by simp, ?_⟩
      simp only [wakeCell, runs_notify, Work.runs, List.nil_append]
      simp [runs, note, Entry.runs]
  | resolved outcome plays ends steps =>
      rw [steps, plays]
      exact .inr ⟨rfl, _, ended_resolve { machine with frames := below } outcome found⟩
  | abandoned message plays ends steps =>
      have silent : work.runs driver.cell = [] := by
        obtain ⟨future, rfl⟩ | ⟨actions, rest, rfl⟩ := plays <;> rfl
      rw [steps]
      exact .inr ⟨silent, _, ended_abandon { machine with frames := below } message found⟩
  | @suspended actions rest kept plays goes steps =>
      have ended := ended_suspend { machine with frames := below, kept } rest found
      rw [steps, plays]
      exact .inr ⟨rfl, _, ended.frames, ended.answer, ended.runs, ended.leaves⟩

/-- A poll in progress that is run to its end leaves the polls below it alone. -/
theorem unwind_driver {driver : Driver} {work : Work} {above below : List Frame}
    (reach : machine.Reachable) (frames : machine.frames = above ++ ⟨driver, work⟩ :: below) :
    ∃ outcome phase, (machine.unwind below.length).frames = below ∧
      (machine.unwind below.length).lastAnswer? =
        some (Request.answer driver.request outcome) ∧
      (machine.unwind below.length).runs driver.cell =
        work.runs driver.cell ++ machine.runs driver.cell ∧
      (machine.unwind below.length).phase? driver.cell = some phase ∧ outcome.Leaves phase := by
  induction steps : machine.work using Nat.strongRecOn generalizing machine above work with
  | ind _ ih =>
      subst steps
      have deep : ¬machine.frames.length ≤ below.length := by
        simp [frames]
        omega
      have busy : machine.frames ≠ [] := by simp [frames]
      have reach_step : machine.step.Reachable := reach.tail (.step busy)
      have less := work_step machine busy
      have unwinds : machine.unwind below.length = machine.step.unwind below.length := by
        rw [unwind, dif_neg deep]
      have outer : ⟨driver, work⟩ ∈ machine.frames := by simp [frames]
      obtain ⟨cell, found, phase⟩ := reach.driven outer
      rw [unwinds]
      cases above with
      | nil =>
          rcases machine.step_driver frames found phase with
            ⟨above, later, later_frames, later_runs⟩ | ⟨ran, outcome, ended⟩
          · rw [← later_runs]
            exact ih _ less _ reach_step later_frames rfl
          · have ended_frames : machine.step.frames = below := ended.frames
            have stops : machine.step.unwind below.length = machine.step := by
              rw [unwind, dif_pos (by simp [ended_frames])]
            obtain ⟨after, after_phase, leaves⟩ := ended.leaves
            rw [stops, ran, List.nil_append]
            exact ⟨outcome, after, ended_frames, ended.answer, ended.runs, after_phase, leaves⟩
      | cons top above =>
          have inner : top ∈ machine.frames := by simp [frames]
          -- The innermost poll drives another computation, which can only touch this one.
          have apart : top.driver.cell ≠ driver.cell := by
            have nodup := reach.nodup_driven
            rw [frames, List.cons_append, List.map_cons, List.nodup_cons] at nodup
            refine fun same => nodup.1 (List.mem_map.mpr ⟨⟨driver, work⟩, ?_, same.symm⟩)
            simp
          obtain ⟨operation, -, touched⟩ := machine.step_touches driver.cell frames apart
          have same_runs := machine.runs_of_touches found phase touched
          obtain ⟨top_cell, top_found, top_phase⟩ := reach.driven inner
          rw [← same_runs]
          rcases machine.step_driver frames top_found top_phase with
            ⟨inner_above, later, later_frames, -⟩ | ⟨-, _, ended⟩
          · have step_frames : machine.step.frames =
                (inner_above ++ ⟨top.driver, later⟩ :: above) ++ ⟨driver, work⟩ :: below := by
              rw [later_frames, List.append_assoc]
              rfl
            exact ih _ less _ reach_step step_frames rfl
          · exact ih _ less _ reach_step ended.frames rfl

theorem complete_of_frames {operation : Operation}
    (same : (machine.start operation).frames = machine.frames) :
    machine.complete operation = machine.start operation := by
  rw [complete, unwind, dif_pos (by simp [same])]

/-- A poll of a subscription that is done is answered at once. -/
theorem complete_done {operation : Operation} {request : Request} {name : String} {waker : Waker}
    {place id : Nat} (polls : operation.poll? = some (request, name, waker))
    (held : machine.subscriptions.lookup name = some ⟨place, id, true, false⟩) :
    machine.complete operation =
      machine.conclude ⟨name, place, id, waker, request⟩ (.ready none) := by
  have starts : machine.start operation =
      machine.conclude ⟨name, place, id, waker, request⟩ (.ready none) := by
    rw [start_of_poll? machine polls]
    simp [poll, held]
  rw [complete_of_frames, starts]
  rw [starts, frames_conclude]

/-- A subscription that is being polled cannot be polled. -/
theorem complete_busy {operation : Operation} {request : Request} {name : String} {waker : Waker}
    {subscription : Subscription} (polls : operation.poll? = some (request, name, waker))
    (held : machine.subscriptions.lookup name = some subscription)
    (busy : subscription.busy = true) :
    machine.complete operation = machine.reply (Request.operation request name waker) .busy := by
  have starts : machine.start operation =
      machine.reply (Request.operation request name waker) .busy := by
    rw [start_of_poll? machine polls]
    simp [poll, held, busy]
  rw [complete_of_frames, starts]
  rw [starts, frames_reply]

/-- What a poll of a subscription that is neither busy nor done comes to. -/
structure Polled (machine : Machine) (operation : Operation) (request : Request) (place : Nat)
    (before : Phase Factory Future String) (outcome : Outcome)
    (after : Phase Factory Future String) : Prop where
  found : machine.phase? place = some before
  answers : Answers before outcome after
  answer : (machine.complete operation).lastAnswer? = some (Request.answer request outcome)
  frames : (machine.complete operation).frames = machine.frames
  runs : (machine.complete operation).runs place = before.runs place ++ machine.runs place
  left : (machine.complete operation).phase? place = some after

private theorem polled_at_once (driver : Driver) {operation : Operation} {changed : Machine}
    {before : Phase Factory Future String} {outcome : Outcome}
    (found : machine.phase? driver.cell = some before) (answers : Answers before outcome before)
    (starts : machine.start operation = changed.finish driver outcome)
    (frames : changed.frames = machine.frames)
    (runs : changed.runs driver.cell = before.runs driver.cell ++ machine.runs driver.cell)
    (phase : changed.phase? driver.cell = some before) :
    Polled machine operation driver.request driver.cell before outcome before := by
  have same : (machine.start operation).frames = machine.frames := by
    rw [starts, frames_finish, frames]
  have complete_eq := (machine.complete_of_frames same).trans starts
  constructor
  · exact found
  · exact answers
  · rw [complete_eq, lastAnswer?_finish]
  · rw [complete_eq, frames_finish, frames]
  · rw [complete_eq, runs_finish, runs]
  · rw [complete_eq, phase?_finish, phase]

private theorem polled_driver (driver : Driver) {operation : Operation} {work : Work}
    {before : Phase Factory Future String} (begins : machine.Begins operation)
    (found : machine.phase? driver.cell = some before)
    (answers : ∀ outcome after, outcome.Leaves after → Answers before outcome after)
    (frames : (machine.start operation).frames = ⟨driver, work⟩ :: machine.frames)
    (runs : work.runs driver.cell ++ (machine.start operation).runs driver.cell =
      before.runs driver.cell ++ machine.runs driver.cell) :
    ∃ outcome after,
      Polled machine operation driver.request driver.cell before outcome after := by
  have whole : (machine.start operation).frames = [] ++ ⟨driver, work⟩ :: machine.frames := frames
  obtain ⟨outcome, after, left_frames, answer, left_runs, phase, leaves⟩ :=
    (machine.start operation).unwind_driver begins.reachable_start whole
  exact ⟨outcome, after, found, answers outcome after leaves, answer, left_frames,
    left_runs.trans runs, phase⟩

/-- A poll of a subscription that is neither busy nor done comes to an end. -/
theorem Begins.polled {operation : Operation} {request : Request} {name : String} {waker : Waker}
    {place id : Nat} (begins : machine.Begins operation)
    (polls : operation.poll? = some (request, name, waker))
    (held : machine.subscriptions.lookup name = some ⟨place, id, false, false⟩) :
    ∃ before outcome after, Polled machine operation request place before outcome after := by
  have trivially : View.Kept place fun _ => True := ⟨fun _ _ _ => trivial, fun _ _ _ => trivial⟩
  have sound := (begins.invariant trivially trivial).1
  have named : (machine.view place).named name = some ⟨place, id, false, false⟩ := by
    simp [view, held]
  obtain ⟨cell, found⟩ := sound.found_of_named named
  have cell_found : machine.cell? place = some cell := found
  have phase_found : machine.phase? place = some cell.phase := by simp [phase?, cell_found]
  have approaches : machine.start operation =
      machine.approach ⟨name, place, id, waker, request⟩ cell := by
    rw [start_of_poll? machine polls]
    simp [poll, held, cell_found]
  have moves (change : ScriptCell → ScriptCell) : ((machine.note (.asked place id waker)).modifyCell
      place change).phase? place = some (change cell).phase :=
    phase?_modifyCell_self _ _ cell_found
  unfold approach Cell.approach at approaches
  cases phase : cell.phase with
  | idle factory =>
      rw [phase] at phase_found
      simp only [phase] at approaches
      refine ⟨.idle factory, machine.polled_driver ⟨name, place, id, waker, request⟩ begins
        phase_found (fun _ _ => .started) (by rw [approaches]; rfl) ?_⟩
      rw [approaches]
      obtain ⟨announced, operations, panics, future⟩ := factory
      cases panics <;> simp [Work.runs, Phase.runs, runs_note, Entry.runs]
  | parked future =>
      rw [phase] at phase_found
      simp only [phase] at approaches
      refine ⟨.parked future, machine.polled_driver ⟨name, place, id, waker, request⟩ begins
        phase_found (fun _ _ => .resumed) (by rw [approaches]; rfl) ?_⟩
      rw [approaches]
      simp [Work.runs, Phase.runs, pollWork, enter, runs_note, Entry.runs]
  | driven =>
      rw [phase] at phase_found
      simp only [phase] at approaches
      exact ⟨.driven, .pending, .driven, machine.polled_at_once ⟨name, place, id, waker, request⟩
        phase_found .waited approaches rfl rfl ((moves _).trans (congrArg some phase))⟩
  | resolved value =>
      rw [phase] at phase_found
      simp only [phase] at approaches
      exact ⟨_, _, _, machine.polled_at_once ⟨name, place, id, waker, request⟩ phase_found
        (.replayed (some value)) approaches rfl rfl ((moves _).trans (congrArg some phase))⟩
  | completed =>
      rw [phase] at phase_found
      simp only [phase] at approaches
      exact ⟨_, _, _, machine.polled_at_once ⟨name, place, id, waker, request⟩ phase_found
        (.replayed none) approaches rfl rfl ((moves _).trans (congrArg some phase))⟩

end Machine
end Replay
end LinkFacts
