import LinkFacts.Replay.Machine

/-!
# Runs

Every step uses up a part of some script, so the steps of an operation come to an end.  The amount
of script that is left is `work`.
-/

namespace LinkFacts
namespace Replay
namespace Machine

open Naming

/-- How much script a computation holds. -/
noncomputable def cellWork (cell : ScriptCell) : Nat :=
  match cell.phase with
  | .idle factory => sizeOf factory.operations + sizeOf factory.future.polls + 1
  | .parked future => sizeOf future.polls
  | _ => 0

/-- How much script a frame holds. -/
noncomputable def frameWork (frame : Frame) : Nat :=
  match frame.work with
  | .starting operations _ future => sizeOf operations + sizeOf future.polls + 1
  | .polling actions rest => sizeOf actions + sizeOf rest.polls

/-- How much script is left. -/
noncomputable def work (machine : Machine) : Nat :=
  -- folds and not `List.sum`, whose zero depends on the algebra that is imported
  (machine.cells.map cellWork).foldr (· + ·) 0 + (machine.frames.map frameWork).foldr (· + ·) 0

private theorem sum_modify (cells : List ScriptCell) (place : Nat)
    (change : ScriptCell → ScriptCell) (cell : ScriptCell) (h : cells[place]? = some cell) :
    ((cells.modify place change).map cellWork).foldr (· + ·) 0 + cellWork cell =
      (cells.map cellWork).foldr (· + ·) 0 + cellWork (change cell) := by
  induction cells generalizing place with
  | nil => simp at h
  | cons first rest ih =>
    cases place with
    | zero =>
      simp only [List.getElem?_cons_zero, Option.some.injEq] at h
      subst h
      simp only [List.modify_zero_cons, List.map_cons, List.foldr_cons]
      omega
    | succ place =>
      have := ih place (by simpa using h)
      simp only [List.modify_succ_cons, List.map_cons, List.foldr_cons]
      omega

private theorem sum_modify_le (cells : List ScriptCell) (place : Nat)
    (change : ScriptCell → ScriptCell) (bound : Nat)
    (h : ∀ cell, cellWork (change cell) ≤ cellWork cell + bound) :
    ((cells.modify place change).map cellWork).foldr (· + ·) 0 ≤
      (cells.map cellWork).foldr (· + ·) 0 + bound := by
  induction cells generalizing place with
  | nil => simp
  | cons first rest ih =>
    cases place with
    | zero =>
      have := h first
      simp only [List.modify_zero_cons, List.map_cons, List.foldr_cons]
      omega
    | succ place =>
      have := ih place
      simp only [List.modify_succ_cons, List.map_cons, List.foldr_cons]
      omega

private theorem work_modifyCell_le (machine : Machine) (place : Nat)
    (change : ScriptCell → ScriptCell)
    (bound : Nat) (h : ∀ cell, cellWork (change cell) ≤ cellWork cell + bound) :
    (machine.modifyCell place change).work ≤ machine.work + bound := by
  have := sum_modify_le machine.cells place change bound h
  simp only [work, modifyCell]
  omega

/-- A change of a computation that leaves its phase alone leaves the work alone. -/
theorem work_modifyCell_of_phase (machine : Machine) (place : Nat)
    (change : ScriptCell → ScriptCell) (h : ∀ cell, (change cell).phase = cell.phase) :
    (machine.modifyCell place change).work ≤ machine.work :=
  work_modifyCell_le machine place change 0 fun cell => by simp [cellWork, h cell]

private theorem work_reply (machine : Machine) (operation : Operation) (answer : Answer) :
    (machine.reply operation answer).work = machine.work := by
  unfold reply
  split <;> rfl

private theorem work_notify (machine : Machine) (place : Nat) :
    (machine.notify place).work ≤ machine.work := by
  unfold notify
  split
  · exact work_modifyCell_of_phase _ _ _ fun _ => rfl
  · exact Nat.le_refl _

private theorem work_wakeCell (machine : Machine) (place : Nat) :
    (machine.wakeCell place).work ≤ machine.work :=
  work_notify (machine.note (.notified place)) place

private theorem work_dropSubscription (machine : Machine) (name : String) :
    (machine.dropSubscription name).work ≤ machine.work := by
  unfold dropSubscription
  split
  · exact work_modifyCell_of_phase _ _ _ fun _ => rfl
  · exact Nat.le_refl _

private theorem work_modifySubscription (machine : Machine) (name : String)
    (change : Subscription → Subscription) :
    (machine.modifySubscription name change).work = machine.work := by
  unfold modifySubscription
  split <;> rfl

private theorem work_release (machine : Machine) (driver : Driver) (outcome : Outcome) :
    (machine.release driver outcome).work ≤ machine.work := by
  unfold release
  split
  · split
    · exact Nat.le_of_eq (work_modifySubscription _ _ _)
    · exact work_dropSubscription _ _
  · exact work_modifyCell_of_phase _ _ _ fun _ => rfl

private theorem work_conclude (machine : Machine) (driver : Driver) (outcome : Outcome) :
    (machine.conclude driver outcome).work ≤ machine.work := by
  unfold conclude
  rw [work_reply]
  exact work_release _ _ _

private theorem work_finish (machine : Machine) (driver : Driver) (outcome : Outcome) :
    (machine.finish driver outcome).work ≤ machine.work :=
  work_conclude _ _ _

private theorem work_wakeKept (machine : Machine) (name : String) :
    (machine.wakeKept name).work ≤ machine.work := by
  unfold wakeKept
  split
  · exact work_wakeCell _ _
  · exact Nat.le_refl _

private theorem work_push (machine : Machine) (driver : Driver) (todo : Work) :
    (machine.push driver todo).work = machine.work + frameWork ⟨driver, todo⟩ := by
  have h := work_modifySubscription machine driver.name
    fun subscription => { subscription with busy := true }
  unfold modifySubscription at h
  unfold push modifySubscription
  split at h <;> simp only [work, List.map_cons, List.foldr_cons] at h ⊢ <;> omega

private theorem work_enter (machine : Machine) (driver : Driver) (future : Future) :
    (machine.enter driver future).work ≤ machine.work :=
  work_modifyCell_of_phase _ _ _ fun _ => rfl

private theorem work_pollWork (driver : Driver) (future : Future) :
    frameWork ⟨driver, pollWork future⟩ ≤ sizeOf future.polls + 1 := by
  unfold frameWork pollWork
  cases h : future.polls with
  | nil => simp
  | cons actions polls => simp; omega

private theorem work_approach (machine : Machine) (driver : Driver) (cell : ScriptCell)
    (h : machine.cell? driver.cell = some cell) :
    (machine.approach driver cell).work ≤ machine.work + 1 := by
  have htotal := sum_modify machine.cells driver.cell
    (fun _ => (cell.approach driver.id driver.waker).2) cell h
  unfold approach
  unfold Cell.approach at htotal ⊢
  cases hphase : cell.phase with
  | idle seed =>
    simp only [hphase] at htotal ⊢
    rw [work_push]
    simp only [work, note, modifyCell, cellWork, frameWork, hphase] at htotal ⊢
    omega
  | parked task =>
    simp only [hphase] at htotal ⊢
    rw [work_push]
    have henter := work_enter ((machine.note (.asked driver.cell driver.id driver.waker)).modifyCell
      driver.cell fun _ => { cell with phase := .driven }) driver task
    have hwork := work_pollWork driver task
    simp only [work, note, modifyCell, cellWork, hphase] at htotal henter hwork ⊢
    omega
  | driven =>
    simp only [hphase] at htotal ⊢
    refine Nat.le_trans (work_finish _ _ _) ?_
    simp only [work, note, modifyCell, cellWork, Cell.register, hphase] at htotal ⊢
    omega
  | resolved | completed =>
    simp only [hphase] at htotal ⊢
    refine Nat.le_trans (work_finish _ _ _) ?_
    simp only [work, note, modifyCell, cellWork, Cell.unregister, hphase] at htotal ⊢
    omega

private theorem work_poll (machine : Machine) (request : Request) (name : String) (waker : Waker) :
    (machine.poll request name waker).work ≤ machine.work + 1 := by
  unfold poll
  split
  · rw [work_reply]; omega
  · split
    · rw [work_reply]; omega
    · split
      · exact Nat.le_succ_of_le (work_conclude _ _ _)
      · split
        · next cell hcell => exact work_approach machine _ cell hcell
        · rw [work_reply]; omega

private theorem work_addCell (machine : Machine) (handle : String) (cell : ScriptCell) :
    (machine.addCell handle cell).work = machine.work + cellWork cell := by
  have last : (machine.cells.map cellWork).foldr (· + ·) (0 + cellWork cell) =
      (machine.cells.map cellWork).foldr (· + ·) 0 + cellWork cell := List.foldr_assoc
  rw [Nat.zero_add] at last
  simp only [work, addCell, List.map_append, List.foldr_append, List.map_cons, List.map_nil,
    List.foldr_cons, List.foldr_nil, Nat.add_zero, last]
  omega

private theorem work_freeName (machine : Machine) (name : String) :
    (machine.freeName name).work ≤ machine.work := by
  unfold freeName
  split
  · split
    · exact Nat.le_refl _
    · exact work_dropSubscription _ _
  · exact Nat.le_refl _

private theorem work_inspect (machine : Machine) (operation : Operation) (handle : String)
    (question : ScriptCell → Answer) :
    (machine.inspect operation handle question).work = machine.work := by
  unfold inspect
  split <;> exact work_reply _ _ _

private theorem work_inspectSubscription (machine : Machine) (operation : Operation) (name : String)
    (question : Subscription → Answer) :
    (machine.inspectSubscription operation name question).work = machine.work := by
  unfold inspectSubscription
  split <;> exact work_reply _ _ _

private theorem work_subscribe (machine : Machine) (handle name : String) :
    (machine.subscribe handle name).work ≤ machine.work := by
  unfold subscribe
  split
  · exact Nat.le_of_eq (work_reply _ _ _)
  · split
    · exact Nat.le_of_eq (work_reply _ _ _)
    · rw [work_reply]
      exact Nat.le_trans (work_freeName _ _) (work_modifyCell_of_phase _ _ _ fun _ => rfl)

/-- Beginning an operation adds less work than the operation is long. -/
theorem work_start (machine : Machine) (operation : Operation) :
    (machine.start operation).work < machine.work + sizeOf operation + 1 := by
  cases operation with
  | createLazy handle factory panics polls =>
    simp only [start, work_reply, work_addCell, Cell.ofPhase, cellWork,
      Operation.createLazy.sizeOf_spec]
    have : 0 < sizeOf panics := Nat.pos_of_ne_zero (by cases panics <;> simp)
    omega
  | create handle polls =>
    simp only [start, work_reply, work_addCell, Cell.ofPhase, cellWork,
      Operation.create.sizeOf_spec, List.nil.sizeOf_spec]
    have : 0 < sizeOf handle := Nat.pos_of_ne_zero (by cases handle; simp)
    omega
  | createSettled handle outcome =>
    simp only [start, work_reply, work_addCell, Cell.ofPhase, cellWork]
    cases outcome <;> simp only [Cell.settledPhase] <;> omega
  | clone handle target =>
    simp only [start]
    split <;> rw [work_reply] <;> simp only [work] <;> omega
  | dropHandle handle =>
    simp only [start]
    rw [work_reply]
    simp only [work]
    omega
  | same left right =>
    simp only [start]
    split <;> rw [work_reply] <;> omega
  | stage | peek | describe =>
    simp only [start, work_inspect]
    omega
  | subscribe handle name =>
    have := work_subscribe machine handle name
    simp only [start]
    omega
  | poll name waker =>
    have := work_poll machine .next name waker
    simp only [start, Operation.poll.sizeOf_spec]
    omega
  | value name =>
    have := work_poll machine .value name .silent
    simp only [start, Operation.value.sizeOf_spec]
    omega
  | collect name =>
    have := work_poll machine .collect name .silent
    simp only [start, Operation.collect.sizeOf_spec]
    omega
  | drop name =>
    simp only [start]
    split
    · split
      · rw [work_reply]; omega
      · have := work_dropSubscription machine name
        rw [work_reply]; omega
    · rw [work_reply]; omega
  | sizeHint | terminated | describeSubscription =>
    simp only [start, work_inspectSubscription]
    omega
  | wake name =>
    simp only [start]
    split
    · have := work_wakeKept machine name
      rw [work_reply]; omega
    · rw [work_reply]; omega
  | openGate name outcome =>
    have := work_wakeKept { machine with gates := put name outcome machine.gates } name
    simp only [start, work_reply]
    simp only [work] at this ⊢
    omega

private theorem cellWork_settle (cell : ScriptCell) (outcome : Option String) :
    cellWork (cell.settle outcome) = 0 := by
  cases outcome <;> rfl

private theorem work_resolve (machine : Machine) (driver : Driver) (outcome : Option String) :
    (machine.resolve driver outcome).work ≤ machine.work := by
  unfold resolve
  refine Nat.le_trans (work_finish _ _ _) ?_
  refine Nat.le_trans (work_modifyCell_of_phase _ _ _ fun _ => rfl) ?_
  exact work_modifyCell_le _ _ _ 0 fun cell => by simp [cellWork_settle]

private theorem work_abandon (machine : Machine) (driver : Driver) (message : String) :
    (machine.abandon driver message).work ≤ machine.work := by
  unfold abandon
  refine Nat.le_trans (work_finish _ _ _) ?_
  exact work_modifyCell_le _ _ _ 0 fun cell => by simp [cellWork_settle]

private theorem work_suspend (machine : Machine) (driver : Driver) (rest : Future) :
    (machine.suspend driver rest).work ≤ machine.work + sizeOf rest.polls := by
  unfold suspend
  refine Nat.le_trans (work_finish _ _ _) ?_
  have hpark : (machine.modifyCell driver.cell (·.park rest)).work ≤
      machine.work + sizeOf rest.polls :=
    work_modifyCell_le _ _ _ _ fun cell => by simp [Cell.park, cellWork]
  split
  · refine Nat.le_trans (work_notify _ _) (Nat.le_trans ?_ hpark)
    exact work_modifyCell_of_phase _ _ _ fun _ => rfl
  · exact hpark

private theorem work_frames (machine : Machine) (frame : Frame) (below : List Frame)
    (h : machine.frames = frame :: below) :
    machine.work = { machine with frames := below }.work + frameWork frame := by
  simp only [work, h, List.map_cons, List.foldr_cons]
  omega

private theorem work_with_frame (machine : Machine) (frame : Frame) (below : List Frame) :
    { machine with frames := frame :: below }.work =
      { machine with frames := below }.work + frameWork frame := by
  simp only [work, List.map_cons, List.foldr_cons]
  omega

/-- Every step of a frame uses up work. -/
theorem work_step (machine : Machine) (h : machine.frames ≠ []) :
    machine.step.work < machine.work := by
  unfold step
  split
  · next hframes => exact absurd hframes h
  · next driver operation operations panics future below hframes =>
    have hstart := work_start
      { machine with frames := ⟨driver, .starting operations panics future⟩ :: below } operation
    rw [work_with_frame] at hstart
    rw [work_frames machine _ _ hframes]
    simp only [frameWork, List.cons.sizeOf_spec] at hstart ⊢
    omega
  · next driver message future below hframes =>
    have := work_abandon { machine with frames := below } driver message
    rw [work_frames machine _ _ hframes]
    simp only [frameWork]
    omega
  · next driver future below hframes =>
    have henter := work_enter { machine with frames := ⟨driver, pollWork future⟩ :: below } driver
      future
    have hwork := work_pollWork driver future
    rw [work_with_frame] at henter
    rw [work_frames machine _ _ hframes]
    simp only [frameWork, List.nil.sizeOf_spec] at henter hwork ⊢
    omega
  · next driver rest below hframes =>
    have := work_suspend { machine with frames := below } driver rest
    rw [work_frames machine _ _ hframes]
    simp only [frameWork, List.nil.sizeOf_spec]
    omega
  · next driver action actions rest below hframes =>
    have hbelow : { machine with frames := ⟨driver, .polling actions rest⟩ :: below }.work =
        { machine with frames := below }.work + (sizeOf actions + sizeOf rest.polls) :=
      work_with_frame machine _ _
    rw [work_frames machine _ _ hframes]
    simp only [frameWork, List.cons.sizeOf_spec]
    have haction : 0 < sizeOf action := Nat.pos_of_ne_zero (by cases action <;> simp)
    cases action with
    | wake =>
      have := work_wakeCell
        { machine with frames := ⟨driver, .polling actions rest⟩ :: below } driver.cell
      simp only
      omega
    | keep name => simp only [work] at hbelow ⊢; omega
    | ready outcome =>
      have := work_resolve { machine with frames := below } driver outcome
      simp only
      omega
    | pending =>
      have := work_suspend { machine with frames := below } driver rest
      simp only
      omega
    | panic message =>
      have := work_abandon { machine with frames := below } driver message
      simp only
      omega
    | gate name =>
      simp only
      split
      · next outcome _ =>
        have := work_resolve { machine with frames := below } driver outcome
        omega
      · have := work_suspend
          { machine with frames := below, kept := put name driver.cell machine.kept } driver rest
        simp only [work] at this ⊢
        omega
    | run operation =>
      have := work_start
        { machine with frames := ⟨driver, .polling actions rest⟩ :: below } operation
      simp only [Action.run.sizeOf_spec]
      omega

/-- Steps until no poll is in progress. -/
def settle (machine : Machine) : Machine :=
  if _ : machine.frames = [] then machine
  else machine.step.settle
termination_by machine.work
decreasing_by exact work_step machine ‹_›

/-- Runs an operation from outside to its end. -/
def perform (machine : Machine) (operation : Operation) : Machine :=
  ({ machine with answer := none }.start operation).settle

/-- Runs operations from outside, one after the other. -/
def run (machine : Machine) (operations : List Operation) : Machine :=
  operations.foldl perform machine

end Machine
end Replay
end LinkFacts
