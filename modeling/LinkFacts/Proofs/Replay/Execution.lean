import Mathlib.Logic.Relation
import LinkFacts.Replay.Run

/-!
# Executions

The states that a run passes through, those in the middle of a poll included.  An operation begins
from outside when no poll is in progress, or from within when the innermost computation or its
factory runs it; either way `complete` is the state in which it has come to its end.
-/

namespace LinkFacts
namespace Replay

/-- The poll that an operation makes: what it asks for, of which subscription, and its waker. -/
def Operation.poll? : Operation → Option (Request × String × Waker)
  | .poll name waker => some (.next, name, waker)
  | .value name => some (.value, name, .silent)
  | .collect name => some (.collect, name, .silent)
  | _ => none

namespace Machine

/-- One transition: an operation begins from outside, or the innermost poll goes on. -/
inductive Next : Machine → Machine → Prop
  | perform {machine : Machine} (quiet : machine.frames = []) (operation : Operation) :
      Next machine ({ machine with answer := none }.start operation)
  | step {machine : Machine} (busy : machine.frames ≠ []) : Next machine machine.step

/-- One state comes after another in some run. -/
def Reaches : Machine → Machine → Prop := Relation.ReflTransGen Next

/-- A state that some run passes through. -/
def Reachable (machine : Machine) : Prop := initial.Reaches machine

/-- The operation that the innermost computation or its factory runs with the next step, and the
state in which the operation begins: that of the machine, but for the script. -/
def call? (machine : Machine) : Option (Machine × Operation) :=
  match machine.frames with
  | ⟨driver, .starting (operation :: operations) panics future⟩ :: below =>
    some ({ machine with frames := ⟨driver, .starting operations panics future⟩ :: below },
      operation)
  | ⟨driver, .polling (.run operation :: actions) rest⟩ :: below =>
    some ({ machine with frames := ⟨driver, .polling actions rest⟩ :: below }, operation)
  | _ => none

/-- An operation begins in a state of a run. -/
inductive Begins : Machine → Operation → Prop
  /-- No poll is in progress. -/
  | outside {machine : Machine} (reach : machine.Reachable) (quiet : machine.frames = [])
      (operation : Operation) : Begins { machine with answer := none } operation
  /-- A computation or its factory runs the operation. -/
  | inside {machine origin : Machine} {operation : Operation} (reach : machine.Reachable)
      (calls : machine.call? = some (origin, operation)) : Begins origin operation

/-- Steps until no more than `depth` polls are in progress. -/
def unwind (machine : Machine) (depth : Nat) : Machine :=
  if _ : machine.frames.length ≤ depth then machine
  else machine.step.unwind depth
termination_by machine.work
decreasing_by
  rename_i deep
  exact work_step machine fun quiet => deep (by simp [quiet])

/-- Runs an operation to its end, which leaves the polls alone that were in progress before. -/
def complete (machine : Machine) (operation : Operation) : Machine :=
  (machine.start operation).unwind machine.frames.length

/-- What the last operation was answered: inside a poll its answer is the latest entry. -/
def lastAnswer? (machine : Machine) : Option Answer :=
  match machine.frames, machine.journal with
  | [], _ => machine.answer
  | _ :: _, .nested _ answer :: _ => some answer
  | _ :: _, _ => none

/-- Nothing more happens to what has settled; everything else goes on stepping. -/
theorem settle_eq_unwind (machine : Machine) : machine.settle = machine.unwind 0 := by
  fun_induction settle machine with
  | case1 machine quiet =>
      rw [unwind]
      simp [quiet]
  | case2 machine busy ih =>
      rw [unwind, ih]
      simp [busy]

private theorem perform_eq_complete {machine : Machine} (quiet : machine.frames = [])
    (operation : Operation) :
    machine.perform operation = { machine with answer := none }.complete operation := by
  rw [perform, settle_eq_unwind, complete]
  simp [quiet]

private theorem length_frames_unwind (machine : Machine) (depth : Nat) :
    (machine.unwind depth).frames.length ≤ depth := by
  fun_induction unwind machine depth with
  | case1 machine shallow => exact shallow
  | case2 machine deep ih => exact ih

private theorem reaches_unwind (machine : Machine) (depth : Nat) :
    machine.Reaches (machine.unwind depth) := by
  fun_induction unwind machine depth with
  | case1 machine shallow => exact .refl
  | case2 machine deep ih =>
      refine Relation.ReflTransGen.head (.step fun quiet => deep ?_) ih
      simp [quiet]

theorem step_of_call? {machine origin : Machine} {operation : Operation}
    (calls : machine.call? = some (origin, operation)) :
    machine.frames ≠ [] ∧ machine.step = origin.start operation := by
  unfold call? at calls
  unfold step
  split at calls
  · next frames =>
    cases calls
    exact ⟨by simp [frames], by simp only [frames]⟩
  · next frames =>
    cases calls
    exact ⟨by simp [frames], by simp only [frames]⟩
  · cases calls

/-- Operations that a computation runs begin with the computations as they are. -/
theorem cells_of_call? {machine origin : Machine} {operation : Operation}
    (calls : machine.call? = some (origin, operation)) : origin.cells = machine.cells := by
  unfold call? at calls
  split at calls
  · cases calls
    rfl
  · cases calls
    rfl
  · cases calls

theorem Begins.reachable_start {machine : Machine} {operation : Operation}
    (begins : machine.Begins operation) : (machine.start operation).Reachable := by
  cases begins with
  | outside reach quiet => exact reach.tail (.perform quiet operation)
  | inside reach calls =>
      obtain ⟨busy, step_eq⟩ := step_of_call? calls
      exact step_eq ▸ reach.tail (.step busy)

private theorem Begins.reachable_complete {machine : Machine} {operation : Operation}
    (begins : machine.Begins operation) : (machine.complete operation).Reachable :=
  begins.reachable_start.trans (reaches_unwind _ _)

/-- An operation from outside leads from one state without polls in progress to another. -/
theorem reachable_perform {machine : Machine} (reach : machine.Reachable)
    (quiet : machine.frames = []) (operation : Operation) :
    (machine.perform operation).Reachable ∧ (machine.perform operation).frames = [] := by
  rw [perform_eq_complete quiet]
  refine ⟨(Begins.outside reach quiet operation).reachable_complete, ?_⟩
  have shallow := length_frames_unwind ({ machine with answer := none }.start operation) 0
  simpa [complete, quiet] using shallow

theorem reachable_run {machine : Machine} (reach : machine.Reachable)
    (quiet : machine.frames = []) (operations : List Operation) :
    (machine.run operations).Reachable ∧ (machine.run operations).frames = [] := by
  induction operations generalizing machine with
  | nil => exact ⟨reach, quiet⟩
  | cons operation operations ih =>
      obtain ⟨performed, idle⟩ := reachable_perform reach quiet operation
      exact ih performed idle

end Machine
end Replay
end LinkFacts
