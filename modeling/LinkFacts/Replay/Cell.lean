/-!
# Shared computations

A cell holds a computation that is run once for all who subscribe to it.  Nothing runs until a
subscription is polled; from then on any poll may drive the computation, and its outcome is replayed
to every subscription.  The cell keeps the wakers of subscriptions that were told to wait, and wakes
all of them when the computation can go on or is over.

Wakers do nothing but count: no subscription is polled or let go of by being woken, so that a cell
stays as it is while its wakers are used.
-/

namespace LinkFacts
namespace Replay

/-- Who is told that polling again is worthwhile.  That a waker was used is noted, and nothing else
comes of it. -/
inductive Waker where
  /-- A waker whose wakes are counted under a name. -/
  | named (name : String)
  /-- A waker that nobody listens to. -/
  | silent
  deriving DecidableEq, Repr

/-- What can be seen of a computation from outside. -/
inductive Stage where
  | idle
  | running
  | resolved
  | completed
  deriving DecidableEq, Repr

namespace Stage

/-- The name of a stage. -/
def name : Stage → String
  | idle => "Idle"
  | running => "Running"
  | resolved => "Resolved"
  | completed => "Completed"

end Stage

/-- How far a computation has come: `Seed` starts it and `Task` is what is left of it. -/
inductive Phase (Seed Task Value : Type) where
  /-- It has not been started. -/
  | idle (seed : Seed)
  /-- It waits for somebody to drive it. -/
  | parked (task : Task)
  /-- Somebody is driving it right now. -/
  | driven
  /-- It gave a value. -/
  | resolved (value : Value)
  /-- It is over without a value. -/
  | completed

/-- A shared computation and those who wait for it. -/
structure Cell (Seed Task Value : Type) where
  /-- How far the computation has come. -/
  phase : Phase Seed Task Value
  /-- The wakers of waiting subscriptions, by the number of the subscription. -/
  waiting : List (Nat × Waker)
  /-- The computation was woken since it was last driven. -/
  woken : Bool
  /-- The number of the next subscription.  It grows without bound, where a counter of machine size
  would come round in the end. -/
  nextId : Nat

/-- What a subscription finds when it is polled. -/
inductive Approach (Seed Task Value : Type) where
  /-- The computation is over with this outcome. -/
  | settled (outcome : Option Value)
  /-- Somebody else is driving. -/
  | wait
  /-- The computation has to be started. -/
  | start (seed : Seed)
  /-- The computation can be driven. -/
  | drive (task : Task)

namespace Cell

variable {Seed Task Value : Type}

/-- A cell to which nobody has subscribed. -/
def ofPhase (phase : Phase Seed Task Value) : Cell Seed Task Value := ⟨phase, [], false, 0⟩

/-- What can be seen of the computation. -/
def stage (cell : Cell Seed Task Value) : Stage :=
  match cell.phase with
  | .idle _ => .idle
  | .parked _ => .running
  | .driven => .running
  | .resolved _ => .resolved
  | .completed => .completed

/-- The value, if there is one yet. -/
def peek (cell : Cell Seed Task Value) : Option Value :=
  match cell.phase with
  | .resolved value => some value
  | _ => none

/-- Counts a new subscription; its number is the old `nextId`. -/
def subscribe (cell : Cell Seed Task Value) : Cell Seed Task Value :=
  { cell with nextId := cell.nextId + 1 }

/-- Forgets the waker of a subscription. -/
def unregister (cell : Cell Seed Task Value) (id : Nat) : Cell Seed Task Value :=
  { cell with waiting := cell.waiting.filter (·.1 ≠ id) }

/-- Keeps the waker of a subscription in place of an earlier one. -/
def register (cell : Cell Seed Task Value) (id : Nat) (waker : Waker) : Cell Seed Task Value :=
  { cell with waiting := (id, waker) :: cell.waiting.filter (·.1 ≠ id) }

/-- Wakes everybody who waits: all of `waiting`, which is empty afterwards. -/
def notify (cell : Cell Seed Task Value) : Cell Seed Task Value :=
  { cell with waiting := [], woken := true }

/-- What a subscription finds; the computation is checked out if the subscription is to drive it,
and the waker is kept if somebody else is driving. -/
def approach (cell : Cell Seed Task Value) (id : Nat) (waker : Waker) :
    Approach Seed Task Value × Cell Seed Task Value :=
  match cell.phase with
  | .idle seed => (.start seed, { cell with phase := .driven })
  | .parked task => (.drive task, { cell with phase := .driven })
  | .driven => (.wait, cell.register id waker)
  | .resolved value => (.settled (some value), cell.unregister id)
  | .completed => (.settled none, cell.unregister id)

/-- Gets a cell ready for driving its computation. -/
def prepare (cell : Cell Seed Task Value) (id : Nat) (waker : Waker) : Cell Seed Task Value :=
  { cell.register id waker with woken := false }

/-- The phase of a computation that is over. -/
def settledPhase : Option Value → Phase Seed Task Value
  | some value => .resolved value
  | none => .completed

section SettledPhase

variable (outcome : Option Value)

@[simp]
theorem settledPhase_inj {outcome other : Option Value} :
    (settledPhase outcome : Phase Seed Task Value) = settledPhase other ↔ outcome = other := by
  cases outcome <;> cases other <;> simp [settledPhase]

@[simp]
theorem settledPhase_ne_idle (seed : Seed) :
    (settledPhase outcome : Phase Seed Task Value) ≠ .idle seed := by
  cases outcome <;> exact nofun

@[simp]
theorem settledPhase_ne_parked (task : Task) :
    (settledPhase outcome : Phase Seed Task Value) ≠ .parked task := by
  cases outcome <;> exact nofun

@[simp]
theorem settledPhase_ne_driven : (settledPhase outcome : Phase Seed Task Value) ≠ .driven := by
  cases outcome <;> exact nofun

end SettledPhase

/-- Sets the outcome, which wakes everybody. -/
def settle (cell : Cell Seed Task Value) (outcome : Option Value) : Cell Seed Task Value :=
  { cell with phase := settledPhase outcome }.notify

/-- Puts an unfinished computation back. -/
def park (cell : Cell Seed Task Value) (task : Task) : Cell Seed Task Value :=
  { cell with phase := .parked task }

end Cell
end Replay
end LinkFacts
