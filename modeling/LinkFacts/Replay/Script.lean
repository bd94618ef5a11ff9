import LinkFacts.Replay.Cell

/-!
# Scripts

Operations on shared computations of texts, and computations that follow a script: at every poll
they play a list of actions, among them operations that are run while the computation is polled.

An operation is run from outside or by the script of a computation or its factory, and by nothing
else.  A waker that is used runs none, and while a panic ends a poll no destructor runs one: what is
left of the script is thrown away as it is.
-/

namespace LinkFacts
namespace Replay

mutual

/-- An operation on shared computations, which are named by handles, and on subscriptions. -/
inductive Operation where
  /-- Makes a computation that is started by a factory. -/
  | createLazy (handle : String) (factory : List Operation) (panics : Option String)
      (polls : List (List Action))
  /-- Makes a computation that is there from the start. -/
  | create (handle : String) (polls : List (List Action))
  /-- Makes a computation that has its outcome. -/
  | createSettled (handle : String) (outcome : Option String)
  /-- Gives a computation another name. -/
  | clone (handle target : String)
  /-- Lets go of a handle. -/
  | dropHandle (handle : String)
  /-- Two handles name one computation. -/
  | same (left right : String)
  /-- The stage of a computation. -/
  | stage (handle : String)
  /-- The value of a computation. -/
  | peek (handle : String)
  /-- A description of a handle. -/
  | describe (handle : String)
  /-- Subscribes under a name. -/
  | subscribe (handle subscription : String)
  /-- Polls a subscription. -/
  | poll (subscription : String) (waker : Waker)
  /-- Polls a subscription once for its value and uses it up. -/
  | value (subscription : String)
  /-- Polls a subscription for all its values and uses it up. -/
  | collect (subscription : String)
  /-- Lets go of a subscription. -/
  | drop (subscription : String)
  /-- How many values a subscription may still give. -/
  | sizeHint (subscription : String)
  /-- The subscription has ended. -/
  | terminated (subscription : String)
  /-- A description of a subscription. -/
  | describeSubscription (subscription : String)
  /-- Wakes what was kept under a name. -/
  | wake (kept : String)
  /-- Sets the outcome behind a gate and wakes what waits there. -/
  | openGate (gate : String) (outcome : Option String)

/-- An action of a computation that is being polled. -/
inductive Action where
  /-- The computation is woken. -/
  | wake
  /-- The waker of the computation is kept under a name. -/
  | keep (name : String)
  /-- The computation is over. -/
  | ready (outcome : Option String)
  /-- The poll is over, the computation is not. -/
  | pending
  /-- The computation panics, and what is left of its script is not run. -/
  | panic (message : String)
  /-- The computation is over if the gate is open, and else waits at it. -/
  | gate (name : String)
  /-- An operation. -/
  | run (operation : Operation)

end

instance : Inhabited Action := ⟨.pending⟩

instance : Inhabited Operation := ⟨.wake ""⟩

/-- What an operation answers. -/
inductive Answer where
  | ok
  /-- The name stands for nothing. -/
  | missing
  /-- The subscription is being polled. -/
  | busy
  | flag (value : Bool)
  | stage (value : Stage)
  | text (value : String)
  | optional (value : Option String)
  /-- There is nothing yet. -/
  | pending
  | item (value : String)
  /-- There will be nothing more. -/
  | ended
  /-- The value of a subscription that was used up. -/
  | value (outcome : Option String)
  /-- All values of a subscription that was used up. -/
  | items (values : List String)
  | sizeHint (least greatest : Nat)
  | panicked (message : String)
  deriving DecidableEq, Repr

end Replay
end LinkFacts
