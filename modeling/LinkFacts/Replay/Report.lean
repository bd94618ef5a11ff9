import LinkFacts.Replay.Run

/-!
# Reports

What can be noticed of one operation: its answer, the events during it, how often each named waker
was woken, and the stages of all computations that have a handle.
-/

namespace LinkFacts
namespace Replay

/-- Something that happened during an operation. -/
inductive Event where
  /-- A factory started a computation. -/
  | started
  /-- A computation was polled for the given time. -/
  | polled (count : Nat)
  /-- An operation inside a poll was answered. -/
  | nested (operation : Operation) (answer : Answer)

/-- The event that an entry of the journal tells. -/
def Entry.event? : Entry → Option Event
  | .started _ true => some .started
  | .polled _ count => some (.polled count)
  | .nested operation answer => some (.nested operation answer)
  | _ => none

/-- The named waker that an entry of the journal tells to be woken. -/
def Entry.wokenName? : Entry → Option String
  | .woke _ _ (.named name) => some name
  | _ => none

/-- What can be noticed of one operation. -/
structure Report where
  /-- The answer. -/
  answer : Answer
  /-- The events, the earliest first. -/
  events : List Event
  /-- How often named wakers were woken. -/
  wakes : List (String × Nat)
  /-- The stages of computations, by the names of their handles. -/
  stages : List (String × Stage)

namespace Machine

/-- What the journal holds beyond an earlier one, the earliest first. -/
def newEntries (earlier later : Machine) : List Entry :=
  (later.journal.take (later.journal.length - earlier.journal.length)).reverse

/-- The stages of computations, by the names of their handles. -/
def stages (machine : Machine) : List (String × Stage) :=
  machine.handles.filterMap fun entry =>
    (machine.cell? entry.2).map fun cell => (entry.1, cell.stage)

/-- Runs an operation and reports on it. -/
def report (machine : Machine) (operation : Operation) : Report × Machine :=
  let after := machine.perform operation
  let entries := machine.newEntries after
  ({ answer := after.answer.getD .missing
     events := entries.filterMap Entry.event?
     wakes := Naming.tally (entries.filterMap Entry.wokenName?)
     stages := after.stages }, after)

end Machine
end Replay
end LinkFacts
