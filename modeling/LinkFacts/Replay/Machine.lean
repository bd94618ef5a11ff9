import LinkFacts.Naming
import LinkFacts.Replay.Script

/-!
# Running scripts

The state in which operations are run, and its steps.  A poll that drives a computation is a frame
on a stack; the actions of the computation are the steps of the topmost frame, and an operation
among them may push another frame.  A journal records what can be noticed, in order.
-/

namespace LinkFacts
namespace Replay

open Naming

/-- A computation that follows a script. -/
structure Future where
  /-- How often it was polled. -/
  count : Nat
  /-- What the coming polls play. -/
  polls : List (List Action)

/-- What starts a computation. -/
structure Factory where
  /-- The start is noted. -/
  announced : Bool
  /-- Operations that are run at the start. -/
  operations : List Operation
  /-- The start panics with this text. -/
  panics : Option String
  /-- The computation. -/
  future : Future

/-- A shared computation of a text that follows a script. -/
abbrev ScriptCell := Cell Factory Future String

/-- A subscription that has a name. -/
structure Subscription where
  /-- The place of the computation. -/
  cell : Nat
  /-- The number of the subscription. -/
  id : Nat
  /-- It has given all that it will ever give. -/
  done : Bool
  /-- It is being polled. -/
  busy : Bool
  deriving DecidableEq, Repr

/-- How the outcome of a poll is asked for. -/
inductive Request where
  /-- The poll itself. -/
  | next
  /-- The value, which uses the subscription up. -/
  | value
  /-- All values, which use the subscription up. -/
  | collect
  deriving DecidableEq, Repr

/-- What a poll comes to. -/
inductive Outcome where
  | pending
  | ready (outcome : Option String)
  | panicked (message : String)
  deriving DecidableEq, Repr

/-- The poll that drives a computation. -/
structure Driver where
  /-- The name of the subscription. -/
  name : String
  /-- The place of the computation. -/
  cell : Nat
  /-- The number of the subscription. -/
  id : Nat
  /-- The waker of the poll. -/
  waker : Waker
  /-- What the poll is for. -/
  request : Request
  deriving DecidableEq, Repr

/-- What is left to do for a driven computation. -/
inductive Work where
  /-- The computation is being started. -/
  | starting (operations : List Operation) (panics : Option String) (future : Future)
  /-- The computation is being polled; `rest` is what it is after the poll. -/
  | polling (actions : List Action) (rest : Future)

/-- A poll in progress. -/
structure Frame where
  /-- Who polls. -/
  driver : Driver
  /-- What is left to do. -/
  work : Work

/-- Something that can be noticed. -/
inductive Entry where
  /-- A computation was started by its factory. -/
  | started (cell : Nat) (announced : Bool)
  /-- A computation was polled for the given time, counted from zero. -/
  | polled (cell count : Nat)
  /-- A subscription was woken. -/
  | woke (cell id : Nat) (waker : Waker)
  /-- A subscription that is not done began a poll. -/
  | asked (cell id : Nat) (waker : Waker)
  /-- The poll of a subscription came to its end. -/
  | answered (cell id : Nat) (outcome : Outcome)
  /-- The waker of a computation was used. -/
  | notified (cell : Nat)
  /-- An operation of a computation or factory was answered. -/
  | nested (operation : Operation) (answer : Answer)

/-- The state in which operations are run. -/
structure Machine where
  /-- All computations. -/
  cells : List ScriptCell
  /-- The places of computations, by the names of their handles. -/
  handles : List (String × Nat)
  /-- The subscriptions, by name. -/
  subscriptions : List (String × Subscription)
  /-- The places of computations whose wakers are kept, by name. -/
  kept : List (String × Nat)
  /-- The outcomes behind open gates. -/
  gates : List (String × Option String)
  /-- The polls in progress, the innermost first. -/
  frames : List Frame
  /-- What the last operation from outside was answered. -/
  answer : Option Answer
  /-- What could be noticed, the latest first. -/
  journal : List Entry

/-- What a request answers when its poll came to an outcome. -/
def Request.answer : Request → Outcome → Answer
  | _, .panicked message => .panicked message
  | _, .pending => .pending
  | .next, .ready (some text) => .item text
  | .next, .ready none => .ended
  | .value, .ready outcome => .value outcome
  | .collect, .ready outcome => .items outcome.toList

/-- The operation that makes a request. -/
def Request.operation (request : Request) (name : String) (waker : Waker) : Operation :=
  match request with
  | .next => .poll name waker
  | .value => .value name
  | .collect => .collect name

/-- The operation of a driver. -/
def Driver.operation (driver : Driver) : Operation :=
  Request.operation driver.request driver.name driver.waker

/-- The subscription after a poll came to an outcome. -/
def Subscription.after (subscription : Subscription) (outcome : Outcome) : Subscription :=
  match outcome with
  | .ready _ => { subscription with done := true, busy := false }
  | _ => { subscription with busy := false }

namespace Subscription

variable (subscription : Subscription) (outcome : Outcome)

@[simp]
theorem after_cell : (subscription.after outcome).cell = subscription.cell := by
  cases outcome <;> rfl

@[simp]
theorem after_id : (subscription.after outcome).id = subscription.id := by
  cases outcome <;> rfl

@[simp]
theorem after_busy : (subscription.after outcome).busy = false := by
  cases outcome <;> rfl

/-- Who is done stays done. -/
theorem after_done (done : subscription.done = true) :
    (subscription.after outcome).done = true := by
  cases outcome with
  | ready value => rfl
  | pending | panicked message => exact done

end Subscription

namespace Machine

/-- Nothing has happened. -/
def initial : Machine := ⟨[], [], [], [], [], [], none, []⟩

/-- The computation at a place. -/
def cell? (machine : Machine) (place : Nat) : Option ScriptCell := machine.cells[place]?

/-- Changes the computation at a place. -/
def modifyCell (machine : Machine) (place : Nat) (change : ScriptCell → ScriptCell) : Machine :=
  { machine with cells := machine.cells.modify place change }

/-- Notes an entry. -/
def note (machine : Machine) (entry : Entry) : Machine :=
  { machine with journal := entry :: machine.journal }

/-- Notes that subscriptions of a computation are woken. -/
def noteWakes (machine : Machine) (place : Nat) (waiting : List (Nat × Waker)) : Machine :=
  { machine with
    journal := waiting.reverse.map (fun entry => .woke place entry.1 entry.2) ++ machine.journal }

/-- Wakes everybody who waits for a computation. -/
def notify (machine : Machine) (place : Nat) : Machine :=
  match machine.cell? place with
  | some cell => (machine.noteWakes place cell.waiting).modifyCell place Cell.notify
  | none => machine

/-- Uses the waker of a computation. -/
def wakeCell (machine : Machine) (place : Nat) : Machine :=
  (machine.note (.notified place)).notify place

/-- Answers an operation: inside a poll this is noted, outside it is the answer of the machine. -/
def reply (machine : Machine) (operation : Operation) (answer : Answer) : Machine :=
  match machine.frames with
  | [] => { machine with answer := some answer }
  | _ :: _ => machine.note (.nested operation answer)

/-- Adds a computation under a handle. -/
def addCell (machine : Machine) (handle : String) (cell : ScriptCell) : Machine :=
  { machine with
    cells := machine.cells ++ [cell]
    handles := put handle machine.cells.length machine.handles }

/-- Lets go of a subscription that has a name. -/
def dropSubscription (machine : Machine) (name : String) : Machine :=
  match machine.subscriptions.lookup name with
  | some subscription =>
    { machine.modifyCell subscription.cell (·.unregister subscription.id) with
      subscriptions := remove name machine.subscriptions }
  | none => machine

/-- Changes a subscription that has a name. -/
def modifySubscription (machine : Machine) (name : String)
    (change : Subscription → Subscription) : Machine :=
  match machine.subscriptions.lookup name with
  | some subscription =>
    { machine with subscriptions := put name (change subscription) machine.subscriptions }
  | none => machine

/-- The name of a driver still stands for its subscription. -/
def owns (machine : Machine) (driver : Driver) : Bool :=
  match machine.subscriptions.lookup driver.name with
  | some subscription => subscription.cell == driver.cell && subscription.id == driver.id
  | none => false

/-- Gives back the subscription of a driver; one that is used up or was replaced is let go of. -/
def release (machine : Machine) (driver : Driver) (outcome : Outcome) : Machine :=
  if machine.owns driver then
    match driver.request with
    | .next => machine.modifySubscription driver.name (Subscription.after · outcome)
    | _ => machine.dropSubscription driver.name
  else machine.modifyCell driver.cell (·.unregister driver.id)

/-- Answers a poll. -/
def conclude (machine : Machine) (driver : Driver) (outcome : Outcome) : Machine :=
  (machine.release driver outcome).reply driver.operation (Request.answer driver.request outcome)

/-- Ends the poll of a subscription that was not done. -/
def finish (machine : Machine) (driver : Driver) (outcome : Outcome) : Machine :=
  (machine.note (.answered driver.cell driver.id outcome)).conclude driver outcome

/-- Pushes a frame for a poll. -/
def push (machine : Machine) (driver : Driver) (work : Work) : Machine :=
  { machine.modifySubscription driver.name (fun subscription => { subscription with busy := true })
    with frames := ⟨driver, work⟩ :: machine.frames }

/-- The work of one poll of a computation. -/
def pollWork (future : Future) : Work :=
  .polling (future.polls.headD []) ⟨future.count + 1, future.polls.tail⟩

/-- Gets the computation of a driver ready, and notes that it is polled. -/
def enter (machine : Machine) (driver : Driver) (future : Future) : Machine :=
  (machine.modifyCell driver.cell (·.prepare driver.id driver.waker)).note
    (.polled driver.cell future.count)

/-- Polls a subscription that is neither busy nor done. -/
def approach (machine : Machine) (driver : Driver) (cell : ScriptCell) : Machine :=
  let asked := machine.note (.asked driver.cell driver.id driver.waker)
  let found := cell.approach driver.id driver.waker
  let moved := asked.modifyCell driver.cell fun _ => found.2
  match found.1 with
  | .settled outcome => moved.finish driver (.ready outcome)
  | .wait => moved.finish driver .pending
  | .start factory =>
    (moved.note (.started driver.cell factory.announced)).push driver
      (.starting factory.operations factory.panics factory.future)
  | .drive future => (moved.enter driver future).push driver (pollWork future)

/-- Polls a subscription. -/
def poll (machine : Machine) (request : Request) (name : String) (waker : Waker) : Machine :=
  let operation := Request.operation request name waker
  match machine.subscriptions.lookup name with
  | none => machine.reply operation .missing
  | some subscription =>
    let driver : Driver := ⟨name, subscription.cell, subscription.id, waker, request⟩
    if subscription.busy then machine.reply operation .busy
    else if subscription.done then machine.conclude driver (.ready none)
    else
      match machine.cell? subscription.cell with
      | some cell => machine.approach driver cell
      | none => machine.reply operation .missing

/-- Answers a question about the computation of a handle. -/
def inspect (machine : Machine) (operation : Operation) (handle : String)
    (question : ScriptCell → Answer) : Machine :=
  match (machine.handles.lookup handle).bind machine.cell? with
  | some cell => machine.reply operation (question cell)
  | none => machine.reply operation .missing

/-- Answers a question about a subscription. -/
def inspectSubscription (machine : Machine) (operation : Operation) (name : String)
    (question : Subscription → Answer) : Machine :=
  match machine.subscriptions.lookup name with
  | some subscription =>
    machine.reply operation (if subscription.busy then .busy else question subscription)
  | none => machine.reply operation .missing

/-- A truth value as text. -/
def flagText (value : Bool) : String := if value then "true" else "false"

/-- The description of a handle. -/
def describeStage (stage : Stage) : String := "Replay \x7b state: " ++ stage.name ++ ", .. \x7d"

/-- The description of a subscription. -/
def describeSubscription (id : Nat) (done : Bool) : String :=
  "Subscription \x7b id: " ++ toString id ++ ", done: " ++ flagText done ++ " \x7d"

/-- Frees a name for a subscription; one that is being polled is let go of when its poll ends. -/
def freeName (machine : Machine) (name : String) : Machine :=
  match machine.subscriptions.lookup name with
  | some subscription => if subscription.busy then machine else machine.dropSubscription name
  | none => machine

/-- Subscribes to the computation of a handle under a name, in place of an earlier subscription. -/
def subscribe (machine : Machine) (handle name : String) : Machine :=
  let operation := Operation.subscribe handle name
  match machine.handles.lookup handle with
  | none => machine.reply operation .missing
  | some place =>
    match machine.cell? place with
    | none => machine.reply operation .missing
    | some cell =>
      let freed := (machine.modifyCell place Cell.subscribe).freeName name
      { freed with
        subscriptions := put name ⟨place, cell.nextId, false, false⟩ freed.subscriptions }.reply
          operation .ok

/-- Wakes the computation that is kept under a name and forgets the name. -/
def wakeKept (machine : Machine) (name : String) : Machine :=
  match machine.kept.lookup name with
  | some place => { machine with kept := remove name machine.kept }.wakeCell place
  | none => machine

/-- Begins an operation; one that drives a computation leaves a frame. -/
def start (machine : Machine) (operation : Operation) : Machine :=
  match operation with
  | .createLazy handle factory panics polls =>
    (machine.addCell handle (.ofPhase (.idle ⟨true, factory, panics, ⟨0, polls⟩⟩))).reply
      operation .ok
  | .create handle polls =>
    (machine.addCell handle (.ofPhase (.idle ⟨false, [], none, ⟨0, polls⟩⟩))).reply operation .ok
  | .createSettled handle outcome =>
    (machine.addCell handle (.ofPhase (Cell.settledPhase outcome))).reply operation .ok
  | .clone handle target =>
    match machine.handles.lookup handle with
    | some place =>
      { machine with handles := put target place machine.handles }.reply operation .ok
    | none => machine.reply operation .missing
  | .dropHandle handle =>
    { machine with handles := remove handle machine.handles }.reply operation
      (.flag (machine.handles.lookup handle).isSome)
  | .same left right =>
    match machine.handles.lookup left, machine.handles.lookup right with
    | some first, some second => machine.reply operation (.flag (first == second))
    | _, _ => machine.reply operation .missing
  | .stage handle => machine.inspect operation handle fun cell => .stage cell.stage
  | .peek handle => machine.inspect operation handle fun cell => .optional cell.peek
  | .describe handle =>
    machine.inspect operation handle fun cell => .text (describeStage cell.stage)
  | .subscribe handle name => machine.subscribe handle name
  | .poll name waker => machine.poll .next name waker
  | .value name => machine.poll .value name .silent
  | .collect name => machine.poll .collect name .silent
  | .drop name =>
    match machine.subscriptions.lookup name with
    | some subscription =>
      if subscription.busy then machine.reply operation .busy
      else (machine.dropSubscription name).reply operation .ok
    | none => machine.reply operation .missing
  | .sizeHint name =>
    machine.inspectSubscription operation name fun subscription =>
      .sizeHint 0 (if subscription.done then 0 else 1)
  | .terminated name =>
    machine.inspectSubscription operation name fun subscription => .flag subscription.done
  | .describeSubscription name =>
    machine.inspectSubscription operation name fun subscription =>
      .text (describeSubscription subscription.id subscription.done)
  | .wake name =>
    match machine.kept.lookup name with
    | some _ => (machine.wakeKept name).reply operation .ok
    | none => machine.reply operation .missing
  | .openGate name outcome =>
    ({ machine with gates := put name outcome machine.gates }.wakeKept name).reply operation .ok

/-- The computation gave an outcome. -/
def resolve (machine : Machine) (driver : Driver) (outcome : Option String) : Machine :=
  let waiting := ((machine.cell? driver.cell).map Cell.waiting).getD []
  (((machine.noteWakes driver.cell waiting).modifyCell driver.cell
    (·.settle outcome)).modifyCell driver.cell (·.unregister driver.id)).finish driver
      (.ready outcome)

/-- The computation or its factory panicked. -/
def abandon (machine : Machine) (driver : Driver) (message : String) : Machine :=
  let waiting := ((machine.cell? driver.cell).map Cell.waiting).getD []
  ((machine.noteWakes driver.cell waiting).modifyCell driver.cell (·.settle none)).finish driver
    (.panicked message)

/-- The computation is not over; if it was woken in the meantime, everybody is woken. -/
def suspend (machine : Machine) (driver : Driver) (rest : Future) : Machine :=
  let parked := machine.modifyCell driver.cell (·.park rest)
  let woken := ((machine.cell? driver.cell).map Cell.woken).getD false
  let passed :=
    if woken then
      (parked.modifyCell driver.cell (·.register driver.id driver.waker)).notify driver.cell
    else parked
  passed.finish driver .pending

/-- One step of the topmost frame; without a frame nothing happens. -/
def step (machine : Machine) : Machine :=
  match machine.frames with
  | [] => machine
  | ⟨driver, .starting (operation :: operations) panics future⟩ :: below =>
    { machine with frames := ⟨driver, .starting operations panics future⟩ :: below }.start
      operation
  | ⟨driver, .starting [] (some message) _⟩ :: below =>
    { machine with frames := below }.abandon driver message
  | ⟨driver, .starting [] none future⟩ :: below =>
    { machine with frames := ⟨driver, pollWork future⟩ :: below }.enter driver future
  | ⟨driver, .polling [] rest⟩ :: below => { machine with frames := below }.suspend driver rest
  | ⟨driver, .polling (action :: actions) rest⟩ :: below =>
    let going := { machine with frames := ⟨driver, .polling actions rest⟩ :: below }
    let leaving := { machine with frames := below }
    match action with
    | .wake => going.wakeCell driver.cell
    | .keep name => { going with kept := put name driver.cell going.kept }
    | .ready outcome => leaving.resolve driver outcome
    | .pending => leaving.suspend driver rest
    | .panic message => leaving.abandon driver message
    | .gate name =>
      match machine.gates.lookup name with
      | some outcome => leaving.resolve driver outcome
      | none => { leaving with kept := put name driver.cell leaving.kept }.suspend driver rest
    | .run operation => going.start operation

end Machine
end Replay
end LinkFacts
