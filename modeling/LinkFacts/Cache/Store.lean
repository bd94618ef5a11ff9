import LinkFacts.Fetch.Provider
import LinkFacts.Replay.Cell

/-!
# The cache

One shared computation for each link, which fetches the facts of the link once.  Whoever watches a
link subscribes to its computation; the fetch begins when one of them is first polled.  A fetch
that fails, takes too long or finds nothing gives no value, and is never tried again.
-/

namespace LinkFacts

open Replay (Cell Waker Approach)

/-- Something worth a line in a log. -/
inductive LogEvent where
  /-- A link was requested for the first time. -/
  | creating (link : Link)
  /-- A fetch begins. -/
  | fetching (link : Link)
  /-- A fetch gave this many facts. -/
  | resolved (count : Nat)
  /-- A fetch gave no facts. -/
  | nothing
  /-- A fetch failed. -/
  | unavailable (retryable : Bool)
  /-- An anchor has no link. -/
  | noLink
  /-- An anchor is gone. -/
  | elementGone
  /-- Facts could not be rendered for an anchor. -/
  | notRendered (href : String)
  /-- A second value came to a dispatch. -/
  | alreadyDispatched
  deriving DecidableEq

/-- A fetch that waits. -/
structure FetchTask where
  /-- The link. -/
  link : Link
  /-- The gate at which the provider holds the fetch up. -/
  gate : Nat
  /-- When the fetch is given up. -/
  deadline : Option Nat

/-- The shared computation of a link. -/
abbrev FetchCell := Cell Link FetchTask Source

/-- Something that can be noticed of a cache. -/
inductive Note where
  /-- A subscription was woken. -/
  | woke (place id : Nat) (waker : Waker)
  /-- A line was logged. -/
  | logged (event : LogEvent)

/-- One subscription to a shared computation. -/
structure Watch where
  /-- The place of the computation. -/
  place : Nat
  /-- The number of the subscription. -/
  id : Nat
  /-- It has given all that it will ever give. -/
  done : Bool
  deriving DecidableEq, Repr

/-- What polling gives. -/
inductive Poll (α : Type) where
  /-- There is nothing yet. -/
  | pending
  /-- A value. -/
  | item (value : α)
  /-- There will be nothing more. -/
  | ended

/-- The caches of one provider and what they share. -/
structure Store where
  /-- Where facts come from. -/
  provider : Provider
  /-- After how many milliseconds a fetch is given up. -/
  timeout : Option Nat
  /-- All shared computations. -/
  cells : List FetchCell
  /-- For each cache the places of the computations of its links. -/
  caches : List (List (Link × Nat))
  /-- The time in milliseconds. -/
  clock : Nat
  /-- What could be noticed, the latest first. -/
  journal : List Note

namespace Store

/-- A store with one empty cache. -/
def start (provider : Provider) (timeout : Option Nat) : Store :=
  ⟨provider, timeout, [], [[]], 0, []⟩

/-- Logs an event. -/
def log (store : Store) (event : LogEvent) : Store :=
  { store with journal := .logged event :: store.journal }

/-- Changes the computation at a place. -/
def modifyCell (store : Store) (place : Nat) (change : FetchCell → FetchCell) : Store :=
  { store with cells := store.cells.modify place change }

/-- Notes that subscriptions are woken. -/
def noteWakes (store : Store) (place : Nat) (waiting : List (Nat × Waker)) : Store :=
  { store with
    journal := waiting.reverse.map (fun entry => .woke place entry.1 entry.2) ++ store.journal }

/-- Wakes everybody who waits for a computation. -/
def notify (store : Store) (place : Nat) : Store :=
  match store.cells[place]? with
  | some cell => (store.noteWakes place cell.waiting).modifyCell place Cell.notify
  | none => store

/-- Adds a computation; its place is the old number of computations. -/
def addCell (store : Store) (cell : FetchCell) : Store :=
  { store with cells := store.cells ++ [cell] }

/-- The place of a link's computation in a cache. -/
def placeOf? (store : Store) (cache : Nat) (link : Link) : Option Nat :=
  (store.caches[cache]?).bind fun entries => entries.lookup link

/-- The place of a link's computation in a cache, which is made on the first request. -/
def entry (store : Store) (cache : Nat) (link : Link) : Nat × Store :=
  match store.placeOf? cache link with
  | some place => (place, store)
  | none =>
    let place := store.cells.length
    let created := (store.log (.creating link)).addCell (.ofPhase (.idle link))
    (place, { created with caches := created.caches.modify cache ((link, place) :: ·) })

/-- Subscribes to the computation at a place. -/
def subscribe (store : Store) (place : Nat) : Watch × Store :=
  let id := ((store.cells[place]?).map Cell.nextId).getD 0
  (⟨place, id, false⟩, store.modifyCell place Cell.subscribe)

/-- Subscribes to the facts of a link. -/
def watch (store : Store) (cache : Nat) (link : Link) : Watch × Store :=
  let found := store.entry cache link
  found.2.subscribe found.1

/-- Lets go of a subscription. -/
def unwatch (store : Store) (watch : Watch) : Store :=
  store.modifyCell watch.place (·.unregister watch.id)

/-- The log event of a fetch that came to an end. -/
def eventOf : Fetched → LogEvent
  | .error failure => .unavailable failure.problem.isRetryable
  | .ok facts => if facts.isEmpty then .nothing else .resolved facts.size

/-- The value of a fetch that came to an end. -/
def sourceOf : Fetched → Option Source
  | .error _ => none
  | .ok facts => Source.ofFacts? facts

/-- A subscription that has given its outcome. -/
def conclude (store : Store) (watch : Watch) (outcome : Option Source) :
    Poll Source × Watch × Store :=
  (match outcome with
    | some source => .item source
    | none => .ended, { watch with done := true }, store)

/-- Ends the fetch that a subscription drives. -/
def settle (store : Store) (watch : Watch) (answer : Fetched) : Poll Source × Watch × Store :=
  let waiting := ((store.cells[watch.place]?).map Cell.waiting).getD []
  let settled := ((store.log (eventOf answer)).noteWakes watch.place waiting).modifyCell watch.place
    (·.settle (sourceOf answer))
  (settled.unwatch watch).conclude watch (sourceOf answer)

/-- Goes on with a fetch that has no answer yet: it is given up at its deadline. -/
def await (store : Store) (watch : Watch) (task : FetchTask) : Poll Source × Watch × Store :=
  if task.deadline.any (· ≤ store.clock) then
    store.settle watch (.error (.ofProblem .timeout))
  else (.pending, watch, store.modifyCell watch.place (·.park task))

/-- Begins the fetch of a link. -/
def begin (store : Store) (watch : Watch) (link : Link) : Poll Source × Watch × Store :=
  let begun := store.provider.begin link
  let started := { store.log (.fetching link) with provider := begun.2 }
  match begun.1 with
  | .answered answer => started.settle watch answer
  | .waits gate => started.await watch ⟨link, gate, store.timeout.map (store.clock + ·)⟩

/-- Goes on with a fetch. -/
def resume (store : Store) (watch : Watch) (task : FetchTask) : Poll Source × Watch × Store :=
  let polled := { store with provider := store.provider.polled }
  match store.provider.answer? task.gate with
  | some answer => polled.settle watch answer
  | none => polled.await watch task

/-- Polls a subscription. -/
def poll (store : Store) (watch : Watch) (waker : Waker) : Poll Source × Watch × Store :=
  if watch.done then (.ended, watch, store)
  else
    match store.cells[watch.place]? with
    | none => (.ended, watch, store)
    | some cell =>
      let found := cell.approach watch.id waker
      let moved := store.modifyCell watch.place fun _ => found.2
      let prepared := moved.modifyCell watch.place (·.prepare watch.id waker)
      match found.1 with
      | .settled outcome => moved.conclude watch outcome
      | .wait => (.pending, watch, moved)
      | .start link => prepared.begin watch link
      | .drive task => prepared.resume watch task

/-- The places of the computations that satisfy a test, in order. -/
def placesWhere (store : Store) (test : FetchCell → Bool) : List Nat :=
  (List.range store.cells.length).filter fun place => (store.cells[place]?).any test

/-- The fetch of a computation waits and satisfies a test. -/
def waitsFor (test : FetchTask → Bool) (cell : FetchCell) : Bool :=
  match cell.phase with
  | .parked task => test task
  | _ => false

/-- Wakes the computations whose waiting fetches satisfy a test. -/
def wakeWhere (store : Store) (test : FetchTask → Bool) : Store :=
  (store.placesWhere (waitsFor test)).foldl notify store

/-- Settles what is behind a gate and wakes the fetch that waits there. -/
def release (store : Store) (gate : Nat) (state : GateState) : Store :=
  { store with provider := store.provider.release gate state }.wakeWhere (·.gate == gate)

/-- Lets time pass and wakes the fetches whose deadline was reached. -/
def advance (store : Store) (duration : Nat) : Store :=
  let before := store.clock
  let now := before + duration
  { store with clock := now }.wakeWhere fun task =>
    task.deadline.any fun deadline => before < deadline && deadline ≤ now

/-- The provider's own fetch, polled once and then let go of. -/
def fetchOnce (store : Store) (link : Link) : Option Fetched × Store :=
  let begun := store.provider.begin link
  let after := { store with provider := begun.2 }
  match begun.1 with
  | .answered answer => (some answer, after)
  | .waits _ => (none, after)

end Store
end LinkFacts
