import LinkFacts.Proofs.Replay.Agreement
import LinkFacts.Proofs.Replay.Waiting

/-!
# Panics

A computation that panics, or whose factory does, is over without a value when the panic leaves its
poll: all who waited were woken, nobody waits any more, and the poll is taken off the stack.  From
then on its subscriptions end at once, and it is never run again.  The panic concerns no other
computation, in particular none whose poll is in progress below.
-/

namespace LinkFacts
namespace Replay

/-- A subscription is woken. -/
def Entry.isWake : Entry → Bool
  | .woke .. => true
  | _ => false

private theorem filter_wakesOf (place : Nat) (waiting : List (Nat × Waker)) :
    (wakesOf place waiting).filter Entry.isWake = wakesOf place waiting := by
  apply List.filter_eq_self.mpr
  intro entry member
  obtain ⟨registered, -, rfl⟩ := List.mem_map.mp member
  rfl

namespace Machine

open Naming View

section Wakes

variable (machine : Machine)

/-- The wakes of subscriptions, the latest first. -/
def wakes : List Entry := machine.journal.filter Entry.isWake

private theorem wakes_reply (operation : Operation) (answer : Answer) :
    (machine.reply operation answer).wakes = machine.wakes := by
  unfold reply
  split <;> rfl

private theorem wakes_release (driver : Driver) (outcome : Outcome) :
    (machine.release driver outcome).wakes = machine.wakes := by
  unfold release modifySubscription dropSubscription
  split
  · split
    · split <;> rfl
    · split <;> rfl
  · rfl

private theorem wakes_finish (driver : Driver) (outcome : Outcome) :
    (machine.finish driver outcome).wakes = machine.wakes := by
  rw [finish, conclude, wakes_reply, wakes_release]
  rfl

/-- A panic wakes all who wait for the computation, and nobody else. -/
theorem wakes_abandon {driver : Driver} {cell : ScriptCell} (message : String)
    (found : machine.cell? driver.cell = some cell) :
    (machine.abandon driver message).wakes = wakesOf driver.cell cell.waiting ++ machine.wakes := by
  rw [abandon, wakes_finish, found, Option.map_some, Option.getD_some]
  have noted : ((machine.noteWakes driver.cell cell.waiting).modifyCell driver.cell
      (·.settle none)).journal = wakesOf driver.cell cell.waiting ++ machine.journal := rfl
  rw [wakes, noted, List.filter_append, filter_wakesOf, wakes]

end Wakes

/-- An operation begins in a state of a run that goes on from an earlier state. -/
inductive BeginsAfter (earlier : Machine) : Machine → Operation → Prop
  /-- No poll is in progress. -/
  | outside {machine : Machine} (later : earlier.Reaches machine) (quiet : machine.frames = [])
      (operation : Operation) : BeginsAfter earlier { machine with answer := none } operation
  /-- A computation or its factory runs the operation. -/
  | inside {machine origin : Machine} {operation : Operation} (later : earlier.Reaches machine)
      (calls : machine.call? = some (origin, operation)) : BeginsAfter earlier origin operation

section Over

variable {machine after origin : Machine} {place : Nat} {operation : Operation}
  {outcome : Option String}

private theorem BeginsAfter.begins (reach : machine.Reachable)
    (begins : machine.BeginsAfter origin operation) : origin.Begins operation := by
  cases begins with
  | outside later quiet => exact .outside (reach.trans later) quiet operation
  | inside later calls => exact .inside (reach.trans later) calls

/-- What is over is still over when an operation begins later. -/
theorem BeginsAfter.settled (reach : machine.Reachable)
    (begins : machine.BeginsAfter origin operation)
    (settled : machine.phase? place = some (Cell.settledPhase outcome)) :
    origin.phase? place = some (Cell.settledPhase outcome) := by
  cases begins with
  | outside later quiet => exact (reach.stays later settled).1
  | inside later calls =>
      have still := (reach.stays later settled).1
      rw [phase?, cell?] at still ⊢
      rwa [cells_of_call? calls]

/-- Nobody waits for what is over. -/
theorem Reachable.nobody_waits (reach : machine.Reachable)
    (settled : machine.phase? place = some (Cell.settledPhase outcome)) :
    ∃ cell, machine.cell? place = some cell ∧ cell.waiting = [] := by
  obtain ⟨cell, found, phase⟩ := Option.map_eq_some_iff.mp settled
  have served := reach.invariant (Served.kept place) (Served.initial place)
  refine ⟨cell, found, Classical.byContradiction fun waiting => ?_⟩
  have calm : cell.phase ≠ .driven := phase ▸ Cell.settledPhase_ne_driven outcome
  obtain ⟨⟨task, parked⟩, -⟩ := served.drained cell found calm waiting
  cases outcome <;> cases phase.symm.trans parked

/-- Nobody drives what is over. -/
theorem Reachable.nobody_drives (reach : machine.Reachable)
    (settled : machine.phase? place = some (Cell.settledPhase outcome)) :
    ∀ frame ∈ machine.frames, frame.driver.cell ≠ place := by
  rintro frame member rfl
  obtain ⟨cell, found, driven⟩ := reach.driven member
  rw [phase?, found, Option.map_some, driven, Option.some.injEq] at settled
  exact Cell.settledPhase_ne_driven outcome settled.symm

/-- Whatever subscription of a computation that is over is polled, the poll is answered at once: with
the outcome if the subscription is not done yet, and else with nothing. -/
theorem Begins.answered_at_once {request : Request} {name : String} {waker : Waker}
    {subscription : Subscription} (begins : origin.Begins operation)
    (settled : origin.phase? place = some (Cell.settledPhase outcome))
    (polls : operation.poll? = some (request, name, waker))
    (held : origin.subscriptions.lookup name = some subscription)
    (here : subscription.cell = place) :
    (origin.complete operation).frames = origin.frames ∧
      (origin.complete operation).lastAnswer? = some (Request.answer request
        (.ready (if subscription.done then none else outcome))) := by
  obtain ⟨home, id, done, busy⟩ := subscription
  subst here
  obtain ⟨cell, found, phase⟩ := Option.map_eq_some_iff.mp settled
  have sound := (begins.concluded home).1
  have quiet := sound.calm cell found (phase ▸ Cell.settledPhase_ne_driven outcome)
  have calm : busy = false := by
    have named : (origin.view home).named name = some ⟨home, id, done, busy⟩ := by
      simp [view, held]
    simpa [quiet] using (sound.fits name _ named).busy
  subst calm
  cases done with
  | false =>
      obtain ⟨_, _, _, polled⟩ := begins.polled origin polls held
      exact ⟨polled.frames, (begins.replayed polls held rfl rfl settled).2⟩
  | true =>
      rw [complete_done origin polls held, frames_conclude, conclude]
      exact ⟨rfl, lastAnswer?_reply _ _ _⟩

end Over

/-- What it means that the panic of a computation settles it. -/
structure PanicSettles (machine : Machine) (place : Nat) (message : String) : Prop where
  /-- The panic leaves the innermost poll with the next step, and leaves the polls below alone. -/
  leaves : ∃ driver work below, machine.frames = ⟨driver, work⟩ :: below ∧
    driver.cell = place ∧ machine.step.frames = below ∧
    machine.step.lastAnswer? = some (.panicked message)
  /-- The computation is over without a value. -/
  completed : machine.step.stage? place = some .completed
  /-- Everybody who waited is woken once, and nobody else is. -/
  woken : ∃ cell, machine.cell? place = some cell ∧
    machine.step.wakes = wakesOf place cell.waiting ++ machine.wakes
  /-- What concerns another computation stays as it is: the computation and those who wait for it,
  its subscriptions, the polls that drive it and what could be noticed of it. -/
  apart : ∀ other, other ≠ place → machine.step.view other = machine.view other
  /-- The subscription that drove the computation may be polled again. -/
  driver : ∀ driver work below, machine.frames = ⟨driver, work⟩ :: below → machine.owns driver →
    driver.request = .next →
    machine.step.subscriptions.lookup driver.name = some ⟨place, driver.id, false, false⟩
  /-- From then on it is over, it is not run, nobody drives it and nobody waits for it. -/
  stays : ∀ after, machine.step.Reaches after →
    after.stage? place = some .completed ∧ after.runs place = machine.runs place ∧
    (∀ frame ∈ after.frames, frame.driver.cell ≠ place) ∧
    ∃ cell, after.cell? place = some cell ∧ cell.waiting = []
  /-- From then on a poll of any of its subscriptions ends at once and without a value. -/
  ends : ∀ origin operation request name waker subscription,
    machine.step.BeginsAfter origin operation →
    operation.poll? = some (request, name, waker) →
    origin.subscriptions.lookup name = some subscription → subscription.cell = place →
    (origin.complete operation).frames = origin.frames ∧
      (origin.complete operation).lastAnswer? = some (Request.answer request (.ready none)) ∧
      (origin.complete operation).lastAnswer? ≠ some .pending

variable {machine : Machine} {place : Nat} {message : String}

/-- The innermost poll gives up its computation when it panics. -/
theorem step_of_panic (panics : machine.verdict? = some (place, .panicked message)) :
    ∃ driver work below, machine.frames = ⟨driver, work⟩ :: below ∧ driver.cell = place ∧
      machine.step = { machine with frames := below }.abandon driver message := by
  obtain ⟨driver, work, below, top, here⟩ := driver_of_verdict? panics
  refine ⟨driver, work, below, top, here, ?_⟩
  cases machine.stepped top with
  | entered begins goes => cases goes.symm.trans panics
  | called played goes => cases goes.symm.trans panics
  | kept kept played goes => cases goes.symm.trans panics
  | woken plays goes => cases goes.symm.trans panics
  | resolved outcome plays ends => cases ends.symm.trans panics
  | abandoned other plays ends steps =>
      cases ends.symm.trans panics
      exact steps
  | suspended kept plays goes => cases goes.symm.trans panics

/-- The subscription of a driver that still owns its name is busy and not done. -/
theorem Reachable.held_of_owns (reach : machine.Reachable) {driver : Driver} {work : Work}
    {below : List Frame} (top : machine.frames = ⟨driver, work⟩ :: below)
    (owned : machine.owns driver) :
    machine.subscriptions.lookup driver.name = some ⟨driver.cell, driver.id, false, true⟩ := by
  obtain ⟨⟨home, id, done, busy⟩, named, same⟩ := (machine.owns_iff driver).mp owned
  have fits := (reach.sound driver.cell).fits _ _ named
  have polled : busy = true :=
    fits.busy.mpr ⟨⟨driver, work⟩, by simp [view, top], same.symm⟩
  have unfinished : done = false := fits.open_of_busy polled
  have here : home = driver.cell := fits.home
  have found := (Option.filter_eq_some_iff.mp named).1
  subst polled unfinished here same
  exact found

/-- A plain poll that ends gives back the subscription under its name. -/
theorem lookup_finish (machine : Machine) {driver : Driver} {subscription : Subscription}
    (outcome : Outcome)
    (held : machine.subscriptions.lookup driver.name = some subscription)
    (here : subscription.cell = driver.cell) (same : subscription.id = driver.id)
    (request : driver.request = .next) :
    (machine.finish driver outcome).subscriptions.lookup driver.name =
      some (subscription.after outcome) := by
  have subscriptions_reply (changed : Machine) (operation : Operation) (answer : Answer) :
      (changed.reply operation answer).subscriptions = changed.subscriptions := by
    unfold reply
    split <;> rfl
  have noted : (machine.note (.answered driver.cell driver.id outcome)).subscriptions.lookup
      driver.name = some subscription := held
  have owned : (machine.note (.answered driver.cell driver.id outcome)).owns driver = true := by
    simp [owns, noted, here, same]
  rw [finish, conclude, subscriptions_reply, release, if_pos owned, request]
  simp only [modifySubscription, noted]
  rw [lookup_put, if_pos rfl]

/-- A panic settles the computation, wherever its poll stands in the run. -/
theorem Reachable.panic_settles (reach : machine.Reachable)
    (panics : machine.verdict? = some (place, .panicked message)) :
    PanicSettles machine place message := by
  obtain ⟨driver, work, below, top, rfl, steps⟩ := step_of_panic panics
  obtain ⟨value, ruled, settled, same_runs⟩ := reach.verdict panics
  have nothing : value = none := by
    obtain ready | ⟨nothing, -⟩ := ruled
    · cases ready
    · exact nothing
  subst nothing
  have reach_step : machine.step.Reachable := reach.tail (.step (by simp [top]))
  have stage_completed {after : Machine}
      (settled_after : after.phase? driver.cell = some (Cell.settledPhase none)) :
      after.stage? driver.cell = some .completed := by
    rw [stage?_eq, settled_after]
    rfl
  constructor
  case leaves =>
    refine ⟨driver, work, below, top, rfl, ?_, ?_⟩
    · rw [steps, abandon, frames_finish]
      rfl
    · rw [steps]
      exact lastAnswer?_finish _ _ _
  case completed => exact stage_completed settled
  case woken =>
    have framed : ⟨driver, work⟩ ∈ machine.frames := by simp [top]
    obtain ⟨cell, found, -⟩ := reach.driven framed
    refine ⟨cell, found, ?_⟩
    rw [steps]
    exact wakes_abandon _ message found
  case apart =>
    intro other apart
    rw [steps, view_abandon_of_ne _ _ _ apart.symm]
    simp [view, cell?, top, apart.symm]
  case driver =>
    intro other other_work other_below other_top owned request
    rw [top, List.cons.injEq, Frame.mk.injEq] at other_top
    obtain ⟨⟨rfl, -⟩, -⟩ := other_top
    have held := reach.held_of_owns top owned
    rw [steps, abandon]
    exact lookup_finish (({ machine with frames := below }.noteWakes _ _).modifyCell _ _)
      (.panicked message) held rfl rfl request
  case stays =>
    intro after later
    obtain ⟨settled_after, same⟩ := reach_step.stays later settled
    have reach_after : after.Reachable := reach_step.trans later
    exact ⟨stage_completed settled_after, same.trans same_runs,
      reach_after.nobody_drives settled_after, reach_after.nobody_waits settled_after⟩
  case ends =>
    intro origin operation request name waker subscription begins polls held here
    have answered := (begins.begins reach_step).answered_at_once
      (begins.settled reach_step settled) polls held here
    rw [ite_self] at answered
    refine ⟨answered.1, answered.2, ?_⟩
    rw [answered.2]
    cases request <;> rintro ⟨⟩

/-- One subscription waits for a computation when another polls it from within a second
computation. -/
def waitedInside : List Operation :=
  [.create "r" [[.pending], [.panic "p"]], .subscribe "r" "s", .subscribe "r" "t",
    .create "q" [[.run (.poll "s" .silent), .pending]], .subscribe "q" "u",
    .poll "t" (.named "w")]

/-- The second computation is about to be polled. -/
def polledOutside : Machine :=
  { initial.run waitedInside with answer := none }.start (.poll "u" (.named "v"))

/-- The first computation is about to panic. -/
def panicInside : Machine := polledOutside.step.step

theorem waiter_woken_by_panic :
    panicInside.step.stage? 0 = some .completed ∧
      panicInside.step.wakes = [.woke 0 1 (.named "w"), .woke 0 0 .silent] ∧
      panicInside.step.view 1 = panicInside.view 1 := by
  obtain ⟨reach, idle⟩ := reachable_run .refl rfl waitedInside
  have depth : polledOutside.frames.length = 1 := by cbv
  have depth_step : polledOutside.step.frames.length = 1 := by cbv
  have reach_panic : panicInside.Reachable := by
    apply Relation.ReflTransGen.tail (b := polledOutside.step)
    · exact (reach.tail (.perform idle _)).tail (.step (List.ne_nil_of_length_eq_add_one depth))
    · exact .step (List.ne_nil_of_length_eq_add_one depth_step)
  have panics : panicInside.verdict? = some (0, .panicked "p") := by cbv
  have found : panicInside.cell? 0 =
      some ⟨.driven, [(0, .silent), (1, .named "w")], false, 2⟩ := by cbv
  have nobody : panicInside.wakes = [] := by cbv
  have settles := reach_panic.panic_settles panics
  obtain ⟨cell, same, woken⟩ := settles.woken
  cases found.symm.trans same
  rw [nobody] at woken
  exact ⟨settles.completed, woken, settles.apart 1 (by decide)⟩

end Machine
end Replay
end LinkFacts
