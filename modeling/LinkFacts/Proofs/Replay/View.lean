import LinkFacts.Proofs.Naming
import LinkFacts.Replay.Machine

/-!
# What concerns one computation

A view holds what a machine keeps of one computation: its cell, its subscriptions by name, the polls
that drive it, and its part of the journal.  Every function of the machine changes each view on its
own, which is what the lemmas here say.
-/

namespace LinkFacts
namespace Replay

open Naming

/-- The computation that an entry of the journal tells about. -/
def Entry.place? : Entry → Option Nat
  | .started cell _ => some cell
  | .polled cell _ => some cell
  | .woke cell _ _ => some cell
  | .asked cell _ _ => some cell
  | .answered cell _ _ => some cell
  | .notified cell => some cell
  | .nested _ _ => none

/-- What a machine keeps of one computation. -/
structure View where
  /-- The computation, once it was made. -/
  cell : Option ScriptCell
  /-- Its subscriptions, by name. -/
  named : String → Option Subscription
  /-- The polls in progress that drive it. -/
  frames : List Frame
  /-- What could be noticed of it, the latest first. -/
  history : List Entry

namespace View

/-- Notes an entry. -/
def note (view : View) (entry : Entry) : View := { view with history := entry :: view.history }

/-- Changes the computation. -/
def modify (view : View) (change : ScriptCell → ScriptCell) : View :=
  { view with cell := view.cell.map change }

/-- Lets a name stand for a subscription, or for none. -/
def assign (view : View) (name : String) (held : Option Subscription) : View :=
  { view with named := fun other => if other = name then held else view.named other }

/-- Lets go of the subscription that has a name. -/
def drop (view : View) (name : String) : View :=
  match view.named name with
  | some subscription => (view.modify (·.unregister subscription.id)).assign name none
  | none => view

/-- Notes that all who wait are woken. -/
def noteWakes (view : View) (place : Nat) : View :=
  let waiting := (view.cell.map Cell.waiting).getD []
  { view with
    history := waiting.reverse.map (fun entry => .woke place entry.1 entry.2) ++ view.history }

/-- Wakes everybody who waits. -/
def notify (view : View) (place : Nat) : View := (view.noteWakes place).modify Cell.notify

/-- Gives back the subscription of a driver; one that lost its name is let go of. -/
def release (view : View) (driver : Driver) (outcome : Outcome) : View :=
  match view.named driver.name with
  | some subscription =>
    if subscription.id = driver.id then
      view.assign driver.name (some (subscription.after outcome))
    else view.modify (·.unregister driver.id)
  | none => view.modify (·.unregister driver.id)

/-- Ends the poll of a subscription. -/
def finish (view : View) (driver : Driver) (outcome : Outcome) : View :=
  (view.note (.answered driver.cell driver.id outcome)).release driver outcome

/-- The subscription of a driver is being polled. -/
def push (view : View) (driver : Driver) (work : Work) : View :=
  { view.assign driver.name ((view.named driver.name).map fun subscription =>
      { subscription with busy := true }) with
    frames := ⟨driver, work⟩ :: view.frames }

/-- Gets the computation of a driver ready, and notes that it is polled. -/
def enter (view : View) (driver : Driver) (future : Future) : View :=
  (view.modify (·.prepare driver.id driver.waker)).note (.polled driver.cell future.count)

theorem assign_of_named {view : View} {name : String} {held : Option Subscription}
    (named : view.named name = held) : view.assign name held = view := by
  obtain ⟨cell, names, frames, history⟩ := view
  subst named
  simp only [assign, View.mk.injEq, true_and, and_true]
  funext other
  split
  · next same => rw [same]
  · rfl

section Found

variable {view : View} {cell : ScriptCell}

/-- The computation after a change of it. -/
theorem cell_modify (found : view.cell = some cell) (change : ScriptCell → ScriptCell) :
    (view.modify change).cell = some (change cell) :=
  congrArg (Option.map change) found

theorem cell_notify (found : view.cell = some cell) (place : Nat) :
    (view.notify place).cell = some cell.notify :=
  cell_modify (show (view.noteWakes place).cell = some cell from found) Cell.notify

theorem cell_enter (found : view.cell = some cell) (driver : Driver) (future : Future) :
    (view.enter driver future).cell = some (cell.prepare driver.id driver.waker) :=
  cell_modify found (·.prepare driver.id driver.waker)

end Found

end View

namespace Machine

/-- What a machine keeps of the computation at a place. -/
def view (machine : Machine) (place : Nat) : View where
  cell := machine.cell? place
  named name := (machine.subscriptions.lookup name).filter (·.cell = place)
  frames := machine.frames.filter (·.driver.cell = place)
  history := machine.journal.filter (·.place? = some place)

variable (machine : Machine) (place : Nat)

theorem view_note (entry : Entry) :
    (machine.note entry).view place =
      if entry.place? = some place then (machine.view place).note entry
      else machine.view place := by
  by_cases same : entry.place? = some place <;>
    simp [view, note, View.note, cell?, same]

theorem view_reply (operation : Operation) (answer : Answer) :
    (machine.reply operation answer).view place = machine.view place := by
  unfold reply
  split
  · rfl
  · rw [view_note]
    rfl

theorem view_modifyCell (other : Nat) (change : ScriptCell → ScriptCell) :
    (machine.modifyCell other change).view place =
      if other = place then (machine.view place).modify change else machine.view place := by
  by_cases same : other = place <;>
    simp [view, modifyCell, View.modify, cell?, same]

theorem view_noteWakes (other : Nat) :
    (machine.noteWakes other (((machine.cell? other).map Cell.waiting).getD [])).view place =
      if other = place then (machine.view place).noteWakes place else machine.view place := by
  generalize same_waiting : ((machine.cell? other).map Cell.waiting).getD [] = waiting
  have told : (waiting.reverse.map (fun entry => Entry.woke other entry.1 entry.2)).filter
      (·.place? = some place) =
        if other = place then waiting.reverse.map fun entry => Entry.woke other entry.1 entry.2
        else [] := by
    split
    · next same =>
      rw [List.filter_eq_self]
      simp only [List.mem_map, List.mem_reverse, decide_eq_true_eq]
      rintro entry ⟨pair, -, rfl⟩
      rw [Entry.place?, same]
    · next different =>
      rw [List.filter_eq_nil_iff]
      simp only [List.mem_map, List.mem_reverse, decide_eq_true_eq]
      rintro entry ⟨pair, -, rfl⟩
      simpa [Entry.place?] using different
  simp only [view, noteWakes, List.filter_append, told]
  split
  · next same =>
    subst same
    simp only [View.noteWakes, same_waiting]
    rfl
  · rfl

theorem view_notify (other : Nat) :
    (machine.notify other).view place =
      if other = place then (machine.view place).notify place else machine.view place := by
  unfold notify
  cases found : machine.cell? other with
  | none =>
      by_cases same : other = place
      · subst same
        simp [View.notify, View.noteWakes, View.modify, view, found]
      · simp [same]
  | some cell =>
      have noted := view_noteWakes machine place other
      simp only [found, Option.map_some, Option.getD_some] at noted
      simp only [view_modifyCell, noted]
      split <;> rfl

theorem view_wakeCell (other : Nat) :
    (machine.wakeCell other).view place =
      if other = place then ((machine.view place).note (.notified place)).notify place
      else machine.view place := by
  rw [wakeCell, view_notify, view_note]
  by_cases same : other = place <;> simp [same, Entry.place?]

theorem view_put (name : String) (subscription : Subscription) :
    { machine with subscriptions := put name subscription machine.subscriptions }.view place =
      (machine.view place).assign name
        (if subscription.cell = place then some subscription else none) := by
  simp only [view, View.assign, cell?, View.mk.injEq, true_and, and_true]
  funext other
  rw [lookup_put]
  split
  · simp [Option.filter_some]
  · rfl

private theorem view_remove (name : String) :
    { machine with subscriptions := remove name machine.subscriptions }.view place =
      (machine.view place).assign name none := by
  simp only [view, View.assign, cell?, View.mk.injEq, true_and, and_true]
  funext other
  rw [lookup_remove]
  split <;> rfl

private theorem view_modifySubscription (name : String) (change : Subscription → Subscription)
    (keeps : ∀ subscription, (change subscription).cell = subscription.cell) :
    (machine.modifySubscription name change).view place =
      (machine.view place).assign name (((machine.view place).named name).map change) := by
  unfold modifySubscription
  cases found : machine.subscriptions.lookup name with
  | none => simp [View.assign_of_named, view, found]
  | some subscription =>
      simp only [view_put, keeps]
      congr 1
      by_cases same : subscription.cell = place <;> simp [view, found, same, Option.filter_some]

theorem view_dropSubscription (name : String) :
    (machine.dropSubscription name).view place = (machine.view place).drop name := by
  unfold dropSubscription
  cases found : machine.subscriptions.lookup name with
  | none => simp [View.drop, view, found]
  | some subscription =>
      simp only
      refine (view_remove (machine.modifyCell subscription.cell _) place name).trans ?_
      rw [view_modifyCell]
      by_cases same : subscription.cell = place
      · have named : (machine.view place).named name = some subscription := by
          simp [view, found, same]
        simp [same, View.drop, named]
      · have unnamed : (machine.view place).named name = none := by simp [view, found, same]
        simp [same, View.drop, unnamed, View.assign_of_named]

/-- A driver that still owns its name owns it in the view of its computation. -/
theorem owns_iff (driver : Driver) : machine.owns driver ↔
    ∃ subscription, (machine.view driver.cell).named driver.name = some subscription ∧
      subscription.id = driver.id := by
  unfold owns
  cases found : machine.subscriptions.lookup driver.name with
  | none => simp [view, found]
  | some subscription =>
      by_cases same : subscription.cell = driver.cell
      · simp only [view, found, same, Option.filter_some, decide_true, beq_self_eq_true]
        simp
      · simp [view, found, same]

theorem view_release_of_ne (driver : Driver) (outcome : Outcome) (other : driver.cell ≠ place) :
    (machine.release driver outcome).view place = machine.view place := by
  unfold release
  split
  · next owned =>
    have unnamed : (machine.view place).named driver.name = none := by
      obtain ⟨subscription, named, -⟩ := (machine.owns_iff driver).mp owned
      simp only [view, Option.filter_eq_some_iff, decide_eq_true_eq] at named
      obtain ⟨found, here⟩ := named
      simp [view, found, here, other]
    split
    · rw [view_modifySubscription]
      · simp [unnamed, View.assign_of_named]
      · exact fun subscription => subscription.after_cell outcome
    · rw [view_dropSubscription, View.drop, unnamed]
  · simp [view_modifyCell, other]

/-- What a driver leaves behind is its subscription, or nothing if its poll used that up. -/
theorem view_release (driver : Driver) (outcome : Outcome) (here : driver.cell = place) :
    (machine.release driver outcome).view place = (machine.view place).release driver outcome ∨
      ∃ subscription,
        ((machine.view place).release driver outcome).named driver.name = some subscription ∧
        subscription.busy = false ∧
        (machine.release driver outcome).view place =
          ((machine.view place).release driver outcome).drop driver.name := by
  subst here
  unfold release
  split
  · next owned =>
    obtain ⟨subscription, named, same⟩ := (machine.owns_iff driver).mp owned
    have released : (machine.view driver.cell).release driver outcome =
        (machine.view driver.cell).assign driver.name (some (subscription.after outcome)) := by
      simp [View.release, named, same]
    split
    · left
      rw [view_modifySubscription, released, named]
      · rfl
      · exact fun subscription => subscription.after_cell outcome
    · right
      refine ⟨subscription.after outcome, ?_, subscription.after_busy outcome, ?_⟩
      · simp [released, View.assign]
      · rw [view_dropSubscription, released]
        simp only [View.drop, named, View.assign, if_true, View.modify, Subscription.after_id]
        congr 1
        funext other
        split <;> rfl
  · next lost =>
    left
    rw [owns_iff] at lost
    simp only [View.release, view_modifyCell, if_true]
    cases named : (machine.view driver.cell).named driver.name with
    | none => rfl
    | some subscription =>
        have different : subscription.id ≠ driver.id := fun same => lost ⟨_, named, same⟩
        simp [different]

theorem view_conclude (driver : Driver) (outcome : Outcome) :
    (machine.conclude driver outcome).view place =
      (machine.release driver outcome).view place :=
  view_reply _ _ _ _

theorem view_finish (driver : Driver) (outcome : Outcome) :
    (machine.finish driver outcome).view place =
      ((machine.note (.answered driver.cell driver.id outcome)).release driver outcome).view
        place :=
  view_conclude _ _ _ _

theorem view_push (driver : Driver) (work : Work)
    (owned : ∀ subscription, machine.subscriptions.lookup driver.name = some subscription →
      subscription.cell = driver.cell) :
    (machine.push driver work).view place =
      if driver.cell = place then (machine.view place).push driver work
      else machine.view place := by
  have marked := view_modifySubscription machine place driver.name
    (fun subscription => { subscription with busy := true }) fun _ => rfl
  have framed : (machine.push driver work).view place =
      { (machine.modifySubscription driver.name fun subscription =>
          { subscription with busy := true }).view place with
        frames := (⟨driver, work⟩ :: machine.frames).filter (·.driver.cell = place) } := rfl
  rw [framed, marked]
  by_cases here : driver.cell = place
  · simp only [here, if_true, View.push]
    congr 1
    simp [here, view]
  · have unnamed : (machine.view place).named driver.name = none := by
      cases found : machine.subscriptions.lookup driver.name with
      | none => simp [view, found]
      | some subscription => simp [view, found, owned _ found, here]
    simp only [here, if_false, unnamed, Option.map_none, View.assign_of_named unnamed]
    simp [here, view]

theorem view_enter (driver : Driver) (future : Future) :
    (machine.enter driver future).view place =
      if driver.cell = place then (machine.view place).enter driver future
      else machine.view place := by
  rw [enter, view_note, view_modifyCell]
  by_cases here : driver.cell = place <;> simp [here, Entry.place?, View.enter]

end Machine
end Replay
end LinkFacts
