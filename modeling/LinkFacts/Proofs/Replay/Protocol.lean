import LinkFacts.Proofs.Replay.Execution
import LinkFacts.Proofs.Replay.View

/-!
# The protocol of one computation

Whatever a machine does, each computation sees only a few kinds of changes.  `Touch` lists those that
an operation makes, `Drive` those that its own poll makes when it goes on.  `start_touches` and
`step_drives` say that there are no others, so that an invariant of one computation has to be checked
for these changes only.
-/

namespace LinkFacts
namespace Replay

/-- The phase in which an operation makes a computation. -/
def Operation.phase? : Operation → Option (Phase Factory Future String)
  | .createLazy _ factory panics polls => some (.idle ⟨true, factory, panics, ⟨0, polls⟩⟩)
  | .create _ polls => some (.idle ⟨false, [], none, ⟨0, polls⟩⟩)
  | .createSettled _ outcome => some (Cell.settledPhase outcome)
  | _ => none

theorem Operation.phase?_fresh {operation : Operation} {phase : Phase Factory Future String}
    (makes : operation.phase? = some phase) :
    phase ≠ .driven ∧ ∀ task, phase ≠ .parked task := by
  cases operation with
  | createLazy => cases makes; simp
  | create => cases makes; simp
  | createSettled handle outcome => cases outcome <;> cases makes <;> simp [Cell.settledPhase]
  | _ => cases makes

/-- One part of a script was played. -/
inductive Work.Played : Work → Work → Prop
  | starting (operation : Operation) (operations : List Operation) (panics : Option String)
      (future : Future) :
      Played (.starting (operation :: operations) panics future)
        (.starting operations panics future)
  | polling (action : Action) (actions : List Action) (rest : Future) :
      Played (.polling (action :: actions) rest) (.polling actions rest)

namespace Machine

/-- What the innermost computation comes to with the next step, if that ends it for good. -/
def verdict? (machine : Machine) : Option (Nat × Outcome) :=
  match machine.frames with
  | ⟨driver, .starting [] (some message) _⟩ :: _ => some (driver.cell, .panicked message)
  | ⟨driver, .polling (.ready outcome :: _) _⟩ :: _ => some (driver.cell, .ready outcome)
  | ⟨driver, .polling (.panic message :: _) _⟩ :: _ => some (driver.cell, .panicked message)
  | ⟨driver, .polling (.gate name :: _) _⟩ :: _ =>
    (machine.gates.lookup name).map fun outcome => (driver.cell, .ready outcome)
  | _ => none

end Machine

namespace View

/-- A driver stands for a subscription that is neither busy nor done. -/
def Ready (view : View) (driver : Driver) : Prop :=
  view.named driver.name = some ⟨driver.cell, driver.id, false, false⟩

/-- Notes that a poll begins. -/
def ask (view : View) (driver : Driver) : View :=
  view.note (.asked driver.cell driver.id driver.waker)

/-- Checks the computation out. -/
def checkOut (view : View) : View := view.modify fun cell => { cell with phase := .driven }

/-- Puts an unfinished computation back; if it was woken in the meantime, everybody is woken. -/
def suspend (view : View) (driver : Driver) (rest : Future) (woken : Bool) : View :=
  let parked := view.modify (·.park rest)
  let passed :=
    if woken then (parked.modify (·.register driver.id driver.waker)).notify driver.cell
    else parked
  passed.finish driver .pending

/-- What an operation changes of the computation at a place. -/
inductive Touch (operation : Operation) (place : Nat) : View → View → Prop
  | created {view : View} {phase : Phase Factory Future String} (missing : view.cell = none)
      (makes : operation.phase? = some phase) :
      Touch operation place view { view with cell := some (.ofPhase phase) }
  | subscribed {view : View} {cell : ScriptCell} (found : view.cell = some cell) {name : String}
      (unnamed : view.named name = none) :
      Touch operation place view
        ((view.modify Cell.subscribe).assign name (some ⟨place, cell.nextId, false, false⟩))
  | dropped {view : View} {name : String} {subscription : Subscription}
      (named : view.named name = some subscription) (calm : subscription.busy = false) :
      Touch operation place view (view.drop name)
  /-- A subscription that is being polled loses its name. -/
  | disowned {view : View} {name : String} {subscription : Subscription}
      (named : view.named name = some subscription) (busy : subscription.busy = true) :
      Touch operation place view (view.assign name none)
  | notified {view : View} :
      Touch operation place view ((view.note (.notified place)).notify place)
  | waited {view : View} {driver : Driver} {cell : ScriptCell} (here : driver.cell = place)
      (polls : operation.poll? = some (driver.request, driver.name, driver.waker))
      (ready : view.Ready driver) (found : view.cell = some cell) (phase : cell.phase = .driven) :
      Touch operation place view
        (((view.ask driver).modify (·.register driver.id driver.waker)).finish driver .pending)
  | replayed {view : View} {driver : Driver} {cell : ScriptCell} {outcome : Option String}
      (here : driver.cell = place)
      (polls : operation.poll? = some (driver.request, driver.name, driver.waker))
      (ready : view.Ready driver) (found : view.cell = some cell)
      (phase : cell.phase = Cell.settledPhase outcome) :
      Touch operation place view
        (((view.ask driver).modify (·.unregister driver.id)).finish driver (.ready outcome))
  | started {view : View} {driver : Driver} {cell : ScriptCell} {factory : Factory}
      (here : driver.cell = place)
      (polls : operation.poll? = some (driver.request, driver.name, driver.waker))
      (ready : view.Ready driver) (found : view.cell = some cell)
      (phase : cell.phase = .idle factory) :
      Touch operation place view
        (((view.ask driver).checkOut.note (.started driver.cell factory.announced)).push driver
          (.starting factory.operations factory.panics factory.future))
  | resumed {view : View} {driver : Driver} {cell : ScriptCell} {future : Future}
      (here : driver.cell = place)
      (polls : operation.poll? = some (driver.request, driver.name, driver.waker))
      (ready : view.Ready driver) (found : view.cell = some cell)
      (phase : cell.phase = .parked future) :
      Touch operation place view
        (((view.ask driver).checkOut.enter driver future).push driver (Machine.pollWork future))

/-- What the poll of the computation at a place changes when it goes on; the verdict is what the
computation comes to, if it comes to an end. -/
inductive Drive (verdict : Option (Nat × Outcome)) (place : Nat) : View → View → Prop
  | entered {view : View} {driver : Driver} {future : Future} {below : List Frame}
      (here : driver.cell = place) (goes : verdict = none)
      (top : view.frames = ⟨driver, .starting [] none future⟩ :: below) :
      Drive verdict place view
        ({ view with frames := ⟨driver, Machine.pollWork future⟩ :: below }.enter driver future)
  | moved {view : View} {driver : Driver} {work later : Work} {below : List Frame}
      (here : driver.cell = place) (goes : verdict = none) (played : work.Played later)
      (top : view.frames = ⟨driver, work⟩ :: below) :
      Drive verdict place view { view with frames := ⟨driver, later⟩ :: below }
  /-- The computation uses its own waker. -/
  | woken {view : View} {driver : Driver} {action : Action} {actions : List Action}
      {rest : Future} {below : List Frame} (here : driver.cell = place) (goes : verdict = none)
      (top : view.frames = ⟨driver, .polling (action :: actions) rest⟩ :: below) :
      Drive verdict place view
        (({ view with frames := ⟨driver, .polling actions rest⟩ :: below }.note
          (.notified place)).notify place)
  | resolved {view : View} {driver : Driver} {actions : List Action} {rest : Future}
      {below : List Frame} {outcome : Option String} (here : driver.cell = place)
      (ends : verdict = some (place, .ready outcome))
      (top : view.frames = ⟨driver, .polling actions rest⟩ :: below) :
      Drive verdict place view
        ((({ view with frames := below }.noteWakes place).modify (·.settle outcome)).modify
          (·.unregister driver.id) |>.finish driver (.ready outcome))
  | abandoned {view : View} {driver : Driver} {work : Work} {below : List Frame}
      {message : String} (here : driver.cell = place)
      (ends : verdict = some (place, .panicked message))
      (top : view.frames = ⟨driver, work⟩ :: below) :
      Drive verdict place view
        (({ view with frames := below }.noteWakes place).modify (·.settle none) |>.finish driver
          (.panicked message))
  | suspended {view : View} {driver : Driver} {actions : List Action} {rest : Future}
      {below : List Frame} {cell : ScriptCell} (here : driver.cell = place)
      (goes : verdict = none) (found : view.cell = some cell)
      (top : view.frames = ⟨driver, .polling actions rest⟩ :: below) :
      Drive verdict place view
        ({ view with frames := below }.suspend driver rest cell.woken)

/-- Frees a name for another subscription. -/
def vacate (view : View) (name : String) : View :=
  match view.named name with
  | some subscription => if subscription.busy then view.assign name none else view.drop name
  | none => view

/-- Any number of changes that an operation makes. -/
abbrev Touches (operation : Operation) (place : Nat) : View → View → Prop :=
  Relation.ReflTransGen (Touch operation place)

/-- A change of a computation depends on its value only. -/
theorem modify_const {view : View} {cell : ScriptCell} (found : view.cell = some cell)
    {change : ScriptCell → ScriptCell} {changed : ScriptCell} (same : change cell = changed) :
    view.modify (fun _ => changed) = view.modify change := by
  simp [modify, found, same]

/-- The computation after it was checked out. -/
theorem cell_checkOut {view : View} {cell : ScriptCell} (found : view.cell = some cell) :
    view.checkOut.cell = some { cell with phase := .driven } :=
  cell_modify found _

private theorem named_vacate (view : View) (name : String) :
    (view.vacate name).named name = none := by
  unfold vacate
  cases named : view.named name with
  | none => exact named
  | some subscription => cases busy : subscription.busy <;> simp [busy, View.drop, named, View.assign]

/-- Freeing a name does not count as a subscription. -/
theorem vacate_cell {view : View} (name : String) {cell : ScriptCell}
    (found : view.cell = some cell) :
    ∃ freed, (view.vacate name).cell = some freed ∧ freed.nextId = cell.nextId := by
  unfold vacate
  cases named : view.named name with
  | none => exact ⟨cell, found, rfl⟩
  | some subscription =>
      cases busy : subscription.busy with
      | true => exact ⟨cell, by simpa [busy, View.assign] using found, rfl⟩
      | false =>
          refine ⟨cell.unregister subscription.id, ?_, rfl⟩
          simp [busy, View.drop, named, View.assign, View.modify, found]

private theorem vacate_subscribe (view : View) (name : String) :
    (view.modify Cell.subscribe).vacate name = (view.vacate name).modify Cell.subscribe := by
  have same_named : (view.modify Cell.subscribe).named = view.named := rfl
  unfold vacate
  rw [same_named]
  cases named : view.named name with
  | none => rfl
  | some subscription =>
      cases busy : subscription.busy with
      | true => simp [busy, View.assign, View.modify]
      | false =>
          simp [busy, View.drop, named, View.assign, View.modify, Function.comp_def,
            Cell.unregister, Cell.subscribe]

private theorem vacate_touches (view : View) (operation : Operation) (place : Nat) (name : String) :
    Touches operation place view (view.vacate name) := by
  unfold vacate
  cases named : view.named name with
  | none => exact .refl
  | some subscription =>
      cases busy : subscription.busy with
      | true => simpa [busy] using .single (.disowned named busy)
      | false => simpa [busy] using .single (.dropped named busy)

end View

namespace Machine

open Naming View

variable (machine : Machine) (place : Nat) (operation : Operation)

private theorem release_touches (driver : Driver) (outcome : Outcome) (here : driver.cell = place) :
    Touches operation place ((machine.view place).release driver outcome)
      ((machine.release driver outcome).view place) := by
  obtain same | ⟨subscription, named, calm, dropped⟩ :=
    machine.view_release place driver outcome here
  · rw [same]
  · rw [dropped]
    exact .single (.dropped named calm)

private theorem finish_touches (driver : Driver) (outcome : Outcome) (here : driver.cell = place) :
    Touches operation place ((machine.view place).finish driver outcome)
      ((machine.finish driver outcome).view place) := by
  rw [view_finish]
  have released := (machine.note (.answered driver.cell driver.id outcome)).release_touches place
    operation driver outcome here
  simpa only [view_note, Entry.place?, here, if_true, View.finish] using released

private theorem view_finish_of_ne (driver : Driver) (outcome : Outcome)
    (other : driver.cell ≠ place) :
    (machine.finish driver outcome).view place = machine.view place := by
  rw [view_finish, view_release_of_ne _ _ _ _ other, view_note]
  simp [Entry.place?, other]

/-- The view after a poll has begun and has changed the cell of its computation. -/
theorem view_asked {driver : Driver} {cell changed : ScriptCell}
    (found : machine.cell? driver.cell = some cell) (change : ScriptCell → ScriptCell)
    (same : change cell = changed) :
    ((machine.note (.asked driver.cell driver.id driver.waker)).modifyCell driver.cell
      fun _ => changed).view driver.cell = ((machine.view driver.cell).ask driver).modify change := by
  have viewed : ((machine.view driver.cell).ask driver).cell = some cell := found
  rw [← modify_const viewed same, view_modifyCell, view_note]
  simp [Entry.place?, ask]

private theorem view_asked_of_ne {driver : Driver} (changed : ScriptCell)
    (other : driver.cell ≠ place) :
    ((machine.note (.asked driver.cell driver.id driver.waker)).modifyCell driver.cell
      fun _ => changed).view place = machine.view place := by
  rw [view_modifyCell, view_note]
  simp [Entry.place?, other]

private theorem view_approach_of_ne {driver : Driver} {cell : ScriptCell}
    (owned : ∀ subscription, machine.subscriptions.lookup driver.name = some subscription →
      subscription.cell = driver.cell) (other : driver.cell ≠ place) :
    (machine.approach driver cell).view place = machine.view place := by
  have untouched : ∀ changed, ((machine.note (.asked driver.cell driver.id
      driver.waker)).modifyCell driver.cell fun _ => changed).view place =
        machine.view place := fun changed => machine.view_asked_of_ne place changed other
  unfold approach Cell.approach
  cases cell.phase with
  | idle factory =>
      simp only
      rw [view_push, if_neg other, view_note, untouched]
      · simp [Entry.place?, other]
      · exact owned
  | parked future =>
      simp only
      rw [view_push, if_neg other, view_enter, if_neg other, untouched]
      exact owned
  | driven | resolved | completed =>
      simp only
      rw [view_finish_of_ne _ _ _ _ other, untouched]

/-- Polling a subscription that is neither busy nor done touches its computation only. -/
theorem approach_touches {driver : Driver} {cell : ScriptCell}
    (polls : operation.poll? = some (driver.request, driver.name, driver.waker))
    (named : machine.subscriptions.lookup driver.name =
      some ⟨driver.cell, driver.id, false, false⟩)
    (found : machine.cell? driver.cell = some cell) :
    Touches operation place (machine.view place) ((machine.approach driver cell).view place) := by
  have owned : ∀ subscription, machine.subscriptions.lookup driver.name = some subscription →
      subscription.cell = driver.cell := by
    rw [named]
    rintro subscription ⟨⟩
    rfl
  by_cases here : driver.cell = place
  · subst here
    unfold approach Cell.approach
    have stands : (machine.view driver.cell).Ready driver := by simp [Ready, view, named]
    have viewed : (machine.view driver.cell).cell = some cell := found
    cases phase : cell.phase with
    | idle factory =>
        refine .single ?_
        simp only
        rw [view_push]
        · rw [if_pos rfl, view_note,
            view_asked machine found (fun cell => { cell with phase := .driven }) rfl]
          simpa [Entry.place?] using .started rfl polls stands viewed phase
        · exact owned
    | parked future =>
        refine .single ?_
        simp only
        rw [view_push]
        · rw [if_pos rfl, view_enter, if_pos rfl,
            view_asked machine found (fun cell => { cell with phase := .driven }) rfl]
          exact .resumed rfl polls stands viewed phase
        · exact owned
    | driven =>
        refine .head (.waited rfl polls stands viewed phase) ?_
        rw [← view_asked machine found _ rfl]
        exact finish_touches _ _ _ _ _ rfl
    | resolved value =>
        have settled : cell.phase = Cell.settledPhase (some value) := phase
        refine .head (.replayed rfl polls stands viewed settled) ?_
        rw [← view_asked machine found _ rfl]
        exact finish_touches _ _ _ _ _ rfl
    | completed =>
        have settled : cell.phase = Cell.settledPhase none := phase
        refine .head (.replayed rfl polls stands viewed settled) ?_
        rw [← view_asked machine found _ rfl]
        exact finish_touches _ _ _ _ _ rfl
  · rw [view_approach_of_ne _ _ owned here]

/-- Polling a subscription touches its computation only. -/
theorem poll_touches {request : Request} {name : String} {waker : Waker}
    (polls : operation.poll? = some (request, name, waker)) :
    Touches operation place (machine.view place) ((machine.poll request name waker).view place) := by
  unfold poll
  cases found : machine.subscriptions.lookup name with
  | none => simpa [view_reply] using .refl
  | some subscription =>
      obtain ⟨home, id, done, busy⟩ := subscription
      cases busy with
      | true => simpa [view_reply] using .refl
      | false =>
          cases done with
          | true =>
              simp only [Bool.false_eq_true, if_false, if_true]
              rw [view_conclude]
              by_cases here : home = place
              · have named : (machine.view place).named name = some ⟨home, id, true, false⟩ := by
                  simp [view, found, here]
                have same : (machine.view place).release ⟨name, home, id, waker, request⟩
                    (.ready none) = machine.view place := by
                  simp only [View.release, named, if_true]
                  exact assign_of_named named
                have released := machine.release_touches place operation
                  ⟨name, home, id, waker, request⟩ (.ready none) here
                rwa [same] at released
              · rw [view_release_of_ne _ _ _ _ here]
          | false =>
              simp only [Bool.false_eq_true, if_false]
              cases cell_found : machine.cell? home with
              | none => simpa [view_reply] using .refl
              | some cell => exact machine.approach_touches place operation polls found cell_found

private theorem dropSubscription_touches {name : String}
    (calm : ∀ subscription, machine.subscriptions.lookup name = some subscription →
      subscription.busy = false) :
    Touches operation place (machine.view place) ((machine.dropSubscription name).view place) := by
  rw [view_dropSubscription]
  cases named : (machine.view place).named name with
  | none => simpa [View.drop, named] using .refl
  | some subscription =>
      refine .single (.dropped named (calm subscription ?_))
      simp only [view, Option.filter_eq_some_iff] at named
      exact named.1

private theorem wakeKept_touches (name : String) :
    Touches operation place (machine.view place) ((machine.wakeKept name).view place) := by
  unfold wakeKept
  cases machine.kept.lookup name with
  | none => exact .refl
  | some other =>
      simp only [view_wakeCell]
      split
      · exact .single .notified
      · exact .refl

private theorem view_freeName (name : String) (held : Option Subscription) :
    ((machine.freeName name).view place).assign name held =
      ((machine.view place).vacate name).assign name held := by
  have twice : ∀ view : View, (view.assign name none).assign name held =
      view.assign name held := by
    intro view
    simp only [View.assign, View.mk.injEq, true_and, and_true]
    funext other
    split <;> rfl
  unfold freeName vacate
  cases found : machine.subscriptions.lookup name with
  | none =>
      have unnamed : (machine.view place).named name = none := by simp [view, found]
      simp [unnamed]
  | some subscription =>
      by_cases here : subscription.cell = place
      · have named : (machine.view place).named name = some subscription := by
          simp [view, found, here]
        cases busy : subscription.busy <;> simp [named, busy, view_dropSubscription, twice]
      · have unnamed : (machine.view place).named name = none := by simp [view, found, here]
        simp only [unnamed]
        split
        · rfl
        · rw [view_dropSubscription, View.drop, unnamed]

/-- A new subscription touches its computation, and that of the subscription it replaces. -/
theorem subscribe_touches (handle name : String) :
    Touches operation place (machine.view place) ((machine.subscribe handle name).view place) := by
  unfold subscribe
  cases machine.handles.lookup handle with
  | none => simpa [view_reply] using .refl
  | some home =>
      cases found : machine.cell? home with
      | none => simpa [view_reply, found] using .refl
      | some cell =>
          simp only [found, view_reply]
          refine .trans ((machine.view place).vacate_touches operation place name) ?_
          have put_eq := view_put ((machine.modifyCell home Cell.subscribe).freeName name) place
            name ⟨home, cell.nextId, false, false⟩
          rw [view_freeName, view_modifyCell] at put_eq
          rw [put_eq]
          have unnamed := (machine.view place).named_vacate name
          by_cases here : home = place
          · subst here
            have viewed : (machine.view home).cell = some cell := found
            obtain ⟨freed, freed_found, same⟩ := vacate_cell name viewed
            simp only [if_true, vacate_subscribe, ← same]
            exact .single (.subscribed freed_found unnamed)
          · simpa only [here, if_false, assign_of_named unnamed] using .refl

private theorem addCell_touches {handle : String} {phase : Phase Factory Future String}
    (makes : operation.phase? = some phase) :
    Touches operation place (machine.view place)
      ((machine.addCell handle (.ofPhase phase)).view place) := by
  have added : (machine.addCell handle (.ofPhase phase)).view place =
      if place = machine.cells.length then
        { machine.view place with cell := some (.ofPhase phase) }
      else machine.view place := by
    rcases Nat.lt_trichotomy place machine.cells.length with before | same | after
    · rw [if_neg (by omega)]
      simp [view, addCell, cell?, List.getElem?_append_left before]
    · simp [view, addCell, cell?, same]
    · rw [if_neg (by omega)]
      simp only [view, addCell, cell?, View.mk.injEq, and_true]
      rw [List.getElem?_eq_none (by simp; omega), List.getElem?_eq_none (by omega)]
  rw [added]
  split
  · next same =>
    have missing : (machine.view place).cell = none := by
      simp [view, cell?, same]
    exact .single (.created missing makes)
  · exact .refl

/-- Whatever operation begins, each computation sees only the changes of the protocol. -/
theorem start_touches :
    Touches operation place (machine.view place) ((machine.start operation).view place) := by
  cases operation with
  | createLazy | create | createSettled =>
      simp only [start, view_reply]
      exact machine.addCell_touches place _ rfl
  | clone handle target =>
      simp only [start]
      split <;> rw [view_reply]
      exact .refl
  | dropHandle handle =>
      simp only [start, view_reply]
      exact .refl
  | same left right =>
      simp only [start]
      split <;> rw [view_reply]
  | stage | peek | describe =>
      simp only [start, inspect]
      split <;> rw [view_reply]
  | subscribe handle name => exact machine.subscribe_touches place _ handle name
  | poll | value | collect => exact machine.poll_touches place _ rfl
  | drop name =>
      simp only [start]
      cases found : machine.subscriptions.lookup name with
      | none => simpa [view_reply] using .refl
      | some subscription =>
          cases busy : subscription.busy with
          | true => simpa [busy, view_reply] using .refl
          | false =>
              simp only [busy, Bool.false_eq_true, if_false, view_reply]
              refine machine.dropSubscription_touches place _ fun other same => ?_
              rw [found, Option.some.injEq] at same
              rw [← same, busy]
  | sizeHint | terminated | describeSubscription =>
      simp only [start, inspectSubscription]
      split <;> rw [view_reply]
  | wake name =>
      simp only [start]
      split <;> rw [view_reply]
      exact machine.wakeKept_touches place _ name
  | openGate name outcome =>
      simp only [start, view_reply]
      exact wakeKept_touches { machine with gates := put name outcome machine.gates } place _ name

private theorem resolve_touches {driver : Driver} {outcome : Option String}
    (here : driver.cell = place) :
    Touches operation place
      ((((machine.view place).noteWakes place).modify (·.settle outcome)).modify
        (·.unregister driver.id) |>.finish driver (.ready outcome))
      ((machine.resolve driver outcome).view place) := by
  subst here
  have finished := finish_touches (((machine.noteWakes driver.cell
    (((machine.cell? driver.cell).map Cell.waiting).getD [])).modifyCell driver.cell
      (·.settle outcome)).modifyCell driver.cell (·.unregister driver.id))
    driver.cell operation driver (.ready outcome) rfl
  simp only [view_modifyCell, view_noteWakes, if_true] at finished
  exact finished

private theorem abandon_touches {driver : Driver} {message : String} (here : driver.cell = place) :
    Touches operation place
      (((machine.view place).noteWakes place).modify (·.settle none) |>.finish driver
        (.panicked message))
      ((machine.abandon driver message).view place) := by
  subst here
  have finished := finish_touches ((machine.noteWakes driver.cell
    (((machine.cell? driver.cell).map Cell.waiting).getD [])).modifyCell driver.cell
      (·.settle none)) driver.cell operation driver (.panicked message) rfl
  simp only [view_modifyCell, view_noteWakes, if_true] at finished
  exact finished

private theorem suspend_touches {driver : Driver} {rest : Future} {cell : ScriptCell}
    (here : driver.cell = place) (found : machine.cell? place = some cell) :
    Touches operation place ((machine.view place).suspend driver rest cell.woken)
      ((machine.suspend driver rest).view place) := by
  subst here
  unfold suspend View.suspend
  simp only [found, Option.map_some, Option.getD_some]
  cases cell.woken with
  | false =>
      have finished := finish_touches (machine.modifyCell driver.cell (·.park rest))
        driver.cell operation driver .pending rfl
      simp only [view_modifyCell, if_true] at finished
      exact finished
  | true =>
      have finished := finish_touches (((machine.modifyCell driver.cell (·.park rest)).modifyCell
        driver.cell (·.register driver.id driver.waker)).notify driver.cell)
        driver.cell operation driver .pending rfl
      simp only [view_modifyCell, view_notify, if_true] at finished
      exact finished

private theorem view_resolve_of_ne {driver : Driver} (outcome : Option String)
    (other : driver.cell ≠ place) :
    (machine.resolve driver outcome).view place = machine.view place := by
  unfold resolve
  rw [view_finish_of_ne _ _ _ _ other]
  simp only [view_modifyCell, view_noteWakes, other, if_false]

theorem view_abandon_of_ne {driver : Driver} (message : String) (other : driver.cell ≠ place) :
    (machine.abandon driver message).view place = machine.view place := by
  unfold abandon
  rw [view_finish_of_ne _ _ _ _ other]
  simp only [view_modifyCell, view_noteWakes, other, if_false]

private theorem view_suspend_of_ne {driver : Driver} (rest : Future) (other : driver.cell ≠ place) :
    (machine.suspend driver rest).view place = machine.view place := by
  unfold suspend
  rw [view_finish_of_ne _ _ _ _ other]
  split <;> simp only [view_modifyCell, view_notify, other, if_false]

private theorem call?_starting {driver : Driver} {operation : Operation}
    {operations : List Operation} {panics : Option String} {future : Future} {below : List Frame}
    (top : machine.frames =
      ⟨driver, .starting (operation :: operations) panics future⟩ :: below) :
    machine.call? = some ({ machine with
      frames := ⟨driver, .starting operations panics future⟩ :: below }, operation) := by
  simp only [call?, top]

private theorem call?_polling {driver : Driver} {operation : Operation} {actions : List Action}
    {rest : Future} {below : List Frame}
    (top : machine.frames = ⟨driver, .polling (.run operation :: actions) rest⟩ :: below) :
    machine.call? =
      some ({ machine with frames := ⟨driver, .polling actions rest⟩ :: below }, operation) := by
  simp only [call?, top]

/-- What a step does for the innermost poll, by what this poll has to do next. -/
inductive Stepped (driver : Driver) (work : Work) (below : List Frame) : Prop
  | entered {future : Future} (begins : work = .starting [] none future)
      (goes : machine.verdict? = none)
      (steps : machine.step =
        { machine with frames := ⟨driver, pollWork future⟩ :: below }.enter driver future)
  | called {later : Work} {operation : Operation} (played : work.Played later)
      (goes : machine.verdict? = none)
      (calls : machine.call? =
        some ({ machine with frames := ⟨driver, later⟩ :: below }, operation))
      (steps : machine.step =
        { machine with frames := ⟨driver, later⟩ :: below }.start operation)
  | kept {later : Work} (kept : List (String × Nat)) (played : work.Played later)
      (goes : machine.verdict? = none)
      (steps : machine.step = { machine with frames := ⟨driver, later⟩ :: below, kept })
  | woken {action : Action} {actions : List Action} {rest : Future}
      (plays : work = .polling (action :: actions) rest) (goes : machine.verdict? = none)
      (steps : machine.step =
        { machine with frames := ⟨driver, .polling actions rest⟩ :: below }.wakeCell driver.cell)
  | resolved {actions : List Action} {rest : Future} (outcome : Option String)
      (plays : work = .polling actions rest)
      (ends : machine.verdict? = some (driver.cell, .ready outcome))
      (steps : machine.step = { machine with frames := below }.resolve driver outcome)
  | abandoned (message : String)
      (plays : (∃ future, work = .starting [] (some message) future) ∨
        ∃ actions rest, work = .polling actions rest)
      (ends : machine.verdict? = some (driver.cell, .panicked message))
      (steps : machine.step = { machine with frames := below }.abandon driver message)
  | suspended {actions : List Action} {rest : Future} (kept : List (String × Nat))
      (plays : work = .polling actions rest) (goes : machine.verdict? = none)
      (steps : machine.step = { machine with frames := below, kept }.suspend driver rest)

theorem stepped {driver : Driver} {work : Work} {below : List Frame}
    (top : machine.frames = ⟨driver, work⟩ :: below) : machine.Stepped driver work below := by
  cases work with
  | starting operations panics future =>
      cases operations with
      | cons operation operations =>
          exact .called (.starting ..) (by simp [verdict?, top]) (machine.call?_starting top)
            (by simp only [step, top])
      | nil =>
          cases panics with
          | some message =>
              exact .abandoned message (.inl ⟨future, rfl⟩) (by simp [verdict?, top])
                (by simp only [step, top])
          | none => exact .entered rfl (by simp [verdict?, top]) (by simp only [step, top])
  | polling actions rest =>
      cases actions with
      | nil => exact .suspended machine.kept rfl (by simp [verdict?, top]) (by simp only [step, top])
      | cons action actions =>
          cases action with
          | wake => exact .woken rfl (by simp [verdict?, top]) (by simp only [step, top])
          | keep name =>
              exact .kept (put name driver.cell machine.kept) (.polling ..)
                (by simp [verdict?, top]) (by simp only [step, top])
          | ready outcome =>
              exact .resolved outcome rfl (by simp [verdict?, top]) (by simp only [step, top])
          | pending =>
              exact .suspended machine.kept rfl (by simp [verdict?, top]) (by simp only [step, top])
          | panic message =>
              exact .abandoned message (.inr ⟨_, _, rfl⟩) (by simp [verdict?, top])
                (by simp only [step, top])
          | gate name =>
              cases gate : machine.gates.lookup name with
              | some outcome =>
                  exact .resolved outcome rfl (by simp [verdict?, top, gate])
                    (by simp only [step, top, gate])
              | none =>
                  exact .suspended (put name driver.cell machine.kept) rfl
                    (by simp [verdict?, top, gate])
                    (by simp only [step, top, gate])
          | run operation =>
              exact .called (.polling ..) (by simp [verdict?, top]) (machine.call?_polling top)
                (by simp only [step, top])

/-- A step of the innermost poll drives its own computation, and then touches it if the step runs
an operation or lets go of the subscription. -/
theorem step_drives {driver : Driver} {work : Work} {below : List Frame} {cell : ScriptCell}
    (top : machine.frames = ⟨driver, work⟩ :: below)
    (found : machine.cell? driver.cell = some cell) :
    ∃ operation view, (operation = driver.operation ∨
        ∃ origin, machine.call? = some (origin, operation)) ∧
      Drive machine.verdict? driver.cell (machine.view driver.cell) view ∧
      Touches operation driver.cell view (machine.step.view driver.cell) := by
  have framed : (machine.view driver.cell).frames =
      ⟨driver, work⟩ :: below.filter (·.driver.cell = driver.cell) := by simp [view, top]
  have goes_on (later : Work) :
      { machine with frames := ⟨driver, later⟩ :: below }.view driver.cell =
        { machine.view driver.cell with
          frames := ⟨driver, later⟩ :: below.filter (·.driver.cell = driver.cell) } := by
    simp [view, cell?]
  have leaves : { machine with frames := below }.view driver.cell =
      { machine.view driver.cell with
        frames := below.filter (·.driver.cell = driver.cell) } := by
    simp [view, cell?]
  cases machine.stepped top with
  | entered begins goes steps =>
      subst begins
      refine ⟨driver.operation, _, .inl rfl, .entered rfl goes framed, ?_⟩
      rw [steps, view_enter, if_pos rfl, goes_on]
  | called played goes calls steps =>
      refine ⟨_, _, .inr ⟨_, calls⟩, .moved rfl goes played framed, ?_⟩
      rw [steps, ← goes_on]
      exact start_touches _ _ _
  | kept kept played goes steps =>
      refine ⟨driver.operation, _, .inl rfl, .moved rfl goes played framed, ?_⟩
      rw [steps, ← goes_on]
      exact .refl
  | woken plays goes steps =>
      subst plays
      refine ⟨driver.operation, _, .inl rfl, .woken rfl goes framed, ?_⟩
      rw [steps, view_wakeCell, if_pos rfl, goes_on]
  | resolved outcome plays ends steps =>
      subst plays
      refine ⟨driver.operation, _, .inl rfl, .resolved rfl ends framed, ?_⟩
      rw [steps, ← leaves]
      exact resolve_touches _ _ _ rfl
  | abandoned message plays ends steps =>
      refine ⟨driver.operation, _, .inl rfl, .abandoned rfl ends framed, ?_⟩
      rw [steps, ← leaves]
      exact abandon_touches _ _ _ rfl
  | suspended kept plays goes steps =>
      subst plays
      refine ⟨driver.operation, _, .inl rfl, .suspended rfl goes found framed, ?_⟩
      rw [steps, ← leaves]
      exact suspend_touches { machine with frames := below, kept } _ _ rfl found

/-- A step of the innermost poll touches another computation only by running an operation. -/
theorem step_touches {driver : Driver} {work : Work} {below : List Frame}
    (top : machine.frames = ⟨driver, work⟩ :: below) (other : driver.cell ≠ place) :
    ∃ operation, (operation = driver.operation ∨
        ∃ origin, machine.call? = some (origin, operation)) ∧
      Touches operation place (machine.view place) (machine.step.view place) := by
  have goes_on (later : Work) :
      machine.view place = { machine with frames := ⟨driver, later⟩ :: below }.view place := by
    simp [view, cell?, top, other]
  have leaves : machine.view place = { machine with frames := below }.view place := by
    simp [view, cell?, top, other]
  cases machine.stepped top with
  | called played goes calls steps =>
      refine ⟨_, .inr ⟨_, calls⟩, ?_⟩
      rw [steps, goes_on]
      exact start_touches _ _ _
  | entered begins goes steps =>
      refine ⟨driver.operation, .inl rfl, ?_⟩
      rw [steps, view_enter, if_neg other, ← goes_on]
  | @kept later kept played goes steps =>
      refine ⟨driver.operation, .inl rfl, ?_⟩
      rw [steps, goes_on later]
      exact .refl
  | woken plays goes steps =>
      refine ⟨driver.operation, .inl rfl, ?_⟩
      rw [steps, view_wakeCell, if_neg other, ← goes_on]
  | resolved outcome plays ends steps =>
      refine ⟨driver.operation, .inl rfl, ?_⟩
      rw [steps, view_resolve_of_ne _ _ _ other, ← leaves]
  | abandoned message plays ends steps =>
      refine ⟨driver.operation, .inl rfl, ?_⟩
      rw [steps, view_abandon_of_ne _ _ _ other, ← leaves]
  | suspended kept plays goes steps =>
      refine ⟨driver.operation, .inl rfl, ?_⟩
      rw [steps, view_suspend_of_ne _ _ _ other, leaves]
      exact .refl

end Machine
end Replay
end LinkFacts
