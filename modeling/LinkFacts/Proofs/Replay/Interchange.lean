import LinkFacts.Proofs.Replay.SingleRun

/-!
# Whoever drives

The outline of a machine leaves out who subscribes, who waits and who drives.  As long as no script
runs operations of its own, every operation changes the outline by what the outline says.  So it
makes no difference to a computation through which of its subscriptions it is polled.
-/

namespace LinkFacts
namespace Replay

open Naming

/-- Something that happens to a computation, whoever drives it. -/
inductive Happening where
  /-- It was started by its factory. -/
  | started (cell : Nat) (announced : Bool)
  /-- It was polled for the given time, counted from zero. -/
  | polled (cell count : Nat)
  /-- It panicked, or its factory did. -/
  | panicked (cell : Nat) (message : String)
  deriving DecidableEq, Repr

/-- What an entry of the journal tells of a computation. -/
def Entry.happening? : Entry → Option Happening
  | .started cell announced => some (.started cell announced)
  | .polled cell count => some (.polled cell count)
  | .answered cell _ (.panicked message) => some (.panicked cell message)
  | _ => none

/-! ## Scripts that run no operations -/

/-- The action is no operation. -/
def Action.plain : Action → Bool
  | .run _ => false
  | _ => true

/-- The computation runs no operations. -/
def Future.plain (future : Future) : Bool := future.polls.all (·.all Action.plain)

/-- The factory and its computation run no operations. -/
def Factory.plain (factory : Factory) : Bool := factory.operations.isEmpty && factory.future.plain

/-- Whatever is left of the computation runs no operations. -/
def Phase.plain : Phase Factory Future String → Bool
  | .idle factory => factory.plain
  | .parked future => future.plain
  | _ => true

/-- The operation makes no computation that runs operations. -/
def Operation.plain (operation : Operation) : Bool := operation.phase?.all Phase.plain

private theorem plain_settledPhase (outcome : Option String) :
    Phase.plain (Cell.settledPhase outcome) = true := by
  cases outcome <;> rfl

/-- Both the coming poll and what is left after it run no operations. -/
theorem plain_pollWork {future : Future} (plain : future.plain = true) :
    ∃ actions rest, Machine.pollWork future = .polling actions rest ∧
      actions.all Action.plain = true ∧ rest.plain = true := by
  refine ⟨_, _, rfl, ?_⟩
  unfold Future.plain at plain ⊢
  cases polls : future.polls with
  | nil => exact ⟨rfl, rfl⟩
  | cons actions others =>
      rw [polls, List.all_cons, Bool.and_eq_true] at plain
      exact plain

/-! ## Outlines -/

/-- What a machine holds, whoever subscribes, waits and drives. -/
structure Outline where
  /-- How far each computation has come. -/
  phases : List (Phase Factory Future String)
  /-- The places of computations, by the names of their handles. -/
  handles : List (String × Nat)
  /-- The places of computations whose wakers are kept, by name. -/
  kept : List (String × Nat)
  /-- The outcomes behind open gates. -/
  gates : List (String × Option String)
  /-- What happened to the computations, the latest first. -/
  happened : List Happening

namespace Outline

/-- The computation at a place is brought to a phase. -/
def set (outline : Outline) (place : Nat) (phase : Phase Factory Future String) : Outline :=
  { outline with phases := outline.phases.set place phase }

/-- Something may happen. -/
def tell (outline : Outline) (news : Option Happening) : Outline :=
  { outline with happened := news.toList ++ outline.happened }

/-- A computation is made under a handle. -/
def add (outline : Outline) (handle : String) (phase : Phase Factory Future String) : Outline :=
  { outline with
    phases := outline.phases ++ [phase]
    handles := put handle outline.phases.length outline.handles }

/-- The waker kept under a name is used up. -/
def wakeKept (outline : Outline) (name : String) : Outline :=
  match outline.kept.lookup name with
  | some _ => { outline with kept := remove name outline.kept }
  | none => outline

/-- An operation that polls nothing was run. -/
def after (outline : Outline) : Operation → Outline
  | .createLazy handle factory panics polls =>
    outline.add handle (.idle ⟨true, factory, panics, ⟨0, polls⟩⟩)
  | .create handle polls => outline.add handle (.idle ⟨false, [], none, ⟨0, polls⟩⟩)
  | .createSettled handle outcome => outline.add handle (Cell.settledPhase outcome)
  | .clone handle target =>
    match outline.handles.lookup handle with
    | some place => { outline with handles := put target place outline.handles }
    | none => outline
  | .dropHandle handle => { outline with handles := remove handle outline.handles }
  | .wake name => outline.wakeKept name
  | .openGate name outcome =>
    { outline with gates := put name outcome outline.gates }.wakeKept name
  | _ => outline

/-- The computation at a place plays a poll that runs no operations. -/
def play (outline : Outline) (place : Nat) : List Action → Future → Outline × Outcome
  | [], rest => (outline.set place (.parked rest), .pending)
  | .wake :: actions, rest => outline.play place actions rest
  | .keep name :: actions, rest =>
    { outline with kept := put name place outline.kept }.play place actions rest
  | .ready outcome :: _, _ => (outline.set place (Cell.settledPhase outcome), .ready outcome)
  | .pending :: _, rest => (outline.set place (.parked rest), .pending)
  | .panic message :: _, _ =>
    ((outline.set place .completed).tell (some (.panicked place message)), .panicked message)
  | .gate name :: _, rest =>
    match outline.gates.lookup name with
    | some outcome => (outline.set place (Cell.settledPhase outcome), .ready outcome)
    | none =>
      ({ outline with kept := put name place outline.kept }.set place (.parked rest), .pending)
  | .run _ :: actions, rest => outline.play place actions rest

/-- The computation at a place is polled once more. -/
def drive (outline : Outline) (place : Nat) (future : Future) : Outline × Outcome :=
  (outline.tell (some (.polled place future.count))).play place (future.polls.headD [])
    ⟨future.count + 1, future.polls.tail⟩

/-- A subscription of the computation at a place is polled; only one of a computation that is
there has something to find. -/
def poll (outline : Outline) (place : Nat) : Outline × Outcome :=
  match outline.phases[place]? with
  | some (.idle factory) =>
    let begun := (outline.set place .driven).tell (some (.started place factory.announced))
    match factory.panics with
    | some message =>
      ((begun.set place .completed).tell (some (.panicked place message)), .panicked message)
    | none => begun.drive place factory.future
  | some (.parked future) => (outline.set place .driven).drive place future
  | some (.resolved value) => (outline, .ready (some value))
  | some .completed => (outline, .ready none)
  | _ => (outline, .pending)

/-- No computation runs operations. -/
def Plain (outline : Outline) : Prop := ∀ phase ∈ outline.phases, phase.plain = true

/-- A computation may be set to the phase that it has. -/
theorem set_of_found {outline : Outline} {place : Nat} {phase : Phase Factory Future String}
    (found : outline.phases[place]? = some phase) : outline.set place phase = outline := by
  obtain ⟨inside, here⟩ := List.getElem?_eq_some_iff.mp found
  simp only [Outline.set, ← here, List.set_getElem_self]

private theorem Plain.set {outline : Outline} {phase : Phase Factory Future String}
    (plain : outline.Plain)
    (place : Nat) (fits : phase.plain = true) : (outline.set place phase).Plain := by
  intro other member
  obtain held | rfl := List.mem_or_eq_of_mem_set member
  · exact plain other held
  · exact fits

private theorem Plain.add {outline : Outline} {phase : Phase Factory Future String}
    (plain : outline.Plain)
    (handle : String) (fits : phase.plain = true) : (outline.add handle phase).Plain := by
  intro other member
  obtain held | fresh := List.mem_append.mp member
  · exact plain other held
  · cases List.mem_singleton.mp fresh
    exact fits

private theorem Plain.play {outline : Outline} {place : Nat} {actions : List Action} {rest : Future}
    (plain : outline.Plain) (fits : rest.plain = true) :
    (outline.play place actions rest).1.Plain := by
  fun_induction Outline.play outline place actions rest with
  | case1 outline rest => exact plain.set place fits
  | case2 outline actions rest ih => exact ih plain fits
  | case3 outline name actions rest ih => exact ih plain fits
  | case4 outline outcome => exact plain.set place (plain_settledPhase outcome)
  | case5 outline actions rest => exact plain.set place fits
  | case6 outline message => exact plain.set place rfl
  | case7 outline name actions rest outcome => exact plain.set place (plain_settledPhase outcome)
  | case8 outline name actions rest =>
      have kept : { outline with kept := put name place outline.kept }.Plain := plain
      exact kept.set place fits
  | case9 outline operation actions rest ih => exact ih plain fits

private theorem Plain.poll {outline : Outline} (plain : outline.Plain) (place : Nat) :
    (outline.poll place).1.Plain := by
  have drives (outline : Outline) (future : Future) (plain : outline.Plain)
      (fits : future.plain = true) : (outline.drive place future).1.Plain := by
    obtain ⟨_, rest, work, -, rest_plain⟩ := plain_pollWork fits
    cases work
    exact Plain.play plain rest_plain
  unfold Outline.poll
  split
  · next factory found =>
    have fits : factory.plain = true := plain _ (List.mem_of_getElem? found)
    rw [Factory.plain, Bool.and_eq_true] at fits
    dsimp only
    split
    · exact (plain.set place rfl).set place rfl
    · exact drives _ _ (plain.set place rfl) fits.2
  · next future found =>
    exact drives _ _ (plain.set place rfl) (plain _ (List.mem_of_getElem? found))
  · exact plain
  · exact plain
  · exact plain

private theorem phases_wakeKept (outline : Outline) (name : String) :
    (outline.wakeKept name).phases = outline.phases := by
  unfold wakeKept
  split <;> rfl

private theorem Plain.after {outline : Outline} {operation : Operation} (plain : outline.Plain)
    (fits : operation.plain = true) : (outline.after operation).Plain := by
  have same {changed : Outline} (phases : changed.phases = outline.phases) : changed.Plain := by
    unfold Plain
    rw [phases]
    exact plain
  cases operation with
  | createLazy handle | create handle | createSettled handle => exact plain.add handle fits
  | clone handle =>
      simp only [Outline.after]
      split <;> exact same rfl
  | wake name => exact same (phases_wakeKept _ name)
  | openGate name => exact same (phases_wakeKept _ name)
  | _ => exact same rfl

end Outline

namespace Machine

/-- The outline of a machine. -/
def outline (machine : Machine) : Outline where
  phases := machine.cells.map Cell.phase
  handles := machine.handles
  kept := machine.kept
  gates := machine.gates
  happened := machine.journal.filterMap Entry.happening?

section Outlines

variable (machine : Machine) (place : Nat) (name : String)

private theorem phase?_outline : machine.phase? place = machine.outline.phases[place]? := by
  simp [phase?, cell?, outline]

private theorem outline_note (entry : Entry) :
    (machine.note entry).outline = machine.outline.tell entry.happening? := by
  simp only [outline, note, Outline.tell, List.filterMap_cons]
  cases entry.happening? <;> rfl

/-- What keeps the phase of a computation keeps the outline. -/
theorem outline_modifyCell {change : ScriptCell → ScriptCell}
    (keeps : ∀ cell, (change cell).phase = cell.phase) :
    (machine.modifyCell place change).outline = machine.outline := by
  have phases : (machine.cells.modify place change).map Cell.phase =
      machine.cells.map Cell.phase := by
    refine List.ext_getElem? fun other => ?_
    rw [List.getElem?_map, List.getElem?_map, List.getElem?_modify]
    split <;> simp [Function.comp_def, keeps]
  simp only [outline, modifyCell, phases]

/-- What sets the phase of a computation sets it in the outline. -/
theorem outline_modifyCell_of_sets {change : ScriptCell → ScriptCell}
    {phase : Phase Factory Future String} (sets : ∀ cell, (change cell).phase = phase) :
    (machine.modifyCell place change).outline = machine.outline.set place phase := by
  have phases : (machine.cells.modify place change).map Cell.phase =
      (machine.cells.map Cell.phase).set place phase := by
    refine List.ext_getElem? fun other => ?_
    rw [List.getElem?_map, List.getElem?_modify, List.getElem?_set']
    split
    · next same =>
      subst same
      simp [Function.comp_def, sets, Function.const_def]
    · simp
  simp only [outline, modifyCell, Outline.set, phases]

@[simp]
theorem outline_noteWakes (waiting : List (Nat × Waker)) :
    (machine.noteWakes place waiting).outline = machine.outline := by
  have silent : (waiting.reverse.map fun entry => Entry.woke place entry.1 entry.2).filterMap
      Entry.happening? = [] := by simp [List.filterMap_eq_nil_iff, Entry.happening?]
  simp only [outline, noteWakes, List.filterMap_append, silent, List.nil_append]

@[simp]
theorem outline_notify : (machine.notify place).outline = machine.outline := by
  unfold notify
  split
  · rw [outline_modifyCell, outline_noteWakes]
    exact fun _ => rfl
  · rfl

@[simp]
theorem outline_wakeCell : (machine.wakeCell place).outline = machine.outline := by
  unfold wakeCell
  rw [outline_notify, outline_note]
  rfl

@[simp]
theorem outline_reply (operation : Operation) (answer : Answer) :
    (machine.reply operation answer).outline = machine.outline := by
  unfold reply
  split
  · rfl
  · rw [outline_note]
    rfl

@[simp]
theorem outline_dropSubscription : (machine.dropSubscription name).outline = machine.outline := by
  unfold dropSubscription
  split
  · exact outline_modifyCell _ _ fun _ => rfl
  · rfl

@[simp]
theorem outline_modifySubscription (change : Subscription → Subscription) :
    (machine.modifySubscription name change).outline = machine.outline := by
  unfold modifySubscription
  split <;> rfl

@[simp]
theorem outline_release (driver : Driver) (outcome : Outcome) :
    (machine.release driver outcome).outline = machine.outline := by
  unfold release
  split
  · split
    · exact outline_modifySubscription _ _ _
    · exact outline_dropSubscription _ _
  · exact outline_modifyCell _ _ fun _ => rfl

@[simp]
theorem outline_conclude (driver : Driver) (outcome : Outcome) :
    (machine.conclude driver outcome).outline = machine.outline := by simp [conclude]

private theorem outline_finish (driver : Driver) (outcome : Outcome) :
    (machine.finish driver outcome).outline =
      machine.outline.tell (Entry.answered driver.cell driver.id outcome).happening? := by
  rw [finish, outline_conclude, outline_note]

@[simp]
theorem outline_push (driver : Driver) (work : Work) :
    (machine.push driver work).outline = machine.outline :=
  outline_modifySubscription machine driver.name _

private theorem outline_enter (driver : Driver) (future : Future) :
    (machine.enter driver future).outline =
      machine.outline.tell (some (.polled driver.cell future.count)) := by
  have prepared : (machine.modifyCell driver.cell (·.prepare driver.id driver.waker)).outline =
      machine.outline := outline_modifyCell _ _ fun _ => rfl
  rw [enter, outline_note, prepared]
  rfl

private theorem outline_addCell (handle : String) (cell : ScriptCell) :
    (machine.addCell handle cell).outline = machine.outline.add handle cell.phase := by
  simp [outline, addCell, Outline.add]

private theorem outline_wakeKept :
    (machine.wakeKept name).outline = machine.outline.wakeKept name := by
  have same : machine.outline.kept.lookup name = machine.kept.lookup name := rfl
  unfold wakeKept Outline.wakeKept
  rw [same]
  cases machine.kept.lookup name with
  | some place => exact outline_wakeCell _ _
  | none => rfl

/-! ## The ends of a poll -/

private theorem outline_resolve (driver : Driver) (outcome : Option String) :
    (machine.resolve driver outcome).outline =
      machine.outline.set driver.cell (Cell.settledPhase outcome) := by
  have settled (machine : Machine) : (machine.modifyCell driver.cell (·.settle outcome)).outline =
      machine.outline.set driver.cell (Cell.settledPhase outcome) :=
    outline_modifyCell_of_sets _ _ fun _ => rfl
  unfold resolve
  rw [outline_finish, outline_modifyCell, settled, outline_noteWakes]
  · rfl
  · exact fun _ => rfl

private theorem outline_abandon (driver : Driver) (message : String) :
    (machine.abandon driver message).outline =
      (machine.outline.set driver.cell .completed).tell (some (.panicked driver.cell message)) := by
  have settled (machine : Machine) : (machine.modifyCell driver.cell (·.settle none)).outline =
      machine.outline.set driver.cell .completed := outline_modifyCell_of_sets _ _ fun _ => rfl
  unfold abandon
  rw [outline_finish, settled, outline_noteWakes]
  rfl

private theorem outline_suspend (driver : Driver) (rest : Future) :
    (machine.suspend driver rest).outline = machine.outline.set driver.cell (.parked rest) := by
  have parked : (machine.modifyCell driver.cell (·.park rest)).outline =
      machine.outline.set driver.cell (.parked rest) :=
    outline_modifyCell_of_sets _ _ fun _ => rfl
  unfold suspend
  dsimp only
  rw [outline_finish]
  change (ite _ _ _ : Machine).outline = _
  split
  · rw [outline_notify, outline_modifyCell, parked]
    exact fun _ => rfl
  · exact parked

end Outlines

/-- What an operation that polls nothing does to the outline. -/
theorem outline_start {machine : Machine} {operation : Operation}
    (calm : operation.poll? = none) :
    (machine.start operation).outline = machine.outline.after operation := by
  cases operation with
  | createLazy | create | createSettled =>
      simp only [start, outline_reply, outline_addCell]
      rfl
  | clone handle target =>
      have same : machine.outline.handles.lookup handle = machine.handles.lookup handle := rfl
      simp only [start, Outline.after, same]
      cases machine.handles.lookup handle <;> exact outline_reply _ _ _
  | dropHandle handle =>
      simp only [start, outline_reply]
      rfl
  | same left right =>
      simp only [start]
      split <;> exact outline_reply _ _ _
  | stage handle | peek handle | describe handle =>
      simp only [start, inspect]
      split <;> exact outline_reply _ _ _
  | subscribe handle name =>
      have freed (machine : Machine) : (machine.freeName name).outline = machine.outline := by
        unfold freeName
        split
        · split
          · rfl
          · exact outline_dropSubscription _ _
        · rfl
      simp only [start, subscribe]
      split
      · exact outline_reply _ _ _
      · split
        · exact outline_reply _ _ _
        · refine (outline_reply _ _ _).trans ((freed _).trans ?_)
          exact outline_modifyCell _ _ fun _ => rfl
  | poll | value | collect => cases calm
  | drop name =>
      simp only [start]
      split
      · split
        · exact outline_reply _ _ _
        · rw [outline_reply]
          exact outline_dropSubscription _ _
      · exact outline_reply _ _ _
  | sizeHint name | terminated name | describeSubscription name =>
      simp only [start, inspectSubscription]
      split <;> exact outline_reply _ _ _
  | wake name =>
      have woken := outline_wakeKept machine name
      simp only [start, Outline.after]
      cases kept : machine.kept.lookup name with
      | some place => exact (outline_reply _ _ _).trans woken
      | none =>
          rw [← woken]
          simp only [wakeKept, kept]
          exact outline_reply _ _ _
  | openGate name outcome =>
      simp only [start]
      rw [outline_reply, outline_wakeKept]
      rfl

/-! ## Polls -/

/-- What a poll comes to: the outline that it leaves behind, and its answer. -/
structure Comes (request : Request) (result : Outline × Outcome) (machine : Machine) : Prop where
  quiet : machine.frames = []
  outline : machine.outline = result.1
  answer : machine.answer = some (Request.answer request result.2)

section Polls

variable (machine : Machine) (driver : Driver)

private theorem settle_of_quiet {machine : Machine} (quiet : machine.frames = []) :
    machine.settle = machine := by
  rw [settle]
  simp [quiet]

private theorem settle_of_busy {machine : Machine} (busy : machine.frames ≠ []) :
    machine.settle = machine.step.settle := by
  rw [settle]
  simp [busy]

private theorem comes_conclude (quiet : machine.frames = []) (outcome : Outcome) :
    Comes driver.request (machine.outline, outcome) (machine.conclude driver outcome) where
  quiet := by rw [frames_conclude, quiet]
  outline := outline_conclude machine driver outcome
  answer := by simp only [conclude, reply, frames_release, quiet]

private theorem comes_finish (outcome : Outcome) {outline : Outline} (quiet : machine.frames = [])
    (left : (machine.finish driver outcome).outline = outline) :
    Comes driver.request (outline, outcome) (machine.finish driver outcome) := by
  have concluded := comes_conclude (machine.note (.answered driver.cell driver.id outcome)) driver
    quiet outcome
  exact ⟨concluded.quiet, left, concluded.answer⟩

private theorem comes_resolve (quiet : machine.frames = []) (outcome : Option String) :
    Comes driver.request (machine.outline.set driver.cell (Cell.settledPhase outcome),
      .ready outcome) (machine.resolve driver outcome) :=
  comes_finish _ driver _ (by simp [quiet]) (outline_resolve machine driver outcome)

private theorem comes_abandon (quiet : machine.frames = []) (message : String) :
    Comes driver.request ((machine.outline.set driver.cell .completed).tell
      (some (.panicked driver.cell message)), .panicked message) (machine.abandon driver message) :=
  comes_finish _ driver _ (by simp [quiet]) (outline_abandon machine driver message)

private theorem comes_suspend (quiet : machine.frames = []) (rest : Future) :
    Comes driver.request (machine.outline.set driver.cell (.parked rest), .pending)
      (machine.suspend driver rest) := by
  refine comes_finish _ driver _ ?_ (outline_suspend machine driver rest)
  split <;> simp [quiet]

/-- What the step of the only poll in progress comes to is what the poll comes to. -/
theorem Comes.of_step {machine ended : Machine} {request : Request} {result : Outline × Outcome}
    (comes : Comes request result ended) (busy : machine.frames ≠ [])
    (steps : machine.step = ended) : Comes request result machine.settle := by
  rw [settle_of_busy busy, steps, settle_of_quiet comes.quiet]
  exact comes

/-- A poll that runs no operations plays on the outline. -/
theorem comes_settle {actions : List Action} {rest : Future}
    (plain : actions.all Action.plain = true)
    (top : machine.frames = [⟨driver, .polling actions rest⟩]) :
    Comes driver.request (machine.outline.play driver.cell actions rest) machine.settle := by
  have busy : machine.frames ≠ [] := by simp [top]
  induction actions generalizing machine with
  | nil =>
      apply (comes_suspend { machine with frames := [] } driver rfl rest).of_step busy
      simp only [step, top]
  | cons action actions ih =>
      rw [List.all_cons, Bool.and_eq_true] at plain
      let leaving : Machine := { machine with frames := [] }
      let going : Machine := { machine with frames := [⟨driver, .polling actions rest⟩] }
      cases action with
      | wake =>
          have steps : machine.step = going.wakeCell driver.cell := by
            simp only [step, top, going]
          have played := ih (going.wakeCell driver.cell) plain.2 (frames_wakeCell _ _)
            (by simp [going])
          rw [outline_wakeCell] at played
          rw [settle_of_busy busy, steps]
          exact played
      | keep name =>
          have steps : machine.step = { going with kept := put name driver.cell going.kept } := by
            simp only [step, top, going]
          rw [settle_of_busy busy, steps]
          exact ih { going with kept := put name driver.cell going.kept } plain.2 rfl
            (by simp [going])
      | ready outcome =>
          apply (comes_resolve leaving driver rfl outcome).of_step busy
          simp only [step, top, leaving]
      | pending =>
          apply (comes_suspend leaving driver rfl rest).of_step busy
          simp only [step, top, leaving]
      | panic message =>
          apply (comes_abandon leaving driver rfl message).of_step busy
          simp only [step, top, leaving]
      | gate name =>
          have same : machine.outline.gates.lookup name = machine.gates.lookup name := rfl
          rw [Outline.play, same]
          cases opened : machine.gates.lookup name with
          | some outcome =>
              apply (comes_resolve leaving driver rfl outcome).of_step busy
              simp only [step, top, opened, leaving]
          | none =>
              apply (comes_suspend { leaving with kept := put name driver.cell leaving.kept }
                driver rfl rest).of_step busy
              simp only [step, top, opened, leaving]
      | run operation => cases plain.1

/-- A computation that runs no operations is driven on the outline. -/
theorem comes_enter {future : Future} (plain : future.plain = true)
    (top : machine.frames = [⟨driver, pollWork future⟩]) :
    Comes driver.request (machine.outline.drive driver.cell future)
      (machine.enter driver future).settle := by
  obtain ⟨actions, rest, work, played, -⟩ := plain_pollWork plain
  have comes := comes_settle (machine.enter driver future) driver played (work ▸ top)
  rw [outline_enter] at comes
  cases work
  exact comes

/-- A factory that runs no operations is asked on the outline, and panics or is driven there. -/
theorem comes_start {factory : Factory} (silent : factory.operations.isEmpty = true)
    (plain : factory.future.plain = true)
    (top : machine.frames =
      [⟨driver, .starting factory.operations factory.panics factory.future⟩]) :
    Comes driver.request
      (match factory.panics with
        | some message => ((machine.outline.set driver.cell .completed).tell
            (some (.panicked driver.cell message)), .panicked message)
        | none => machine.outline.drive driver.cell factory.future) machine.settle := by
  have busy : machine.frames ≠ [] := by simp [top]
  rw [List.isEmpty_iff.mp silent] at top
  cases panics : factory.panics with
  | some message =>
      rw [panics] at top
      apply (comes_abandon { machine with frames := [] } driver rfl message).of_step busy
      simp only [step, top]
  | none =>
      rw [panics] at top
      have steps : machine.step = { machine with
          frames := [⟨driver, pollWork factory.future⟩] }.enter driver factory.future := by
        simp only [step, top]
      rw [settle_of_busy busy, steps]
      exact comes_enter { machine with frames := [⟨driver, pollWork factory.future⟩] } driver
        plain rfl

/-- A poll of a subscription that is neither busy nor done polls the computation on the outline. -/
theorem comes_approach {cell : ScriptCell} (quiet : machine.frames = [])
    (found : machine.cell? driver.cell = some cell) (plain : cell.phase.plain = true) :
    Comes driver.request (machine.outline.poll driver.cell)
      (machine.approach driver cell).settle := by
  have here : machine.outline.phases[driver.cell]? = some cell.phase := by
    rw [← phase?_outline, phase?, found]
    rfl
  let asked := machine.note (.asked driver.cell driver.id driver.waker)
  have moves {change : ScriptCell} {phase : Phase Factory Future String}
      (sets : change.phase = phase) : (asked.modifyCell driver.cell fun _ => change).outline =
        machine.outline.set driver.cell phase :=
    outline_modifyCell_of_sets asked driver.cell fun _ => sets
  have ends (change : ScriptCell) (keeps : change.phase = cell.phase) (outcome : Outcome)
      (silent : (Entry.answered driver.cell driver.id outcome).happening? = none) :
      Comes driver.request (machine.outline, outcome)
        ((asked.modifyCell driver.cell fun _ => change).finish driver outcome).settle := by
    have ended := comes_finish (asked.modifyCell driver.cell fun _ => change) driver outcome quiet
      (outline_finish _ _ _)
    rw [silent, moves keeps, Outline.set_of_found here] at ended
    rw [settle_of_quiet ended.quiet]
    exact ended
  unfold approach Cell.approach Outline.poll
  rw [here]
  cases phased : cell.phase with
  | idle factory =>
      rw [phased] at plain
      obtain ⟨silent, fits⟩ := Bool.and_eq_true_iff.mp plain
      let moved := asked.modifyCell driver.cell fun _ => { cell with phase := .driven }
      let pushed := (moved.note (.started driver.cell factory.announced)).push driver
        (.starting factory.operations factory.panics factory.future)
      have outlined : pushed.outline = (machine.outline.set driver.cell .driven).tell
          (some (.started driver.cell factory.announced)) := by
        rw [outline_push, outline_note, moves rfl]
        rfl
      have comes := comes_start pushed driver silent fits (congrArg (_ :: ·) quiet)
      rw [outlined] at comes
      exact comes
  | parked future =>
      rw [phased] at plain
      let moved := asked.modifyCell driver.cell fun _ => { cell with phase := .driven }
      let pushed := (moved.enter driver future).push driver (pollWork future)
      have outlined : pushed.outline = (machine.outline.set driver.cell .driven).tell
          (some (.polled driver.cell future.count)) := by
        rw [outline_push, outline_enter, moves rfl]
      obtain ⟨actions, rest, work, played, -⟩ := plain_pollWork plain
      cases work
      have comes := comes_settle pushed driver played (congrArg (_ :: ·) quiet)
      rw [outlined] at comes
      exact comes
  | driven => exact ends (cell.register driver.id driver.waker) rfl .pending rfl
  | resolved value => exact ends (cell.unregister driver.id) rfl (.ready (some value)) rfl
  | completed => exact ends (cell.unregister driver.id) rfl (.ready none) rfl

end Polls

/-! ## Operations from outside -/

/-- What a name stands for as far as a poll is concerned: nothing, a subscription that is done, or
one of the computation at a place. -/
def standing? (machine : Machine) (name : String) : Option (Option Nat) :=
  (machine.subscriptions.lookup name).map fun subscription =>
    if subscription.done then none else some subscription.cell

/-- A poll from outside finds no subscription that is busy, and the computation of each. -/
theorem Reachable.polled {machine : Machine} (reach : machine.Reachable)
    (quiet : machine.frames = []) {name : String} {subscription : Subscription}
    (held : machine.subscriptions.lookup name = some subscription) :
    subscription.busy = false ∧ ∃ cell, machine.cell? subscription.cell = some cell := by
  have sound := reach.sound subscription.cell
  have named : (machine.view subscription.cell).named name = some subscription := by
    simp [view, held]
  refine ⟨Bool.eq_false_iff.mpr fun busy => ?_, sound.found_of_named named⟩
  obtain ⟨frame, member, -⟩ := (sound.fits name subscription named).busy.mp busy
  simp [view, quiet] at member

/-- A poll of a subscription that is not done polls its computation on the outline. -/
theorem comes_perform {machine : Machine} (reach : machine.Reachable)
    (quiet : machine.frames = []) (plain : machine.outline.Plain) {operation : Operation}
    {request : Request} {name : String} {waker : Waker} {place : Nat}
    (polls : operation.poll? = some (request, name, waker))
    (stands : machine.standing? name = some (some place)) :
    Comes request (machine.outline.poll place) (machine.perform operation) := by
  obtain ⟨subscription, held, unfinished⟩ := Option.map_eq_some_iff.mp stands
  obtain ⟨idle, cell, found⟩ := reach.polled quiet held
  have waits : subscription.done = false ∧ subscription.cell = place := by
    cases done : subscription.done <;> simp_all
  have there : machine.outline.phases[subscription.cell]? = some cell.phase := by
    rw [← phase?_outline, phase?, found]
    rfl
  have fits : cell.phase.plain = true := plain _ (List.mem_of_getElem? there)
  let driver : Driver := ⟨name, subscription.cell, subscription.id, waker, request⟩
  have started : { machine with answer := none }.start operation =
      { machine with answer := none }.approach driver cell := by
    rw [start_of_poll? _ polls]
    simp only [poll, held, idle, waits.1, Bool.false_eq_true, if_false]
    rw [show cell? { machine with answer := none } subscription.cell = some cell from found]
  rw [perform, started, ← waits.2]
  exact comes_approach { machine with answer := none } driver quiet found fits

/-- A poll of a subscription that is done finds nothing. -/
theorem comes_perform_of_done {machine : Machine} (reach : machine.Reachable)
    (quiet : machine.frames = []) {operation : Operation} {request : Request} {name : String}
    {waker : Waker} (polls : operation.poll? = some (request, name, waker))
    (stands : machine.standing? name = some none) :
    Comes request (machine.outline, .ready none) (machine.perform operation) := by
  obtain ⟨subscription, held, finished⟩ := Option.map_eq_some_iff.mp stands
  obtain ⟨idle, -⟩ := reach.polled quiet held
  have done : subscription.done = true := by
    cases done : subscription.done <;> simp_all
  let driver : Driver := ⟨name, subscription.cell, subscription.id, waker, request⟩
  have started : { machine with answer := none }.start operation =
      { machine with answer := none }.conclude driver (.ready none) := by
    rw [start_of_poll? _ polls]
    simp only [poll, held, idle, done, Bool.false_eq_true, if_false, if_true, driver]
  have comes := comes_conclude { machine with answer := none } driver quiet (.ready none)
  rw [perform, started, settle_of_quiet comes.quiet]
  exact comes

/-- A poll under a name that stands for nothing does nothing. -/
theorem perform_of_missing {machine : Machine} (quiet : machine.frames = [])
    {operation : Operation} {request : Request} {name : String} {waker : Waker}
    (polls : operation.poll? = some (request, name, waker))
    (stands : machine.standing? name = none) :
    machine.perform operation = { machine with answer := some .missing } := by
  have missing : machine.subscriptions.lookup name = none := Option.map_eq_none_iff.mp stands
  have started : { machine with answer := none }.start operation =
      { machine with answer := some .missing } := by
    rw [start_of_poll? _ polls]
    simp only [poll, missing, reply, quiet]
  rw [perform, started]
  exact settle_of_quiet quiet

private theorem perform_of_calm {machine : Machine} (quiet : machine.frames = [])
    {operation : Operation} (calm : operation.poll? = none) :
    (machine.perform operation).outline = machine.outline.after operation := by
  have idle : ({ machine with answer := none }.start operation).frames = [] :=
    (frames_start_of_poll? _ calm).trans quiet
  rw [perform, settle_of_quiet idle, outline_start calm]
  rfl

/-! ## Two runs -/

/-- Two operations are the same, but a poll may be through another subscription and with another
waker, as long as both subscriptions are of the same computation and not done.  (Both may also be
done, or both missing.) -/
inductive Matches (left right : Machine) : Operation → Operation → Prop
  | same {operation : Operation} (calm : operation.poll? = none)
      (plain : operation.plain = true) : Matches left right operation operation
  | poll {operation other : Operation} {request : Request} {name second : String}
      {waker third : Waker} (polls : operation.poll? = some (request, name, waker))
      (others : other.poll? = some (request, second, third))
      (standing : left.standing? name = right.standing? second) :
      Matches left right operation other

/-- Two runs take matching operations, one after the other. -/
inductive Matched : Machine → Machine → List (Operation × Operation) → Prop
  | nil {left right : Machine} : Matched left right []
  | cons {left right : Machine} {operation other : Operation}
      {steps : List (Operation × Operation)} (first : Matches left right operation other)
      (rest : Matched (left.perform operation) (right.perform other) steps) :
      Matched left right ((operation, other) :: steps)

/-- Two machines at rest have the same outline, and no computation runs operations. -/
structure Abreast (left right : Machine) : Prop where
  left_reach : left.Reachable
  left_quiet : left.frames = []
  right_reach : right.Reachable
  right_quiet : right.frames = []
  outline : left.outline = right.outline
  plain : left.outline.Plain

/-- Matching operations leave two machines abreast, and polls among them answer alike. -/
theorem Abreast.perform {left right : Machine} {operation other : Operation}
    (abreast : Abreast left right) (matching : Matches left right operation other) :
    Abreast (left.perform operation) (right.perform other) ∧
      (operation.poll? ≠ none → (left.perform operation).answer = (right.perform other).answer) := by
  obtain ⟨left_reach, left_quiet⟩ :=
    reachable_perform abreast.left_reach abreast.left_quiet operation
  obtain ⟨right_reach, right_quiet⟩ :=
    reachable_perform abreast.right_reach abreast.right_quiet other
  have meets {outline : Outline} (one : (left.perform operation).outline = outline)
      (two : (right.perform other).outline = outline) (plain : outline.Plain) :
      Abreast (left.perform operation) (right.perform other) :=
    ⟨left_reach, left_quiet, right_reach, right_quiet, one.trans two.symm, one ▸ plain⟩
  have right_plain : right.outline.Plain := abreast.outline ▸ abreast.plain
  cases matching with
  | same calm plain =>
      refine ⟨meets (perform_of_calm abreast.left_quiet calm) ?_ (abreast.plain.after plain),
        fun polls => absurd calm polls⟩
      rw [perform_of_calm abreast.right_quiet calm, abreast.outline]
  | @poll _ request name second _ _ polls others standing =>
      rcases stands : left.standing? name with _ | _ | place
      · have one := perform_of_missing abreast.left_quiet polls stands
        have two := perform_of_missing abreast.right_quiet others (standing ▸ stands)
        rw [one, two] at meets ⊢
        exact ⟨meets rfl abreast.outline.symm abreast.plain, fun _ => rfl⟩
      · have one := comes_perform_of_done abreast.left_reach abreast.left_quiet polls stands
        have two := comes_perform_of_done abreast.right_reach abreast.right_quiet others
          (standing ▸ stands)
        exact ⟨meets one.outline (two.outline.trans abreast.outline.symm) abreast.plain,
          fun _ => one.answer.trans two.answer.symm⟩
      · have one := comes_perform abreast.left_reach abreast.left_quiet abreast.plain polls stands
        have two := comes_perform abreast.right_reach abreast.right_quiet right_plain others
          (standing ▸ stands)
        rw [← abreast.outline] at two
        exact ⟨meets one.outline two.outline (abreast.plain.poll place),
          fun _ => one.answer.trans two.answer.symm⟩

private theorem Abreast.initial : Abreast initial initial where
  left_reach := .refl
  left_quiet := rfl
  right_reach := .refl
  right_quiet := rfl
  outline := rfl
  plain := fun _ member => by cases member

/-- Matching runs stay abreast: after any number of steps, before which the next ones match. -/
theorem Abreast.run {left right : Machine} {earlier later : List (Operation × Operation)}
    (abreast : Abreast left right) (matched : Matched left right (earlier ++ later)) :
    Abreast (left.run (earlier.map Prod.fst)) (right.run (earlier.map Prod.snd)) ∧
      Matched (left.run (earlier.map Prod.fst)) (right.run (earlier.map Prod.snd)) later := by
  induction earlier generalizing left right with
  | nil => exact ⟨abreast, matched⟩
  | cons step earlier ih =>
      cases matched with
      | cons first rest => exact ih (abreast.perform first).1 rest

private theorem Abreast.stage? {left right : Machine} (abreast : Abreast left right) (place : Nat) :
    left.stage? place = right.stage? place := by
  rw [stage?_eq, stage?_eq, phase?_outline, phase?_outline, abreast.outline]

/-- The value of the computation at a place, if there is one yet. -/
def peek? (machine : Machine) (place : Nat) : Option String :=
  (machine.cell? place).bind Cell.peek

private theorem peek?_eq (machine : Machine) (place : Nat) : machine.peek? place =
    match machine.phase? place with
    | some (.resolved value) => some value
    | _ => none := by
  unfold peek? phase?
  cases machine.cell? place with
  | none => rfl
  | some cell => simp only [Option.bind_some, Option.map_some, Cell.peek]; cases cell.phase <;> rfl

/-- What happened to the computations, the latest first. -/
def happened (machine : Machine) : List Happening := machine.journal.filterMap Entry.happening?

/-- Two runs of the same operations on computations whose scripts run none themselves may poll
through different subscriptions of a computation and with different wakers.  After every step the
computations have the same stages and values and the same has happened to them, and a poll is
answered alike. -/
theorem driver_unobservable {earlier later : List (Operation × Operation)}
    (matched : Matched initial initial (earlier ++ later)) :
    let left := initial.run (earlier.map Prod.fst)
    let right := initial.run (earlier.map Prod.snd)
    (∀ place, left.stage? place = right.stage? place ∧ left.peek? place = right.peek? place) ∧
      left.happened = right.happened ∧
      ∀ operation other rest, later = (operation, other) :: rest → operation.poll? ≠ none →
        (left.perform operation).answer = (right.perform other).answer := by
  obtain ⟨abreast, remaining⟩ := Abreast.initial.run matched
  refine ⟨fun place => ⟨abreast.stage? place, ?_⟩, congrArg Outline.happened abreast.outline, ?_⟩
  · rw [peek?_eq, peek?_eq, phase?_outline, phase?_outline, abreast.outline]
  · rintro operation other rest rfl polls
    cases remaining with
    | cons first _ => exact (abreast.perform first).2 polls

/-- A computation that wakes itself and then panics, with two subscriptions; one of them is polled
in the one run, the other one in the other run. -/
def eitherDriver : List (Operation × Operation) :=
  let made := .createLazy "h" [] none [[.wake, .keep "k"], [.panic "p"]]
  [(made, made), (.subscribe "h" "s", .subscribe "h" "s"), (.subscribe "h" "t", .subscribe "h" "t"),
    (.poll "s" (.named "w"), .poll "t" .silent), (.wake "k", .wake "k")]

theorem panics_with_either_driver :
    (initial.run (eitherDriver.map Prod.fst)).happened = [.polled 0 0, .started 0 true] ∧
      (initial.run (eitherDriver.map Prod.snd)).happened = [.polled 0 0, .started 0 true] ∧
      ((initial.run (eitherDriver.map Prod.fst)).perform (.poll "s" .silent)).answer =
        some (.panicked "p") ∧
      ((initial.run (eitherDriver.map Prod.snd)).perform (.poll "s" .silent)).answer =
        some (.panicked "p") := by
  have matched : Matched initial initial
      (eitherDriver ++ [(.poll "s" .silent, .poll "s" .silent)]) := by
    refine .cons (.same rfl rfl) (.cons (.same rfl rfl) (.cons (.same rfl rfl) (.cons ?_
      (.cons (.same rfl rfl) (.cons ?_ .nil)))))
    · exact .poll rfl rfl (by cbv)
    · exact .poll rfl rfl (by cbv)
  have happened : (initial.run (eitherDriver.map Prod.fst)).happened =
      [.polled 0 0, .started 0 true] := by cbv
  have panicked : ((initial.run (eitherDriver.map Prod.fst)).perform (.poll "s" .silent)).answer =
      some (.panicked "p") := by cbv
  obtain ⟨-, same, alike⟩ := driver_unobservable matched
  refine ⟨happened, same ▸ happened, panicked, ?_⟩
  rw [← alike _ _ [] rfl (by simp [Operation.poll?])]
  exact panicked

end Machine
end Replay
end LinkFacts
