import LinkFacts.Proofs.Replay.Protocol

/-!
# Sound computations

A computation is checked out exactly while one poll drives it, its subscriptions have numbers of
their own, and a subscription is busy exactly while its own poll is in progress.  Every change of the
protocol keeps this, so it holds in every state of every run.
-/

namespace LinkFacts
namespace Replay

namespace View

/-- A subscription of the computation at a place agrees with the cell and with the polls that drive
the computation. -/
structure Fits (place : Nat) (cell : Option ScriptCell) (frames : List Frame) (name : String)
    (subscription : Subscription) : Prop where
  home : subscription.cell = place
  /-- Its number was given out. -/
  counted : ∀ found, cell = some found → subscription.id < found.nextId
  /-- It is busy while it drives. -/
  busy : subscription.busy = true ↔ ∃ frame ∈ frames, frame.driver.id = subscription.id
  /-- While it drives, its driver has its name. -/
  owner : ∀ frame ∈ frames, frame.driver.id = subscription.id → frame.driver.name = name
  /-- It does not drive once it is done. -/
  open_of_busy : subscription.busy = true → subscription.done = false

/-- What holds of a computation in every state. -/
structure Sound (place : Nat) (view : View) : Prop where
  /-- A computation that was not made has no subscriptions and was not polled. -/
  blank : view.cell = none → (∀ name, view.named name = none) ∧ view.frames = [] ∧
    ∀ entry ∈ view.history, entry = .notified place
  /-- A computation that is checked out is driven by one poll. -/
  driven : ∀ cell, view.cell = some cell → cell.phase = .driven → ∃ frame, view.frames = [frame]
  /-- Only a computation that is checked out is driven. -/
  calm : ∀ cell, view.cell = some cell → cell.phase ≠ .driven → view.frames = []
  frame_home : ∀ frame ∈ view.frames, frame.driver.cell = place
  frame_counted : ∀ cell, view.cell = some cell → ∀ frame ∈ view.frames,
    frame.driver.id < cell.nextId
  fits : ∀ name subscription, view.named name = some subscription →
    Fits place view.cell view.frames name subscription
  /-- No two subscriptions share a number. -/
  distinct : ∀ name other subscription second, view.named name = some subscription →
    view.named other = some second → subscription.id = second.id → name = other

/-- What a name stands for after another name was given away. -/
theorem named_of_assign {view : View} {name other : String} {held : Option Subscription}
    {subscription : Subscription} (named : (view.assign name held).named other = some subscription) :
    other = name ∧ held = some subscription ∨
      other ≠ name ∧ view.named other = some subscription := by
  by_cases same : other = name
  · exact .inl ⟨same, by simpa [assign, same] using named⟩
  · exact .inr ⟨same, by simpa [assign, same] using named⟩

/-- A driver's subscription is still there under its name. -/
def Owns (view : View) (driver : Driver) : Prop :=
  ∃ subscription, view.named driver.name = some subscription ∧ subscription.id = driver.id

section Finish

variable (view : View) (driver : Driver) (outcome : Outcome)

/-- A poll that ends leaves its subscription under its name, or lets go of it. -/
theorem finish_cases :
    (∃ subscription, view.named driver.name = some subscription ∧ subscription.id = driver.id ∧
      view.finish driver outcome = (view.note (.answered driver.cell driver.id outcome)).assign
        driver.name (some (subscription.after outcome))) ∨
    (∀ subscription, view.named driver.name = some subscription → subscription.id ≠ driver.id) ∧
      view.finish driver outcome =
        (view.note (.answered driver.cell driver.id outcome)).modify (·.unregister driver.id) := by
  have noted : (view.note (.answered driver.cell driver.id outcome)).named = view.named := rfl
  unfold finish release
  rw [noted]
  cases held : view.named driver.name with
  | none => exact .inr ⟨by simp, rfl⟩
  | some subscription =>
      by_cases same : subscription.id = driver.id
      · exact .inl ⟨subscription, rfl, same, by simp [same]⟩
      · refine .inr ⟨?_, by simp [same]⟩
        rintro other ⟨⟩
        exact same

theorem frames_finish : (view.finish driver outcome).frames = view.frames := by
  rcases view.finish_cases driver outcome with ⟨_, -, -, finished⟩ | ⟨-, finished⟩ <;>
    rw [finished] <;> rfl

theorem history_finish : (view.finish driver outcome).history =
    .answered driver.cell driver.id outcome :: view.history := by
  rcases view.finish_cases driver outcome with ⟨_, -, -, finished⟩ | ⟨-, finished⟩ <;>
    rw [finished] <;> rfl

/-- Only a driver that has lost its name gives its waker back. -/
theorem cell_finish {cell : ScriptCell} (found : view.cell = some cell) :
    view.Owns driver ∧ (view.finish driver outcome).cell = some cell ∨
      ¬view.Owns driver ∧
        (view.finish driver outcome).cell = some (cell.unregister driver.id) := by
  rcases view.finish_cases driver outcome with ⟨owner, held, same, finished⟩ | ⟨lost, finished⟩
  · exact .inl ⟨⟨owner, held, same⟩, by rw [finished]; exact found⟩
  · refine .inr ⟨?_, by rw [finished]; exact cell_modify found _⟩
    rintro ⟨owner, held, same⟩
    exact lost owner held same

theorem named_finish {name : String} {subscription : Subscription}
    (named : (view.finish driver outcome).named name = some subscription) :
    ∃ earlier, view.named name = some earlier ∧
      (name = driver.name ∧ earlier.id = driver.id ∧ subscription = earlier.after outcome ∨
        (name = driver.name → earlier.id ≠ driver.id) ∧ subscription = earlier) := by
  rcases view.finish_cases driver outcome with ⟨owner, held, same, finished⟩ | ⟨lost, finished⟩ <;>
    rw [finished] at named
  · rcases named_of_assign named with ⟨rfl, ⟨⟩⟩ | ⟨apart, other⟩
    · exact ⟨owner, held, .inl ⟨rfl, same, rfl⟩⟩
    · exact ⟨subscription, other, .inr ⟨fun equal => absurd equal apart, rfl⟩⟩
  · exact ⟨subscription, named, .inr ⟨fun equal => lost _ (equal ▸ named), rfl⟩⟩

theorem id_named_finish {name : String} {subscription : Subscription}
    (named : (view.finish driver outcome).named name = some subscription) :
    ∃ earlier, view.named name = some earlier ∧ earlier.id = subscription.id ∧
      earlier.cell = subscription.cell := by
  obtain ⟨earlier, held, ⟨-, -, rfl⟩ | ⟨-, rfl⟩⟩ := view.named_finish driver outcome named
  · exact ⟨earlier, held, (earlier.after_id outcome).symm, (earlier.after_cell outcome).symm⟩
  · exact ⟨_, held, rfl, rfl⟩

end Finish

/-- The poll of a subscription that still has its name leaves it there. -/
theorem finish_of_ready {view : View} {driver : Driver} (ready : view.Ready driver)
    (outcome : Outcome) :
    view.finish driver outcome = (view.note (.answered driver.cell driver.id outcome)).assign
      driver.name (some (Subscription.after ⟨driver.cell, driver.id, false, false⟩ outcome)) := by
  have named : (view.note (.answered driver.cell driver.id outcome)).named driver.name =
      some ⟨driver.cell, driver.id, false, false⟩ := ready
  simp [finish, release, named]

namespace Sound

variable {place : Nat} {view : View}

theorem found_of_named (sound : Sound place view) {name : String} {subscription : Subscription}
    (named : view.named name = some subscription) : ∃ cell, view.cell = some cell := by
  cases found : view.cell with
  | none => simp [(sound.blank found).1 name] at named
  | some cell => exact ⟨cell, rfl⟩

theorem found_of_frame (sound : Sound place view) {frame : Frame} {below : List Frame}
    (top : view.frames = frame :: below) :
    below = [] ∧ ∃ cell, view.cell = some cell ∧ cell.phase = .driven := by
  cases found : view.cell with
  | none => simp [(sound.blank found).2.1] at top
  | some cell =>
      by_cases phase : cell.phase = .driven
      · obtain ⟨only, frames⟩ := sound.driven cell found phase
        rw [top, List.cons.injEq] at frames
        exact ⟨frames.2, cell, rfl, phase⟩
      · simp [sound.calm cell found phase] at top

private theorem noteNotified (sound : Sound place view) :
    Sound place (view.note (.notified place)) where
  blank missing := by
    obtain ⟨unnamed, quiet, silent⟩ := sound.blank missing
    exact ⟨unnamed, quiet, by simpa [View.note] using silent⟩
  driven := sound.driven
  calm := sound.calm
  frame_home := sound.frame_home
  frame_counted := sound.frame_counted
  fits := sound.fits
  distinct := sound.distinct

private theorem note (sound : Sound place view) (found : ∃ cell, view.cell = some cell)
    (entry : Entry) :
    Sound place (view.note entry) where
  blank missing := by
    obtain ⟨cell, found⟩ := found
    cases found.symm.trans missing
  driven := sound.driven
  calm := sound.calm
  frame_home := sound.frame_home
  frame_counted := sound.frame_counted
  fits := sound.fits
  distinct := sound.distinct

/-- What keeps the phase and the count of a computation keeps it sound. -/
theorem modify (sound : Sound place view) {change : ScriptCell → ScriptCell}
    (phase : ∀ cell, (change cell).phase = cell.phase)
    (nextId : ∀ cell, cell.nextId ≤ (change cell).nextId) : Sound place (view.modify change) where
  blank missing := sound.blank (Option.map_eq_none_iff.mp missing)
  driven changed found := by
    obtain ⟨cell, cell_found, rfl⟩ := Option.map_eq_some_iff.mp found
    rw [phase]
    exact sound.driven cell cell_found
  calm changed found := by
    obtain ⟨cell, cell_found, rfl⟩ := Option.map_eq_some_iff.mp found
    rw [phase]
    exact sound.calm cell cell_found
  frame_home := sound.frame_home
  frame_counted changed found frame member := by
    obtain ⟨cell, cell_found, rfl⟩ := Option.map_eq_some_iff.mp found
    exact Nat.lt_of_lt_of_le (sound.frame_counted cell cell_found frame member) (nextId cell)
  fits name subscription named :=
    { sound.fits name subscription named with
      counted := by
        intro changed found
        obtain ⟨cell, cell_found, rfl⟩ := Option.map_eq_some_iff.mp found
        exact Nat.lt_of_lt_of_le ((sound.fits name subscription named).counted cell cell_found)
          (nextId cell) }
  distinct := sound.distinct

private theorem noteWakes (sound : Sound place view) : Sound place (view.noteWakes place) where
  blank missing := by
    obtain ⟨unnamed, quiet, silent⟩ := sound.blank missing
    refine ⟨unnamed, quiet, ?_⟩
    have nobody : view.cell = none := missing
    simpa [View.noteWakes, nobody] using silent
  driven := sound.driven
  calm := sound.calm
  frame_home := sound.frame_home
  frame_counted := sound.frame_counted
  fits := sound.fits
  distinct := sound.distinct

private theorem notify (sound : Sound place view) : Sound place (view.notify place) :=
  sound.noteWakes.modify (fun _ => rfl) fun _ => Nat.le_refl _

/-- A name that stands for nothing leaves the others as they are. -/
theorem unassign (sound : Sound place view) (name : String) :
    Sound place (view.assign name none) where
  blank missing := by
    obtain ⟨unnamed, quiet, silent⟩ := sound.blank missing
    refine ⟨fun other => ?_, quiet, silent⟩
    simp [assign, unnamed]
  driven := sound.driven
  calm := sound.calm
  frame_home := sound.frame_home
  frame_counted := sound.frame_counted
  fits other subscription named := by
    rcases named_of_assign named with ⟨-, ⟨⟩⟩ | ⟨-, kept⟩
    exact sound.fits other subscription kept
  distinct first other subscription second named_first named_other := by
    rcases named_of_assign named_first with ⟨-, ⟨⟩⟩ | ⟨-, kept_first⟩
    rcases named_of_assign named_other with ⟨-, ⟨⟩⟩ | ⟨-, kept_other⟩
    exact sound.distinct first other subscription second kept_first kept_other

/-- A name may stand for a subscription whose number no other name has. -/
theorem assign (sound : Sound place view) {name : String} {subscription : Subscription}
    (found : ∃ cell, view.cell = some cell)
    (fits : Fits place view.cell view.frames name subscription)
    (fresh : ∀ other second, other ≠ name → view.named other = some second →
      second.id ≠ subscription.id) :
    Sound place (view.assign name (some subscription)) where
  blank missing := by
    obtain ⟨cell, found⟩ := found
    cases found.symm.trans missing
  driven := sound.driven
  calm := sound.calm
  frame_home := sound.frame_home
  frame_counted := sound.frame_counted
  fits other second named := by
    rcases named_of_assign named with ⟨rfl, ⟨⟩⟩ | ⟨-, kept⟩
    · exact fits
    · exact sound.fits other second kept
  distinct first other second third named_first named_other same := by
    rcases named_of_assign named_first with ⟨rfl, ⟨⟩⟩ | ⟨apart_first, kept_first⟩ <;>
      rcases named_of_assign named_other with ⟨rfl, ⟨⟩⟩ | ⟨apart_other, kept_other⟩
    · rfl
    · exact absurd same.symm (fresh other third apart_other kept_other)
    · exact absurd same (fresh first second apart_first kept_first)
    · exact sound.distinct first other second third kept_first kept_other same

private theorem drop (sound : Sound place view) (name : String) : Sound place (view.drop name) := by
  unfold View.drop
  cases view.named name with
  | none => exact sound
  | some subscription =>
      have released : Sound place (view.modify (·.unregister subscription.id)) :=
        sound.modify (fun _ => rfl) fun _ => Nat.le_refl _
      exact released.unassign name

private theorem subscribe (sound : Sound place view) {cell : ScriptCell}
    (found : view.cell = some cell) (name : String) :
    Sound place
      ((view.modify Cell.subscribe).assign name (some ⟨place, cell.nextId, false, false⟩)) := by
  have counted : Sound place (view.modify Cell.subscribe) :=
    sound.modify (fun _ => rfl) fun cell => Nat.le_succ cell.nextId
  have changed := cell_modify found Cell.subscribe
  refine counted.assign ⟨_, changed⟩ ?_ ?_
  · refine ⟨rfl, ?_, ?_, ?_, (by rintro ⟨⟩)⟩
    · intro other same
      rw [changed, Option.some.injEq] at same
      exact same ▸ Nat.lt_succ_self cell.nextId
    · refine ⟨(by rintro ⟨⟩), ?_⟩
      rintro ⟨frame, member, same⟩
      exact absurd same (Nat.ne_of_lt (sound.frame_counted cell found frame member))
    · intro frame member same
      exact absurd same (Nat.ne_of_lt (sound.frame_counted cell found frame member))
  · intro other second _ named
    exact Nat.ne_of_lt ((sound.fits other second named).counted cell found)

/-- A poll that does not drive ends with the subscription's number kept. -/
theorem finish_ready (sound : Sound place view) {driver : Driver} (ready : view.Ready driver)
    (outcome : Outcome) : Sound place (view.finish driver outcome) := by
  obtain ⟨cell, found⟩ := sound.found_of_named ready
  rw [finish_of_ready ready]
  have fits := sound.fits _ _ ready
  refine (sound.note ⟨cell, found⟩ _).assign ⟨cell, found⟩ ?_ ?_
  · cases outcome with
    | ready outcome => exact ⟨fits.home, fits.counted, fits.busy, fits.owner, (by rintro ⟨⟩)⟩
    | pending => exact fits
    | panicked message => exact fits
  · intro other second apart named same
    rw [Subscription.after_id] at same
    exact apart (sound.distinct other driver.name second _ named ready same)

/-- A poll that drives begins. -/
theorem push (sound : Sound place view) {driver : Driver} (here : driver.cell = place)
    (ready : view.Ready driver) {changed : View} {cell checked : ScriptCell}
    (found : view.cell = some cell) (calm : cell.phase ≠ .driven)
    (out : changed.cell = some checked) (phase : checked.phase = .driven)
    (count : checked.nextId = cell.nextId) (named : changed.named = view.named)
    (frames : changed.frames = view.frames) (work : Work) :
    Sound place (changed.push driver work) := by
  have quiet : changed.frames = [] := frames.trans (sound.calm cell found calm)
  have stands : changed.named driver.name = some ⟨driver.cell, driver.id, false, false⟩ :=
    named ▸ ready
  have counted := (sound.fits _ _ ready).counted cell found
  constructor
  · intro missing
    cases out.symm.trans missing
  · intro _ _ _
    exact ⟨⟨driver, work⟩, by simp [View.push, View.assign, quiet]⟩
  · intro other other_found other_phase
    cases out.symm.trans other_found
    exact absurd phase other_phase
  · simp [View.push, quiet, here]
  · intro other other_found
    cases out.symm.trans other_found
    simpa [View.push, quiet, count] using counted
  · intro name subscription named_push
    have framed : (changed.push driver work).frames = [⟨driver, work⟩] := by
      simp [View.push, quiet]
    rw [framed]
    rcases named_of_assign named_push with ⟨rfl, held⟩ | ⟨apart, kept⟩
    · rw [stands, Option.map_some, Option.some.injEq] at held
      subst held
      refine ⟨here, ?_, by simp, by simp, fun _ => rfl⟩
      intro other other_found
      cases out.symm.trans other_found
      exact count ▸ counted
    · rw [named] at kept
      have fits := sound.fits name subscription kept
      have differs : driver.id ≠ subscription.id := fun same =>
        apart (sound.distinct name driver.name subscription _ kept ready same.symm)
      have idle : subscription.busy = false := by
        have busy := fits.busy
        rw [sound.calm cell found calm] at busy
        simpa using busy
      refine ⟨fits.home, ?_, ?_, ?_, fits.open_of_busy⟩
      · intro other other_found
        cases out.symm.trans other_found
        exact count ▸ fits.counted cell found
      · simp [idle, differs]
      · simp [differs]
  · intro first other second third named_first named_other same
    rcases named_of_assign named_first with ⟨rfl, held⟩ | ⟨apart_first, kept_first⟩ <;>
      rcases named_of_assign named_other with ⟨rfl, other_held⟩ | ⟨apart_other, kept_other⟩
    · rfl
    · rw [stands, Option.map_some, Option.some.injEq] at held
      rw [named] at kept_other
      exact absurd (sound.distinct other driver.name third _ kept_other ready
        (by rw [← same, ← held])) apart_other
    · rw [stands, Option.map_some, Option.some.injEq] at other_held
      rw [named] at kept_first
      exact absurd (sound.distinct first driver.name second _ kept_first ready
        (by rw [same, ← other_held])) apart_first
    · rw [named] at kept_first kept_other
      exact sound.distinct first other second third kept_first kept_other same

/-- A computation that nobody drives is sound if its subscriptions were there before. -/
theorem quiet (sound : Sound place view) {changed : View} {cell left : ScriptCell}
    (found : view.cell = some cell) (out : changed.cell = some left) (phase : left.phase ≠ .driven)
    (count : left.nextId = cell.nextId) (frames : changed.frames = [])
    (named : ∀ name subscription, changed.named name = some subscription →
      subscription.busy = false ∧ ∃ earlier, view.named name = some earlier ∧
        earlier.id = subscription.id ∧ earlier.cell = subscription.cell) :
    Sound place changed := by
  constructor
  · intro missing
    cases out.symm.trans missing
  · intro other other_found other_phase
    cases out.symm.trans other_found
    exact absurd other_phase phase
  · intro _ _ _
    exact frames
  · simp [frames]
  · simp [frames]
  · intro name subscription held
    obtain ⟨idle, earlier, earlier_held, same_id, same_cell⟩ := named name subscription held
    have fits := sound.fits name earlier earlier_held
    refine ⟨same_cell ▸ fits.home, ?_, by simp [idle, frames], by simp [frames], by simp [idle]⟩
    intro other other_found
    cases out.symm.trans other_found
    rw [count, ← same_id]
    exact fits.counted cell found
  · intro first other second third named_first named_other same
    obtain ⟨-, earlier, earlier_held, same_id, -⟩ := named first second named_first
    obtain ⟨-, other_earlier, other_held, other_id, -⟩ := named other third named_other
    exact sound.distinct first other earlier other_earlier earlier_held other_held
      (by rw [same_id, other_id, same])

/-- A poll that drives ends, and nobody drives the computation any more. -/
theorem leave (sound : Sound place view) {driver : Driver} {work : Work} {below : List Frame}
    (top : view.frames = ⟨driver, work⟩ :: below) {changed : View} {cell left : ScriptCell}
    (found : view.cell = some cell) (out : changed.cell = some left) (phase : left.phase ≠ .driven)
    (count : left.nextId = cell.nextId) (named : changed.named = view.named)
    (frames : changed.frames = below) (outcome : Outcome) :
    Sound place (changed.finish driver outcome) := by
  obtain ⟨rfl, -⟩ := sound.found_of_frame top
  -- Only the subscription of the driver is busy, and it is so under the driver's name.
  have idle : ∀ name subscription, (changed.finish driver outcome).named name =
      some subscription → subscription.busy = false := by
    intro name subscription held
    obtain ⟨earlier, earlier_held, ⟨-, -, rfl⟩ | ⟨lost, rfl⟩⟩ :=
      changed.named_finish driver outcome held
    · exact earlier.after_busy outcome
    · have fits := sound.fits name subscription (named ▸ earlier_held)
      have apart : driver.id ≠ subscription.id := fun same =>
        lost (fits.owner ⟨driver, work⟩ (by simp [top]) same).symm same.symm
      have busy := fits.busy
      simpa [top, apart] using busy
  have earlier : ∀ name subscription, (changed.finish driver outcome).named name =
      some subscription → ∃ earlier, view.named name = some earlier ∧
        earlier.id = subscription.id ∧ earlier.cell = subscription.cell := by
    rw [← named]
    exact fun name subscription held => changed.id_named_finish driver outcome held
  have left_frames := (changed.frames_finish driver outcome).trans frames
  rcases changed.cell_finish driver outcome out with ⟨-, kept⟩ | ⟨-, unregistered⟩
  · exact sound.quiet found kept phase count left_frames fun name subscription held =>
      ⟨idle name subscription held, earlier name subscription held⟩
  · exact sound.quiet found unregistered phase count left_frames fun name subscription held =>
      ⟨idle name subscription held, earlier name subscription held⟩

/-- What is left of a script does not matter. -/
theorem reframe (sound : Sound place view) {driver : Driver} {work : Work} {below : List Frame}
    (top : view.frames = ⟨driver, work⟩ :: below) (later : Work) :
    Sound place { view with frames := ⟨driver, later⟩ :: below } := by
  obtain ⟨rfl, cell, found, phase⟩ := sound.found_of_frame top
  constructor
  · intro missing
    cases found.symm.trans missing
  · intro _ _ _
    exact ⟨_, rfl⟩
  · intro other other_found other_phase
    cases found.symm.trans other_found
    exact absurd phase other_phase
  · simpa [top] using sound.frame_home
  · simpa [top] using sound.frame_counted
  · intro name subscription named
    have fits := sound.fits name subscription named
    rw [top] at fits
    exact ⟨fits.home, fits.counted, by simpa using fits.busy, by simpa using fits.owner,
      fits.open_of_busy⟩
  · exact sound.distinct

private theorem touch {operation : Operation} {changed : View} (sound : Sound place view)
    (touch : Touch operation place view changed) : Sound place changed := by
  cases touch with
  | @created phase missing makes =>
      obtain ⟨unnamed, quiet, silent⟩ := sound.blank missing
      constructor
      · rintro ⟨⟩
      · rintro cell ⟨⟩ driven
        exact absurd driven (Operation.phase?_fresh makes).1
      · exact fun _ _ _ => quiet
      · simp [quiet]
      · simp [quiet]
      · simp [unnamed]
      · simp [unnamed]
  | subscribed found unnamed => exact sound.subscribe found _
  | dropped named calm => exact sound.drop _
  | disowned named busy => exact sound.unassign _
  | notified => exact sound.noteNotified.notify
  | @waited driver cell here polls ready found phase =>
      have registered : Sound place ((view.ask driver).modify (·.register driver.id driver.waker)) :=
        (sound.note ⟨cell, found⟩ _).modify (fun _ => rfl) fun _ => Nat.le_refl _
      exact registered.finish_ready ready _
  | @replayed driver cell outcome here polls ready found phase =>
      have unregistered : Sound place ((view.ask driver).modify (·.unregister driver.id)) :=
        (sound.note ⟨cell, found⟩ _).modify (fun _ => rfl) fun _ => Nat.le_refl _
      exact unregistered.finish_ready ready _
  | @started driver cell factory here polls ready found phase =>
      have out : ((view.ask driver).checkOut.note (.started driver.cell factory.announced)).cell =
          some { cell with phase := .driven } := cell_checkOut found
      exact sound.push here ready found (by simp [phase]) out rfl rfl rfl rfl _
  | @resumed driver cell future here polls ready found phase =>
      have checked : (view.ask driver).checkOut.cell = some { cell with phase := .driven } :=
        cell_checkOut found
      exact sound.push here ready found (by simp [phase]) (cell_enter checked driver future)
        rfl rfl rfl rfl _

theorem drive {verdict : Option (Nat × Outcome)} {changed : View} (sound : Sound place view)
    (drive : Drive verdict place view changed) : Sound place changed := by
  cases drive with
  | @entered driver future below here goes top =>
      obtain ⟨-, cell, found, -⟩ := sound.found_of_frame top
      have prepared : Sound place ({ view with
          frames := ⟨driver, Machine.pollWork future⟩ :: below }.modify
            (·.prepare driver.id driver.waker)) :=
        (sound.reframe top _).modify (fun _ => rfl) fun _ => Nat.le_refl _
      exact prepared.note ⟨_, cell_modify found _⟩ _
  | moved here goes played top => exact sound.reframe top _
  | woken here goes top => exact (sound.reframe top _).noteNotified.notify
  | @resolved driver actions rest below outcome here ends top =>
      obtain ⟨-, cell, found, -⟩ := sound.found_of_frame top
      have woken : ({ view with frames := below }.noteWakes place).cell = some cell := found
      exact sound.leave top found (cell_modify (cell_modify woken _) _)
        (Cell.settledPhase_ne_driven outcome) rfl rfl rfl _
  | @abandoned driver work below message here ends top =>
      obtain ⟨-, cell, found, -⟩ := sound.found_of_frame top
      have woken : ({ view with frames := below }.noteWakes place).cell = some cell := found
      exact sound.leave top found (cell_modify woken _) (Cell.settledPhase_ne_driven none) rfl rfl
        rfl _
  | @suspended driver actions rest below cell here goes found top =>
      have framed : { view with frames := below }.cell = some cell := found
      have parked := cell_modify framed (·.park rest)
      unfold suspend
      cases cell.woken with
      | false => exact sound.leave top found parked (by rintro ⟨⟩) rfl rfl rfl _
      | true =>
          have again := cell_modify parked (·.register driver.id driver.waker)
          exact sound.leave top found (cell_notify again driver.cell) (by rintro ⟨⟩) rfl rfl rfl _

end Sound

/-- A property of the computation at a place that no change of the protocol breaks. -/
structure Kept (place : Nat) (holds : View → Prop) : Prop where
  touch : ∀ {operation : Operation} {view changed : View}, Sound place view → holds view →
    Touch operation place view changed → holds changed
  drive : ∀ {verdict : Option (Nat × Outcome)} {view changed : View}, Sound place view →
    holds view → Drive verdict place view changed → holds changed

namespace Kept

variable {place : Nat} {holds : View → Prop}

theorem touches (kept : Kept place holds) {operation : Operation} {view changed : View}
    (sound : Sound place view) (held : holds view)
    (touches : Touches operation place view changed) : Sound place changed ∧ holds changed := by
  induction touches with
  | refl => exact ⟨sound, held⟩
  | tail _ touched ih => exact ⟨ih.1.touch touched, kept.touch ih.1 ih.2 touched⟩

end Kept

end View

namespace Machine

open View

variable {machine after : Machine} {place : Nat}

private theorem phase?_operation (driver : Driver) : driver.operation.phase? = none := by
  obtain ⟨_, _, _, _, request⟩ := driver
  cases request <;> rfl

/-- A transition is the poll of a computation going on, or an operation that touches it, or both.
An operation that makes a computation begins in the state before the transition. -/
theorem next_view (reach : machine.Reachable) (sound : ∀ place, Sound place (machine.view place))
    (next : machine.Next after) (place : Nat) :
    ∃ operation view, (operation.phase? = none ∨ ∃ origin : Machine, origin.Begins operation ∧
        origin.cells = machine.cells ∧ origin.start operation = after) ∧
      (view = machine.view place ∨ after = machine.step ∧
        Drive machine.verdict? place (machine.view place) view) ∧
      Touches operation place view (after.view place) := by
  cases next with
  | perform quiet operation =>
      have begins := Begins.outside reach quiet operation
      have touched := start_touches { machine with answer := none } place operation
      exact ⟨operation, _, .inr ⟨_, begins, rfl, rfl⟩, .inl rfl, touched⟩
  | step busy =>
      obtain ⟨⟨driver, work⟩, below, top⟩ := List.exists_cons_of_ne_nil busy
      have made : ∀ operation, operation = driver.operation ∨
          (∃ origin, machine.call? = some (origin, operation)) →
          operation.phase? = none ∨ ∃ origin : Machine, origin.Begins operation ∧
            origin.cells = machine.cells ∧ origin.start operation = machine.step := by
        rintro operation (rfl | ⟨origin, calls⟩)
        · exact .inl (phase?_operation driver)
        · exact .inr ⟨origin, .inside reach calls, cells_of_call? calls, (step_of_call? calls).2.symm⟩
      by_cases here : driver.cell = place
      · subst here
        have framed : (machine.view driver.cell).frames =
            ⟨driver, work⟩ :: below.filter (·.driver.cell = driver.cell) := by simp [view, top]
        obtain ⟨-, cell, found, -⟩ := (sound driver.cell).found_of_frame framed
        obtain ⟨operation, view, ran, driven, touched⟩ := machine.step_drives top found
        exact ⟨operation, view, made operation ran, .inr ⟨rfl, driven⟩, touched⟩
      · obtain ⟨operation, ran, touched⟩ := machine.step_touches place top here
        exact ⟨operation, _, made operation ran, .inl rfl, touched⟩

/-- A property that is kept holds after every transition. -/
theorem keeps_next {holds : View → Prop} (kept : Kept place holds) (reach : machine.Reachable)
    (sound : ∀ place, Sound place (machine.view place)) (held : holds (machine.view place))
    (next : machine.Next after) : Sound place (after.view place) ∧ holds (after.view place) := by
  obtain ⟨operation, view, -, same | ⟨-, driven⟩, touched⟩ := next_view reach sound next place
  · exact kept.touches (same ▸ sound place) (same ▸ held) touched
  · exact kept.touches ((sound place).drive driven) (kept.drive (sound place) held driven) touched

/-- Nothing is known of a computation at first. -/
theorem sound_initial (place : Nat) : Sound place (initial.view place) where
  blank _ := by simp [view, initial]
  driven _ found := by cases found
  calm _ found := by cases found
  frame_home _ member := by cases member
  frame_counted _ found := by cases found
  fits _ _ named := by cases named
  distinct _ _ _ _ named := by cases named

/-- Every state of every run is sound. -/
theorem Reachable.sound (reach : machine.Reachable) (place : Nat) :
    Sound place (machine.view place) := by
  induction reach generalizing place with
  | refl => exact sound_initial place
  | tail earlier next ih =>
      have trivially : Kept place fun _ => True := ⟨fun _ _ _ => trivial, fun _ _ _ => trivial⟩
      exact (keeps_next trivially earlier ih trivial next).1

/-- A poll in progress drives a computation that is checked out. -/
theorem Reachable.driven (reach : machine.Reachable) {frame : Frame}
    (member : frame ∈ machine.frames) :
    ∃ cell, machine.cell? frame.driver.cell = some cell ∧ cell.phase = .driven := by
  have framed : frame ∈ (machine.view frame.driver.cell).frames := by simp [view, member]
  obtain ⟨top, below, top_eq⟩ := List.exists_cons_of_ne_nil (List.ne_nil_of_mem framed)
  exact ((reach.sound frame.driver.cell).found_of_frame top_eq).2

/-- No two polls in progress drive the same computation. -/
theorem Reachable.nodup_driven (reach : machine.Reachable) :
    (machine.frames.map (·.driver.cell)).Nodup := by
  rw [List.nodup_iff_count]
  intro place
  have counted : (machine.frames.map (·.driver.cell)).count place =
      (machine.view place).frames.length := by
    rw [List.count, List.countP_map, List.countP_eq_length_filter]
    congr 1
  rw [counted]
  cases frames : (machine.view place).frames with
  | nil => simp
  | cons frame below =>
      obtain ⟨rfl, -⟩ := (reach.sound place).found_of_frame frames
      simp

/-- What is kept still holds later in a run. -/
theorem Reachable.keeps {holds : View → Prop} (reach : machine.Reachable)
    (later : machine.Reaches after) (kept : Kept place holds)
    (held : holds (machine.view place)) : holds (after.view place) := by
  induction later with
  | refl => exact held
  | tail earlier next ih =>
      have sound := Reachable.sound (reach.trans earlier)
      exact (keeps_next kept (reach.trans earlier) sound ih next).2

/-- What is kept and held at first holds in every state of every run. -/
theorem Reachable.invariant {holds : View → Prop} (reach : machine.Reachable)
    (kept : Kept place holds) (start : holds (initial.view place)) : holds (machine.view place) :=
  Reachable.keeps .refl reach kept start

/-- What is kept and held at first also holds where an operation begins. -/
theorem Begins.invariant {holds : View → Prop} {operation : Operation}
    (begins : machine.Begins operation) (kept : Kept place holds)
    (start : holds (initial.view place)) :
    Sound place (machine.view place) ∧ holds (machine.view place) := by
  have moves {origin : Machine} {driver : Driver} {work later : Work} {below : List Frame}
      (reach : origin.Reachable) (played : work.Played later)
      (top : origin.frames = ⟨driver, work⟩ :: below) :
      Sound place ({ origin with frames := ⟨driver, later⟩ :: below }.view place) ∧
        holds ({ origin with frames := ⟨driver, later⟩ :: below }.view place) := by
    have sound := reach.sound place
    have held := reach.invariant kept start
    by_cases here : driver.cell = place
    · have framed : (origin.view place).frames =
          ⟨driver, work⟩ :: below.filter (·.driver.cell = place) := by simp [view, top, here]
      have moved : Drive none place (origin.view place) _ := .moved here rfl played framed
      have same : { origin with frames := ⟨driver, later⟩ :: below }.view place =
          { origin.view place with
            frames := ⟨driver, later⟩ :: below.filter (·.driver.cell = place) } := by
        simp [view, here, cell?]
      rw [same]
      exact ⟨sound.drive moved, kept.drive sound held moved⟩
    · have same : { origin with frames := ⟨driver, later⟩ :: below }.view place =
          origin.view place := by simp [view, cell?, top, here]
      rw [same]
      exact ⟨sound, held⟩
  cases begins with
  | outside reach quiet => exact ⟨reach.sound place, reach.invariant kept start⟩
  | inside reach calls =>
      unfold call? at calls
      split at calls
      · next top =>
        cases calls
        exact moves reach (.starting ..) top
      · next top =>
        cases calls
        exact moves reach (.polling ..) top
      · cases calls

end Machine
end Replay
end LinkFacts
