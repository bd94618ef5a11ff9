import LinkFacts.Proofs.Replay.Soundness

/-!
# Phases and runs

How far a computation has come, and how often it was started and polled: what each change of the
protocol does to both.  A computation is started when a subscription begins to poll it while it is
idle, it is polled after that or when it is parked, and it is over when its own poll says so.
-/

namespace LinkFacts
namespace Replay

/-- A computation is started or polled. -/
def Entry.runs (place : Nat) : Entry → Bool
  | .started cell _ => cell = place
  | .polled cell _ => cell = place
  | _ => false

/-- How a poll that drives leaves its computation. -/
def Outcome.Leaves : Outcome → Phase Factory Future String → Prop
  | .pending, phase => ∃ future, phase = .parked future
  | .ready outcome, phase => phase = Cell.settledPhase outcome
  | .panicked _, phase => phase = .completed

/-- A journal has grown by entries that fail a test. -/
def Grows (test : Entry → Bool) (earlier later : List Entry) : Prop :=
  ∃ news, later = news ++ earlier ∧ ∀ entry ∈ news, test entry = false

namespace Grows

variable {test : Entry → Bool} {earlier later : List Entry}

theorem refl (test : Entry → Bool) (journal : List Entry) : Grows test journal journal :=
  ⟨[], rfl, List.forall_mem_nil _⟩

theorem cons (grows : Grows test earlier later) {entry : Entry} (fails : test entry = false) :
    Grows test earlier (entry :: later) := by
  obtain ⟨news, rfl, fails_news⟩ := grows
  refine ⟨entry :: news, rfl, ?_⟩
  rintro other (_ | ⟨_, member⟩)
  · exact fails
  · exact fails_news other member

theorem woke (grows : Grows test earlier later) (place : Nat)
    (fails : ∀ id waker, test (.woke place id waker) = false) (waiting : List (Nat × Waker)) :
    Grows test earlier
      (waiting.map (fun entry => Entry.woke place entry.1 entry.2) ++ later) := by
  induction waiting with
  | nil => exact grows
  | cons entry waiting ih => exact ih.cons (fails entry.1 entry.2)

theorem notify {view : View} (grows : Grows test earlier view.history) (place : Nat)
    (fails : ∀ id waker, test (.woke place id waker) = false) :
    Grows test earlier (view.notify place).history :=
  grows.woke place fails _

theorem finish {view : View} (grows : Grows test earlier view.history) (driver : Driver)
    {outcome : Outcome} (fails : test (.answered driver.cell driver.id outcome) = false) :
    Grows test earlier (view.finish driver outcome).history := by
  rw [View.history_finish]
  exact grows.cons fails

theorem filter_eq (grows : Grows test earlier later) : later.filter test = earlier.filter test := by
  obtain ⟨news, rfl, fails⟩ := grows
  rw [List.filter_append, List.filter_eq_nil_iff.mpr fun entry member => by simp [fails entry member],
    List.nil_append]

end Grows

namespace View

/-- How far the computation has come. -/
def phase? (view : View) : Option (Phase Factory Future String) := view.cell.map Cell.phase

/-- The starts and polls of the computation, the latest first. -/
def runs (view : View) (place : Nat) : List Entry := view.history.filter (·.runs place)

theorem phase?_of_cell {view : View} {cell : ScriptCell} (found : view.cell = some cell) :
    view.phase? = some cell.phase :=
  congrArg (Option.map Cell.phase) found

theorem phase?_modify (view : View) {change : ScriptCell → ScriptCell}
    (keeps : ∀ cell, (change cell).phase = cell.phase) :
    (view.modify change).phase? = view.phase? := by
  unfold phase? modify
  rw [Option.map_map]
  congr 1
  exact funext keeps

theorem phase?_notify (view : View) (place : Nat) :
    (view.notify place).phase? = view.phase? :=
  phase?_modify (view.noteWakes place) fun _ => rfl

private theorem phase?_enter (view : View) (driver : Driver) (future : Future) :
    (view.enter driver future).phase? = view.phase? :=
  phase?_modify view fun _ => rfl

theorem phase?_register (view : View) (id : Nat) (waker : Waker) :
    (view.modify (·.register id waker)).phase? = view.phase? :=
  phase?_modify view fun _ => rfl

theorem phase?_unregister (view : View) (id : Nat) :
    (view.modify (·.unregister id)).phase? = view.phase? :=
  phase?_modify view fun _ => rfl

theorem phase?_finish (view : View) (driver : Driver) (outcome : Outcome) :
    (view.finish driver outcome).phase? = view.phase? := by
  rcases view.finish_cases driver outcome with ⟨_, -, -, finished⟩ | ⟨-, finished⟩ <;> rw [finished]
  · rfl
  · exact phase?_modify _ fun _ => rfl

/-- What an operation does to the phase and the runs of a computation. -/
inductive Effect (operation : Operation) (place : Nat) (view changed : View) : Prop
  | still (grows : Grows (Entry.runs place) view.history changed.history)
      (frames : changed.frames = view.frames) (phase : changed.phase? = view.phase?)
  | made (missing : view.phase? = none) (grows : Grows (Entry.runs place) view.history changed.history)
      {made : Phase Factory Future String} (makes : operation.phase? = some made)
      (phase : changed.phase? = some made)
  | started {driver : Driver} {factory : Factory}
      (polls : operation.poll? = some (driver.request, driver.name, driver.waker))
      (idle : view.phase? = some (.idle factory)) (phase : changed.phase? = some .driven)
      (history : changed.history = .started place factory.announced ::
        .asked place driver.id driver.waker :: view.history)
  | resumed {driver : Driver} {future : Future}
      (polls : operation.poll? = some (driver.request, driver.name, driver.waker))
      (parked : view.phase? = some (.parked future)) (phase : changed.phase? = some .driven)
      (history : changed.history = .polled place future.count ::
        .asked place driver.id driver.waker :: view.history)

/-- What a step of its own poll does to the phase and the runs of a computation. -/
inductive Progress (verdict : Option (Nat × Outcome)) (place : Nat) (view changed : View) : Prop
  | still (goes : verdict = none) (grows : Grows (Entry.runs place) view.history changed.history)
      (phase : changed.phase? = some .driven)
  | entered (goes : verdict = none) {future : Future} (phase : changed.phase? = some .driven)
      (history : changed.history = .polled place future.count :: view.history)
  | parked (goes : verdict = none) (grows : Grows (Entry.runs place) view.history changed.history)
      {future : Future} (phase : changed.phase? = some (.parked future))
  | ended {outcome : Option String} (grows : Grows (Entry.runs place) view.history changed.history)
      (ends : verdict = some (place, .ready outcome) ∨
        outcome = none ∧ ∃ message, verdict = some (place, .panicked message))
      (phase : changed.phase? = some (Cell.settledPhase outcome))

theorem Touch.effect {operation : Operation} {place : Nat} {view changed : View}
    (touch : Touch operation place view changed) : Effect operation place view changed := by
  cases touch with
  | created missing makes => exact .made (by simp [phase?, missing]) (.refl ..) makes rfl
  | subscribed found unnamed => exact .still (.refl ..) rfl (phase?_modify _ fun _ => rfl)
  | dropped named calm =>
      unfold drop
      rw [named]
      exact .still (.refl ..) rfl (phase?_modify _ fun _ => rfl)
  | disowned named busy => exact .still (.refl ..) rfl rfl
  | notified =>
      have noted : Grows (Entry.runs place) view.history (.notified place :: view.history) :=
        (Grows.refl ..).cons rfl
      exact .still (noted.woke _ (fun _ _ => rfl) _) rfl (phase?_notify ..)
  | @waited driver cell here polls ready found phase =>
      have asked : Grows (Entry.runs place) view.history
          (.asked driver.cell driver.id driver.waker :: view.history) := (Grows.refl ..).cons rfl
      refine .still (history_finish .. ▸ asked.cons rfl) (frames_finish ..) ?_
      exact (phase?_finish ..).trans (phase?_register ..)
  | @replayed driver cell outcome here polls ready found phase =>
      have asked : Grows (Entry.runs place) view.history
          (.asked driver.cell driver.id driver.waker :: view.history) := (Grows.refl ..).cons rfl
      refine .still (history_finish .. ▸ asked.cons rfl) (frames_finish ..) ?_
      exact (phase?_finish ..).trans (phase?_unregister ..)
  | @started driver cell factory here polls ready found phase =>
      subst here
      refine .started polls ?_ ?_ rfl
      · rw [phase?_of_cell found, phase]
      · exact phase?_of_cell (cell_checkOut found)
  | @resumed driver cell future here polls ready found phase =>
      subst here
      refine .resumed polls ?_ ?_ rfl
      · rw [phase?_of_cell found, phase]
      · exact phase?_of_cell (cell_enter (cell_checkOut found) driver future)

theorem Drive.progress {verdict : Option (Nat × Outcome)} {place : Nat} {view changed : View}
    (sound : Sound place view) (drive : Drive verdict place view changed) :
    view.phase? = some .driven ∧ Progress verdict place view changed := by
  have driven {driver : Driver} {work : Work} {below : List Frame}
      (top : view.frames = ⟨driver, work⟩ :: below) : view.phase? = some .driven := by
    obtain ⟨-, cell, found, phase⟩ := sound.found_of_frame top
    rw [phase?_of_cell found, phase]
  cases drive with
  | @entered driver future below here goes top =>
      subst here
      exact ⟨driven top, .entered goes ((phase?_enter ..).trans (driven top)) rfl⟩
  | moved here goes played top => exact ⟨driven top, .still goes (.refl ..) (driven top)⟩
  | woken here goes top =>
      have noted : Grows (Entry.runs place) view.history (.notified place :: view.history) :=
        (Grows.refl ..).cons rfl
      exact ⟨driven top, .still goes (noted.woke _ (fun _ _ => rfl) _)
        ((phase?_notify ..).trans (driven top))⟩
  | @resolved driver actions rest below outcome here ends top =>
      obtain ⟨-, cell, found, -⟩ := sound.found_of_frame top
      have woken := (Grows.refl (Entry.runs place) view.history).woke place
        (fun _ _ => rfl) ((view.cell.map Cell.waiting).getD []).reverse
      refine ⟨driven top, .ended (history_finish .. ▸ woken.cons rfl) (.inl ends) ?_⟩
      have noted : ({ view with frames := below }.noteWakes place).cell = some cell := found
      exact (phase?_finish ..).trans (phase?_of_cell (cell_modify (cell_modify noted _) _))
  | @abandoned driver work below message here ends top =>
      obtain ⟨-, cell, found, -⟩ := sound.found_of_frame top
      have woken := (Grows.refl (Entry.runs place) view.history).woke place
        (fun _ _ => rfl) ((view.cell.map Cell.waiting).getD []).reverse
      refine ⟨driven top, .ended (history_finish .. ▸ woken.cons rfl)
        (.inr ⟨rfl, message, ends⟩) ?_⟩
      have noted : ({ view with frames := below }.noteWakes place).cell = some cell := found
      exact (phase?_finish ..).trans (phase?_of_cell (cell_modify noted _))
  | @suspended driver actions rest below cell here goes found top =>
      have framed : { view with frames := below }.cell = some cell := found
      have phase := phase?_of_cell (cell_modify framed (·.park rest))
      unfold suspend
      cases cell.woken with
      | false =>
          have answered : Grows (Entry.runs place) view.history
              (.answered driver.cell driver.id .pending :: view.history) := (Grows.refl ..).cons rfl
          exact ⟨driven top, .parked goes (history_finish .. ▸ answered)
            ((phase?_finish ..).trans phase)⟩
      | true =>
          have woken : Grows (Entry.runs place) view.history
              ((({ view with frames := below }.modify (·.park rest)).modify
                (·.register driver.id driver.waker)).notify driver.cell).history :=
            (Grows.refl ..).notify driver.cell fun _ _ => rfl
          exact ⟨driven top, .parked goes (woken.finish driver rfl) ((phase?_finish ..).trans
            ((phase?_notify ..).trans ((phase?_register ..).trans phase)))⟩

end View

namespace Machine

variable (machine : Machine) (place : Nat)

/-- The starts and polls of a computation, the latest first. -/
def runs : List Entry := machine.journal.filter (·.runs place)

/-- How far a computation has come. -/
def phase? : Option (Phase Factory Future String) := (machine.cell? place).map Cell.phase

theorem phase?_view : (machine.view place).phase? = machine.phase? place := rfl

theorem runs_view : (machine.view place).runs place = machine.runs place := by
  unfold View.runs view runs
  rw [List.filter_filter]
  congr 1
  funext entry
  cases entry <;> simp [Entry.runs, Entry.place?]

end Machine
end Replay
end LinkFacts
