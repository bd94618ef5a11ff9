import LinkFacts.Proofs.Replay.SingleRun

/-!
# One outcome for all

Whatever a subscription is given at its end is the outcome of the computation: the value that the
computation gave, or the one it was made with.  A subscription waits only while there is no outcome,
it is given the outcome once, and has ended after that.
-/

namespace LinkFacts
namespace Replay

/-- A subscription to a computation was given its outcome. -/
def Entry.final (place : Nat) : Entry → Bool
  | .answered cell _ (.ready _) => cell = place
  | _ => false

/-- What a subscription was given. -/
def finals (place id : Nat) (journal : List Entry) : List (Option String) :=
  journal.filterMap fun
    | .answered cell other (.ready outcome) =>
      if cell = place ∧ other = id then some outcome else none
    | _ => none

private theorem mem_finals {place id : Nat} {outcome : Option String} {journal : List Entry} :
    outcome ∈ finals place id journal ↔ .answered place id (.ready outcome) ∈ journal := by
  unfold finals
  rw [List.mem_filterMap]
  constructor
  · rintro ⟨entry, member, given⟩
    split at given
    · split at given
      · next here =>
        obtain ⟨rfl, rfl⟩ := here
        cases given
        exact member
      · cases given
    · cases given
  · exact fun member => ⟨_, member, by simp⟩

private theorem Grows.finals_eq {place : Nat} {earlier later : List Entry}
    (grows : Grows (Entry.final place) earlier later) (id : Nat) :
    finals place id later = finals place id earlier := by
  obtain ⟨news, rfl, fails⟩ := grows
  unfold finals
  rw [List.filterMap_append, List.filterMap_eq_nil_iff.mpr, List.nil_append]
  intro entry member
  have fails_entry := fails entry member
  split
  · next cell other outcome =>
    rw [if_neg]
    rintro ⟨rfl, -⟩
    simp [Entry.final] at fails_entry
  · rfl

namespace View

/-- The subscriptions of a computation go on: who has a name has its number already and stays done,
or has a number that is new. -/
structure Continues (view changed : View) : Prop where
  /-- No number is given out again. -/
  count : ∀ cell, changed.cell = some cell → ∃ earlier, view.cell = some earlier ∧
    earlier.nextId ≤ cell.nextId
  named : ∀ name subscription, changed.named name = some subscription →
    (∃ earlier, view.named name = some earlier ∧ earlier.id = subscription.id ∧
      (earlier.done = true → subscription.done = true)) ∨
    ∃ cell, view.cell = some cell ∧ cell.nextId ≤ subscription.id

namespace Continues

variable {view changed later : View}

theorem refl (view : View) : Continues view view where
  count cell found := ⟨cell, found, Nat.le_refl _⟩
  named _ subscription held := .inl ⟨subscription, held, rfl, fun done => done⟩

theorem trans (first : Continues view changed) (second : Continues changed later) :
    Continues view later := by
  constructor
  · intro cell found
    obtain ⟨middle, middle_found, fewer⟩ := second.count cell found
    obtain ⟨earlier, earlier_found, still_fewer⟩ := first.count middle middle_found
    exact ⟨earlier, earlier_found, Nat.le_trans still_fewer fewer⟩
  · intro name subscription held
    rcases second.named name subscription held with
      ⟨middle, middle_held, same, done⟩ | ⟨cell, found, new⟩
    · rcases first.named name middle middle_held with ⟨earlier, earlier_held, before, ended⟩ | new
      · exact .inl ⟨earlier, earlier_held, before.trans same, done ∘ ended⟩
      · exact .inr (same ▸ new)
    · obtain ⟨earlier, earlier_found, fewer⟩ := first.count cell found
      exact .inr ⟨earlier, earlier_found, Nat.le_trans fewer new⟩

/-! What is noted makes no difference, and neither does who drives. -/

private theorem note (continues : Continues view changed) (entry : Entry) :
    Continues view (changed.note entry) := ⟨continues.count, continues.named⟩

private theorem noteWakes (continues : Continues view changed) (place : Nat) :
    Continues view (changed.noteWakes place) := ⟨continues.count, continues.named⟩

private theorem reframe (continues : Continues view changed) (frames : List Frame) :
    Continues view { changed with frames } := ⟨continues.count, continues.named⟩

private theorem modify (continues : Continues view changed) (change : ScriptCell → ScriptCell)
    (nextId : ∀ cell, cell.nextId ≤ (change cell).nextId) :
    Continues view (changed.modify change) where
  count left out := by
    obtain ⟨cell, found, rfl⟩ := Option.map_eq_some_iff.mp out
    obtain ⟨earlier, earlier_found, fewer⟩ := continues.count cell found
    exact ⟨earlier, earlier_found, Nat.le_trans fewer (nextId cell)⟩
  named := continues.named

private theorem notify (continues : Continues view changed) (place : Nat) :
    Continues view (changed.notify place) :=
  (continues.noteWakes place).modify Cell.notify fun _ => Nat.le_refl _

private theorem enter (continues : Continues view changed) (driver : Driver) (future : Future) :
    Continues view (changed.enter driver future) :=
  (continues.modify (·.prepare driver.id driver.waker) fun _ => Nat.le_refl _).note _

private theorem unassign (continues : Continues view changed) (name : String) :
    Continues view (changed.assign name none) where
  count := continues.count
  named other subscription held := by
    rcases named_of_assign held with ⟨-, ⟨⟩⟩ | ⟨-, kept⟩
    exact continues.named other subscription kept

private theorem drop (continues : Continues view changed) (name : String) :
    Continues view (changed.drop name) := by
  unfold View.drop
  cases changed.named name with
  | none => exact continues
  | some subscription =>
      exact (continues.modify (·.unregister subscription.id) fun _ => Nat.le_refl _).unassign name

private theorem assign (continues : Continues view changed) {cell : ScriptCell}
    (found : view.cell = some cell) (name : String) {subscription : Subscription}
    (new : cell.nextId ≤ subscription.id) :
    Continues view (changed.assign name (some subscription)) where
  count := continues.count
  named other second held := by
    rcases named_of_assign held with ⟨-, ⟨⟩⟩ | ⟨-, kept⟩
    · exact .inr ⟨cell, found, new⟩
    · exact continues.named other second kept

private theorem push (continues : Continues view changed) (driver : Driver) (work : Work) :
    Continues view (changed.push driver work) := by
  refine continues.trans ⟨(refl changed).count, fun name subscription held => ?_⟩
  rcases named_of_assign held with ⟨rfl, busy⟩ | ⟨-, kept⟩
  · obtain ⟨earlier, earlier_held, rfl⟩ := Option.map_eq_some_iff.mp busy
    exact .inl ⟨earlier, earlier_held, rfl, fun done => done⟩
  · exact (refl changed).named name subscription kept

private theorem finish (continues : Continues view changed) (driver : Driver) (outcome : Outcome) :
    Continues view (changed.finish driver outcome) := by
  refine continues.trans ⟨fun cell found => ?_, fun name subscription held => ?_⟩
  · rcases changed.finish_cases driver outcome with ⟨_, -, -, finished⟩ | ⟨-, finished⟩ <;>
      rw [finished] at found
    · exact ⟨cell, found, Nat.le_refl _⟩
    · obtain ⟨earlier, earlier_found, rfl⟩ := Option.map_eq_some_iff.mp found
      exact ⟨earlier, earlier_found, Nat.le_refl _⟩
  · obtain ⟨earlier, earlier_held, ⟨-, -, rfl⟩ | ⟨-, rfl⟩⟩ := changed.named_finish _ _ held
    · exact .inl ⟨earlier, earlier_held, (earlier.after_id outcome).symm, earlier.after_done outcome⟩
    · exact .inl ⟨_, earlier_held, rfl, fun done => done⟩

end Continues

/-- Who is given an outcome is done, unless another subscription has its number. -/
theorem done_of_finish {view : View} {driver : Driver} {outcome : Option String} {name : String}
    {subscription : Subscription}
    (owner : ∀ name subscription, view.named name = some subscription →
      subscription.id = driver.id → name = driver.name)
    (held : (view.finish driver (.ready outcome)).named name = some subscription)
    (same : subscription.id = driver.id) : subscription.done = true := by
  obtain ⟨earlier, earlier_held, ⟨-, -, rfl⟩ | ⟨apart, rfl⟩⟩ := view.named_finish _ _ held
  · rfl
  · exact absurd same (apart (owner name _ earlier_held same))

/-- The subscriptions of a computation agree with its outcome. -/
structure Concluded (place : Nat) (view : View) : Prop where
  /-- Whatever was given is the outcome. -/
  agree : ∀ id, ∀ outcome ∈ finals place id view.history,
    view.phase? = some (Cell.settledPhase outcome)
  /-- No subscription was given an outcome twice. -/
  once : ∀ id, (finals place id view.history).length ≤ 1
  counted : ∀ cell, view.cell = some cell → ∀ id, cell.nextId ≤ id →
    finals place id view.history = []
  /-- Who was given an outcome is done. -/
  done : ∀ name subscription, view.named name = some subscription →
    finals place subscription.id view.history ≠ [] → subscription.done = true

namespace Concluded

variable {place : Nat} {view changed : View}

/-- Before a computation is over nothing was given to anyone. -/
theorem nothing (concluded : Concluded place view) {phase : Phase Factory Future String}
    (found : view.phase? = some phase) (open_still : ∀ outcome, phase ≠ Cell.settledPhase outcome)
    (id : Nat) : finals place id view.history = [] := by
  refine List.eq_nil_iff_forall_not_mem.mpr fun outcome member => open_still outcome ?_
  exact Option.some.inj (found.symm.trans (concluded.agree id outcome member))

/-- Nothing is given to anyone. -/
theorem still (concluded : Concluded place view)
    (grows : Grows (Entry.final place) view.history changed.history)
    (phase : changed.phase? = view.phase? ∨ ∀ id, finals place id view.history = [])
    (continues : Continues view changed) : Concluded place changed := by
  constructor
  · intro id outcome member
    rw [grows.finals_eq] at member
    rcases phase with same | nothing
    · exact same.trans (concluded.agree id outcome member)
    · rw [nothing] at member
      cases member
  · intro id
    rw [grows.finals_eq]
    exact concluded.once id
  · intro cell found id beyond
    obtain ⟨earlier, earlier_found, fewer⟩ := continues.count cell found
    rw [grows.finals_eq]
    exact concluded.counted earlier earlier_found id (Nat.le_trans fewer beyond)
  · intro name subscription held given
    rw [grows.finals_eq] at given
    rcases continues.named name subscription held with
      ⟨earlier, earlier_held, same, done⟩ | ⟨cell, found, new⟩
    · exact done (concluded.done name earlier earlier_held (same ▸ given))
    · exact absurd (concluded.counted cell found _ new) given

/-- The outcome is given to a subscription that was not given it before, and then is done. -/
theorem give (concluded : Concluded place view) {id : Nat} {outcome : Option String}
    (settled : changed.phase? = some (Cell.settledPhase outcome))
    (before : view.phase? = some (Cell.settledPhase outcome) ∨
      ∀ other, finals place other view.history = [])
    (grows : ∃ middle, Grows (Entry.final place) view.history middle ∧
      changed.history = .answered place id (.ready outcome) :: middle)
    (first : finals place id view.history = []) (continues : Continues view changed)
    (counted : ∀ cell, view.cell = some cell → id < cell.nextId)
    (ends : ∀ name subscription, changed.named name = some subscription →
      subscription.id = id → subscription.done = true) : Concluded place changed := by
  obtain ⟨middle, grows, history⟩ := grows
  have given : finals place id changed.history = [outcome] := by
    rw [history]
    simp only [finals, List.filterMap_cons]
    simp only [and_self, if_true, List.cons.injEq, true_and]
    exact (grows.finals_eq id).trans first
  have others : ∀ other, other ≠ id →
      finals place other changed.history = finals place other view.history := by
    intro other apart
    rw [history]
    simp only [finals, List.filterMap_cons]
    simp only [apart.symm, and_false, if_false]
    exact grows.finals_eq other
  constructor
  · intro other value member
    by_cases same : other = id
    · rw [same, given, List.mem_singleton] at member
      exact member ▸ settled
    · rw [others other same] at member
      rcases before with settled_before | nothing
      · rw [settled, ← settled_before]
        exact concluded.agree other value member
      · rw [nothing] at member
        cases member
  · intro other
    by_cases same : other = id
    · rw [same, given]
      exact Nat.le_refl 1
    · rw [others other same]
      exact concluded.once other
  · intro cell found other beyond
    obtain ⟨earlier, earlier_found, fewer⟩ := continues.count cell found
    have beyond_earlier := Nat.le_trans fewer beyond
    have apart := Nat.ne_of_gt (Nat.lt_of_lt_of_le (counted earlier earlier_found) beyond_earlier)
    rw [others other apart]
    exact concluded.counted earlier earlier_found other beyond_earlier
  · intro name subscription held was_given
    by_cases apart : subscription.id = id
    · exact ends name subscription held apart
    · rw [others _ apart] at was_given
      rcases continues.named name subscription held with
        ⟨earlier, earlier_held, same, done⟩ | ⟨cell, found, new⟩
      · exact done (concluded.done name earlier earlier_held (same ▸ was_given))
      · exact absurd (concluded.counted cell found _ new) was_given

private theorem create {phase : Phase Factory Future String} (sound : Sound place view)
    (missing : view.cell = none) : Concluded place { view with cell := some (.ofPhase phase) } := by
  obtain ⟨unnamed, -, silent⟩ := sound.blank missing
  have nothing : ∀ id, finals place id view.history = [] := by
    intro id
    refine List.eq_nil_iff_forall_not_mem.mpr fun outcome member => ?_
    cases silent _ (mem_finals.mp member)
  constructor
  · intro id outcome member
    rw [nothing] at member
    cases member
  · intro id
    rw [nothing]
    exact Nat.zero_le 1
  · exact fun _ _ id _ => nothing id
  · intro name subscription held
    cases (unnamed name).symm.trans held

/-- A subscription that was not done is given the outcome at once. -/
theorem replay {driver : Driver} {cell : ScriptCell} {outcome : Option String}
    (concluded : Concluded place view) (sound : Sound place view) (here : driver.cell = place)
    (ready : view.Ready driver) (found : view.cell = some cell)
    (phase : cell.phase = Cell.settledPhase outcome) :
    Concluded place
      (((view.ask driver).modify (·.unregister driver.id)).finish driver (.ready outcome)) := by
  subst here
  have asked : Grows (Entry.final driver.cell) view.history (view.ask driver).history :=
    (Grows.refl ..).cons rfl
  have settled : view.phase? = some (Cell.settledPhase outcome) := by
    rw [phase?_of_cell found, phase]
  have first : finals driver.cell driver.id view.history = [] := by
    by_cases given : finals driver.cell driver.id view.history = []
    · exact given
    · cases concluded.done driver.name _ ready given
  have unregistered := ((Continues.refl view).note (.asked driver.cell driver.id
    driver.waker)).modify (·.unregister driver.id) fun _ => Nat.le_refl _
  refine concluded.give (((phase?_finish ..).trans (phase?_unregister ..)).trans settled)
    (.inl settled) ⟨_, asked, history_finish ..⟩ first (unregistered.finish driver _)
    (sound.fits _ _ ready).counted fun name subscription => done_of_finish ?_
  exact fun name subscription held same => sound.distinct name driver.name _ _ held ready same

/-- The driver is the first to be given the outcome. -/
theorem resolve {driver : Driver} {work : Work} {below : List Frame} {outcome : Option String}
    (concluded : Concluded place view) (sound : Sound place view) (here : driver.cell = place)
    (top : view.frames = ⟨driver, work⟩ :: below) :
    Concluded place
      ((({ view with frames := below }.noteWakes place).modify (·.settle outcome)).modify
        (·.unregister driver.id) |>.finish driver (.ready outcome)) := by
  subst here
  obtain ⟨-, cell, found, phase⟩ := sound.found_of_frame top
  have there : ⟨driver, work⟩ ∈ view.frames := by simp [top]
  have driven : view.phase? = some .driven := by rw [phase?_of_cell found, phase]
  have nothing := concluded.nothing driven fun outcome => (Cell.settledPhase_ne_driven outcome).symm
  have woken := (Grows.refl (Entry.final driver.cell) view.history).woke driver.cell
    (fun _ _ => rfl) ((view.cell.map Cell.waiting).getD []).reverse
  have noted : ({ view with frames := below }.noteWakes driver.cell).cell = some cell := found
  have settled := phase?_of_cell
    (cell_modify (cell_modify noted (·.settle outcome)) (·.unregister driver.id))
  have continues := ((((Continues.refl view).reframe below).noteWakes driver.cell).modify
    (·.settle outcome) fun _ => Nat.le_refl _).modify (·.unregister driver.id) fun _ => Nat.le_refl _
  refine concluded.give ((phase?_finish ..).trans settled) (.inr nothing)
    ⟨_, woken, history_finish ..⟩ (nothing driver.id) (continues.finish driver _)
    (fun cell found => sound.frame_counted cell found _ there)
    fun name subscription => done_of_finish ?_
  intro name subscription held same
  exact ((sound.fits name subscription held).owner _ there same.symm).symm

private theorem touch {operation : Operation} (concluded : Concluded place view)
    (sound : Sound place view)
    (touch : Touch operation place view changed) : Concluded place changed := by
  have continues := Continues.refl view
  have asked (driver : Driver) : Grows (Entry.final place) view.history
      (.asked driver.cell driver.id driver.waker :: view.history) := (Grows.refl ..).cons rfl
  have begun (driver : Driver) : Continues view (view.ask driver) := continues.note _
  cases touch with
  | created missing makes => exact create sound missing
  | @subscribed cell found name unnamed =>
      have counted := continues.modify Cell.subscribe fun cell => Nat.le_succ cell.nextId
      exact concluded.still (.refl ..) (.inl (phase?_modify _ fun _ => rfl))
        (counted.assign found name (Nat.le_refl _))
  | @dropped name subscription named calm =>
      refine concluded.still ?_ (.inl ?_) (continues.drop name) <;> unfold drop <;> rw [named]
      · exact .refl ..
      · exact phase?_modify _ fun _ => rfl
  | disowned named busy =>
      exact concluded.still (.refl ..) (.inl rfl) (continues.unassign _)
  | notified =>
      have noted : Grows (Entry.final place) view.history (.notified place :: view.history) :=
        (Grows.refl ..).cons rfl
      exact concluded.still (noted.woke _ (fun _ _ => rfl) _) (.inl (phase?_notify ..))
        ((continues.note _).notify place)
  | @waited driver cell here polls ready found phase =>
      have registered := (begun driver).modify (·.register driver.id driver.waker)
        fun _ => Nat.le_refl _
      exact concluded.still (history_finish .. ▸ (asked driver).cons rfl)
        (.inl ((phase?_finish ..).trans (phase?_register ..))) (registered.finish driver _)
  | replayed here polls ready found phase => exact concluded.replay sound here ready found phase
  | @started driver cell factory here polls ready found phase =>
      have idle : view.phase? = some (.idle factory) := by rw [phase?_of_cell found, phase]
      have nothing := concluded.nothing idle fun outcome =>
        (Cell.settledPhase_ne_idle outcome _).symm
      have out : Continues view (view.ask driver).checkOut :=
        (begun driver).modify _ fun _ => Nat.le_refl _
      exact concluded.still ((asked driver).cons rfl) (.inr nothing) ((out.note _).push driver _)
  | @resumed driver cell future here polls ready found phase =>
      have parked : view.phase? = some (.parked future) := by rw [phase?_of_cell found, phase]
      have nothing := concluded.nothing parked fun outcome =>
        (Cell.settledPhase_ne_parked outcome _).symm
      have out : Continues view (view.ask driver).checkOut :=
        (begun driver).modify _ fun _ => Nat.le_refl _
      exact concluded.still ((asked driver).cons rfl) (.inr nothing)
        ((out.enter driver future).push driver _)

private theorem drive {verdict : Option (Nat × Outcome)} (concluded : Concluded place view)
    (sound : Sound place view) (drive : Drive verdict place view changed) :
    Concluded place changed := by
  have driven := (drive.progress sound).1
  have nothing := concluded.nothing driven fun outcome => (Cell.settledPhase_ne_driven outcome).symm
  have framed := (Continues.refl view).reframe
  cases drive with
  | @entered driver future below here goes top =>
      exact concluded.still ((Grows.refl ..).cons rfl) (.inr nothing)
        ((framed _).enter driver future)
  | moved here goes played top => exact concluded.still (.refl ..) (.inr nothing) (framed _)
  | @woken driver action actions rest below here goes top =>
      have noted : Grows (Entry.final place) view.history (.notified place :: view.history) :=
        (Grows.refl ..).cons rfl
      exact concluded.still (noted.woke _ (fun _ _ => rfl) _) (.inr nothing)
        (((framed _).note _).notify place)
  | resolved here ends top => exact concluded.resolve sound here top
  | @abandoned driver work below message here ends top =>
      have woken := (Grows.refl (Entry.final place) view.history).woke place
        (fun _ _ => rfl) ((view.cell.map Cell.waiting).getD []).reverse
      have settled := ((framed below).noteWakes place).modify (·.settle none)
        fun _ => Nat.le_refl _
      exact concluded.still (history_finish .. ▸ woken.cons rfl) (.inr nothing)
        (settled.finish driver _)
  | @suspended driver actions rest below cell here goes found top =>
      have parked := (framed below).modify (·.park rest) fun _ => Nat.le_refl _
      unfold suspend
      cases cell.woken with
      | false =>
          exact concluded.still (history_finish .. ▸ (Grows.refl ..).cons rfl) (.inr nothing)
            (parked.finish driver _)
      | true =>
          have woken : Grows (Entry.final place) view.history
              ((({ view with frames := below }.modify (·.park rest)).modify
                (·.register driver.id driver.waker)).notify driver.cell).history :=
            (Grows.refl ..).notify driver.cell fun _ _ => rfl
          have again := parked.modify (·.register driver.id driver.waker) fun _ => Nat.le_refl _
          exact concluded.still (woken.finish driver rfl) (.inr nothing)
            ((again.notify driver.cell).finish driver _)

private theorem kept (place : Nat) : Kept place (Concluded place) where
  touch sound concluded touched := concluded.touch sound touched
  drive sound concluded driven := concluded.drive sound driven

private theorem initial (place : Nat) : Concluded place (Machine.initial.view place) where
  agree _ _ member := by cases member
  once _ := Nat.zero_le 1
  counted _ found := by cases found
  done _ _ named := by cases named

end Concluded

/-- An operation settles a computation only by making it. -/
theorem settled_of_touches {operation : Operation} {place : Nat} {view changed : View}
    {outcome : Option String} (touched : Touches operation place view changed)
    (settled : changed.phase? = some (Cell.settledPhase outcome)) :
    view.phase? = some (Cell.settledPhase outcome) ∨
      view.phase? = none ∧ operation.phase? = some (Cell.settledPhase outcome) := by
  induction touched with
  | refl => exact .inl settled
  | tail earlier touch ih =>
      cases touch.effect with
      | still grows frames phase => exact ih (phase ▸ settled)
      | made missing grows makes phase =>
          refine .inr ⟨?_, makes.trans (phase.symm.trans settled)⟩
          cases found : view.phase? with
          | none => rfl
          | some phase =>
              obtain ⟨later, later_found, -⟩ := stage_of_touches found earlier
              cases missing.symm.trans later_found
      | started polls idle phase => cases outcome <;> cases phase.symm.trans settled
      | resumed polls parked phase => cases outcome <;> cases phase.symm.trans settled

end View

private theorem Operation.createSettled_of_phase? {operation : Operation} {outcome : Option String}
    (makes : operation.phase? = some (Cell.settledPhase outcome)) :
    ∃ handle, operation = .createSettled handle outcome := by
  cases operation with
  | createSettled handle other =>
      cases Cell.settledPhase_inj.mp (Option.some.inj makes)
      exact ⟨handle, rfl⟩
  | createLazy => cases outcome <;> cases makes
  | create => cases outcome <;> cases makes
  | _ => cases makes

/-- What an answer hands out. -/
def Answer.gives : Answer → List String
  | .item given => [given]
  | .value given => given.toList
  | .items given => given
  | _ => []

private theorem gives_answer {request : Request} {outcome : Outcome} {text : String}
    (given : text ∈ (Request.answer request outcome).gives) : outcome = .ready (some text) := by
  cases outcome with
  | pending => cases request <;> simp [Request.answer, Answer.gives] at given
  | panicked message => cases request <;> simp [Request.answer, Answer.gives] at given
  | ready outcome =>
      cases outcome with
      | none => cases request <;> simp [Request.answer, Answer.gives] at given
      | some value =>
          have same : text = value := by
            cases request <;> simpa [Request.answer, Answer.gives] using given
          rw [same]

namespace Machine

open View

variable {machine : Machine} {place : Nat}

/-- Where the outcome of a computation comes from. -/
inductive Origin (place : Nat) (outcome : Option String) (machine : Machine) : Prop
  /-- The computation was made with it. -/
  | made {origin : Machine} {handle : String}
      (begins : origin.Begins (.createSettled handle outcome))
      (missing : origin.cell? place = none)
      (later : (origin.start (.createSettled handle outcome)).Reaches machine)
  /-- The computation gave it. -/
  | computed {earlier : Machine} (reach : earlier.Reachable)
      (ruled : earlier.verdict? = some (place, .ready outcome))
      (later : earlier.step.Reaches machine)
  /-- The computation or its factory panicked. -/
  | panicked {earlier : Machine} {message : String} (reach : earlier.Reachable)
      (ruled : earlier.verdict? = some (place, .panicked message)) (nothing : outcome = none)
      (later : earlier.step.Reaches machine)

private theorem Origin.next {outcome : Option String} {after : Machine}
    (origin : Origin place outcome machine) (next : machine.Next after) :
    Origin place outcome after := by
  cases origin with
  | made begins missing later => exact .made begins missing (later.tail next)
  | computed reach ruled later => exact .computed reach ruled (later.tail next)
  | panicked reach ruled nothing later => exact .panicked reach ruled nothing (later.tail next)

private theorem Reachable.origin (reach : machine.Reachable) {outcome : Option String}
    (settled : machine.phase? place = some (Cell.settledPhase outcome)) :
    Origin place outcome machine := by
  induction reach with
  | refl => cases settled
  | @tail machine after earlier next ih =>
      by_cases before : machine.phase? place = some (Cell.settledPhase outcome)
      · exact (ih before).next next
      · have reach : machine.Reachable := earlier
        obtain ⟨operation, view, begins, same | ⟨rfl, driven⟩, touched⟩ :=
          next_view reach reach.sound next place
        · subst same
          rcases settled_of_touches touched settled with settled_before | ⟨missing, makes⟩
          · exact absurd settled_before before
          · obtain ⟨handle, rfl⟩ := Operation.createSettled_of_phase? makes
            rcases begins with nothing | ⟨origin, begins, same_cells, starts⟩
            · cases nothing.symm.trans makes
            · refine .made begins ?_ (starts ▸ .refl)
              rw [cell?, same_cells]
              exact Option.map_eq_none_iff.mp missing
        · obtain ⟨-, progress⟩ := driven.progress (reach.sound place)
          rcases settled_of_touches touched settled with settled_view | ⟨missing, -⟩
          · cases progress with
            | still goes grows phase => cases outcome <;> cases phase.symm.trans settled_view
            | entered goes phase => cases outcome <;> cases phase.symm.trans settled_view
            | parked goes grows phase =>
                cases outcome <;> cases phase.symm.trans settled_view
            | ended grows ends phase =>
                cases Cell.settledPhase_inj.mp (Option.some.inj (phase.symm.trans settled_view))
                rcases ends with ruled | ⟨nothing, message, ruled⟩
                · exact .computed reach ruled .refl
                · exact .panicked reach ruled nothing .refl
          · cases progress with
            | still goes grows phase => cases phase.symm.trans missing
            | entered goes phase => cases phase.symm.trans missing
            | parked goes grows phase => cases phase.symm.trans missing
            | ended grows ends phase => cases phase.symm.trans missing

private theorem finals_view (machine : Machine) (place id : Nat) :
    finals place id (machine.view place).history = finals place id machine.journal := by
  unfold finals view
  rw [List.filterMap_filter]
  congr 1
  funext entry
  cases entry with
  | answered cell other outcome =>
      cases outcome with
      | ready value => by_cases here : cell = place <;> simp [Entry.place?, here]
      | pending => simp
      | panicked message => simp
  | _ => simp

/-- Who is done was told so for good. -/
theorem Begins.concluded {operation : Operation} (begins : machine.Begins operation)
    (place : Nat) : Sound place (machine.view place) ∧ Concluded place (machine.view place) :=
  begins.invariant (Concluded.kept place) (Concluded.initial place)

/-- A poll of a computation that is over is answered at once. -/
theorem Begins.replayed {operation : Operation} {request : Request} {name : String}
    {waker : Waker} {subscription : Subscription} {outcome : Option String}
    (begins : machine.Begins operation)
    (polls : operation.poll? = some (request, name, waker))
    (held : machine.subscriptions.lookup name = some subscription)
    (here : subscription.cell = place) (open_still : subscription.done = false)
    (settled : machine.phase? place = some (Cell.settledPhase outcome)) :
    machine.complete operation = machine.start operation ∧
      (machine.complete operation).lastAnswer? =
        some (Request.answer request (.ready outcome)) := by
  obtain ⟨cell, found, phase⟩ := Option.map_eq_some_iff.mp settled
  have sound := (begins.concluded place).1
  have calm : subscription.busy = false := by
    have named : (machine.view place).named name = some subscription := by simp [view, held, here]
    have quiet := sound.calm cell found (phase ▸ Cell.settledPhase_ne_driven outcome)
    have busy := (sound.fits name subscription named).busy
    simpa [quiet] using busy
  obtain ⟨home, id, done, busy⟩ := subscription
  subst here open_still calm
  have starts : ∃ changed : Machine, changed.frames = machine.frames ∧
      machine.start operation = changed.finish ⟨name, home, id, waker, request⟩ (.ready outcome) := by
    refine ⟨(machine.note (.asked home id waker)).modifyCell home fun _ => cell.unregister id, rfl, ?_⟩
    rw [start_of_poll? machine polls]
    simp only [poll, held, found, Bool.false_eq_true, if_false, approach, Cell.approach, phase]
    cases outcome <;> rfl
  obtain ⟨changed, frames, starts⟩ := starts
  have same : (machine.start operation).frames = machine.frames := by
    rw [starts, frames_finish, frames]
  refine ⟨machine.complete_of_frames same, ?_⟩
  rw [machine.complete_of_frames same, starts, lastAnswer?_finish]

/-- Whatever a poll hands out is the value of the computation. -/
theorem Begins.gives {operation : Operation} {request : Request} {name : String} {waker : Waker}
    {subscription : Subscription} {answer : Answer} {text : String}
    (begins : machine.Begins operation)
    (polls : operation.poll? = some (request, name, waker))
    (held : machine.subscriptions.lookup name = some subscription)
    (here : subscription.cell = place)
    (answered : (machine.complete operation).lastAnswer? = some answer)
    (given : text ∈ answer.gives) :
    (machine.complete operation).phase? place = some (.resolved text) := by
  obtain ⟨home, id, done, busy⟩ := subscription
  subst here
  cases busy with
  | true =>
      rw [complete_busy machine polls held rfl, lastAnswer?_reply] at answered
      cases answered
      cases given
  | false =>
      cases done with
      | true =>
          rw [complete_done machine polls held, conclude, lastAnswer?_reply] at answered
          cases answered
          cases gives_answer given
      | false =>
          obtain ⟨before, outcome, after, polled⟩ := begins.polled machine polls held
          cases polled.answer.symm.trans answered
          obtain rfl := gives_answer given
          rw [polled.left]
          cases polled.answers with
          | replayed outcome => rfl
          | started leaves => exact congrArg some leaves
          | resumed leaves => exact congrArg some leaves

/-- A poll of a computation that is not over waits, unless it ends the computation. -/
theorem Begins.waits {operation : Operation} {request : Request} {name : String} {waker : Waker}
    {subscription : Subscription} (begins : machine.Begins operation)
    (polls : operation.poll? = some (request, name, waker))
    (held : machine.subscriptions.lookup name = some subscription)
    (here : subscription.cell = place) (calm : subscription.busy = false)
    (open_still : subscription.done = false)
    (unsettled : ∀ outcome, machine.phase? place ≠ some (Cell.settledPhase outcome)) :
    (machine.complete operation).lastAnswer? = some .pending ∧
        (∀ outcome, (machine.complete operation).phase? place ≠
          some (Cell.settledPhase outcome)) ∨
      ∃ outcome value, (machine.complete operation).lastAnswer? =
          some (Request.answer request outcome) ∧
        (machine.complete operation).phase? place = some (Cell.settledPhase value) ∧
        (outcome = .ready value ∨ value = none ∧ ∃ message, outcome = .panicked message) := by
  obtain ⟨home, id, done, busy⟩ := subscription
  subst here calm open_still
  obtain ⟨before, outcome, after, polled⟩ := begins.polled machine polls held
  have driven (leaves : outcome.Leaves after) :
      (machine.complete operation).lastAnswer? = some .pending ∧
          (∀ value, (machine.complete operation).phase? home ≠ some (Cell.settledPhase value)) ∨
        ∃ outcome value, (machine.complete operation).lastAnswer? =
            some (Request.answer request outcome) ∧
          (machine.complete operation).phase? home = some (Cell.settledPhase value) ∧
          (outcome = .ready value ∨ value = none ∧ ∃ message, outcome = .panicked message) := by
    have answer := polled.answer
    have left := polled.left
    cases outcome with
    | pending =>
        obtain ⟨future, rfl⟩ := leaves
        refine .inl ⟨by cases request <;> exact answer, fun value settled => ?_⟩
        cases value <;> cases left.symm.trans settled
    | ready value => exact .inr ⟨_, value, answer, leaves ▸ left, .inl rfl⟩
    | panicked message =>
        exact .inr ⟨_, none, answer, left.trans (congrArg some leaves), .inr ⟨rfl, message, rfl⟩⟩
  cases polled.answers with
  | replayed outcome => exact absurd polled.found (unsettled outcome)
  | waited =>
      refine .inl ⟨by cases request <;> exact polled.answer, fun value settled => ?_⟩
      cases value <;> cases polled.left.symm.trans settled
  | started leaves => exact driven leaves
  | resumed leaves => exact driven leaves

/-- What it means that all subscriptions of a computation agree. -/
structure Agrees (place : Nat) : Prop where
  /-- Whatever a subscription was given is the outcome of the computation. -/
  given_outcome : ∀ (machine : Machine) id, machine.Reachable →
    ∀ outcome ∈ finals place id machine.journal,
      machine.phase? place = some (Cell.settledPhase outcome)
  /-- The computation gave its outcome, or was made with it. -/
  origin : ∀ (machine : Machine) outcome, machine.Reachable →
    machine.phase? place = some (Cell.settledPhase outcome) → Origin place outcome machine
  /-- It gives none when it has one. -/
  single : ∀ (machine after : Machine) outcome verdict, machine.Reachable →
    machine.phase? place = some (Cell.settledPhase outcome) → machine.Reaches after →
    after.verdict? ≠ some (place, verdict)
  /-- A poll hands nothing out but the value of the computation. -/
  gives : ∀ (machine : Machine) operation request name waker subscription answer,
    machine.Begins operation → operation.poll? = some (request, name, waker) →
    machine.subscriptions.lookup name = some subscription → subscription.cell = place →
    (machine.complete operation).lastAnswer? = some answer → ∀ text ∈ answer.gives,
      (machine.complete operation).phase? place = some (.resolved text)
  /-- While there is no outcome a poll waits, unless it ends the computation itself. -/
  waits : ∀ (machine : Machine) operation request name waker subscription,
    machine.Begins operation → operation.poll? = some (request, name, waker) →
    machine.subscriptions.lookup name = some subscription → subscription.cell = place →
    subscription.busy = false → subscription.done = false →
    (∀ outcome, machine.phase? place ≠ some (Cell.settledPhase outcome)) →
    (machine.complete operation).lastAnswer? = some .pending ∧
        (∀ outcome, (machine.complete operation).phase? place ≠
          some (Cell.settledPhase outcome)) ∨
      ∃ outcome value, (machine.complete operation).lastAnswer? =
          some (Request.answer request outcome) ∧
        (machine.complete operation).phase? place = some (Cell.settledPhase value) ∧
        (outcome = .ready value ∨ value = none ∧ ∃ message, outcome = .panicked message)
  /-- Once there is one a poll is answered with it at once. -/
  replayed : ∀ (machine : Machine) operation request name waker subscription outcome,
    machine.Begins operation → operation.poll? = some (request, name, waker) →
    machine.subscriptions.lookup name = some subscription → subscription.cell = place →
    subscription.done = false → machine.phase? place = some (Cell.settledPhase outcome) →
    machine.complete operation = machine.start operation ∧
      (machine.complete operation).lastAnswer? =
        some (Request.answer request (.ready outcome)) ∧
      (machine.complete operation).lastAnswer? ≠ some .pending
  /-- Looking at the value agrees with polling. -/
  peeked : ∀ (machine : Machine) handle outcome, machine.handles.lookup handle = some place →
    machine.phase? place = some (Cell.settledPhase outcome) →
    (machine.complete (.peek handle)).lastAnswer? = some (.optional outcome)
  /-- No subscription is given an outcome twice. -/
  once : ∀ (machine : Machine) id, machine.Reachable →
    (finals place id machine.journal).length ≤ 1
  /-- A subscription that was given the outcome has ended. -/
  ended : ∀ (machine : Machine) operation name subscription, machine.Begins operation →
    machine.subscriptions.lookup name = some subscription → subscription.cell = place →
    finals place subscription.id machine.journal ≠ [] →
    (∀ request waker, operation.poll? = some (request, name, waker) →
        (machine.complete operation).lastAnswer? =
          some (Request.answer request (.ready none))) ∧
      (operation = .terminated name →
        (machine.complete operation).lastAnswer? = some (.flag true)) ∧
      (operation = .sizeHint name →
        (machine.complete operation).lastAnswer? = some (.sizeHint 0 0))

private theorem Begins.ended {operation : Operation} {name : String} {subscription : Subscription}
    (begins : machine.Begins operation)
    (held : machine.subscriptions.lookup name = some subscription)
    (here : subscription.cell = place)
    (given : finals place subscription.id machine.journal ≠ []) :
    subscription.done = true ∧ subscription.busy = false := by
  obtain ⟨sound, concluded⟩ := begins.concluded place
  have named : (machine.view place).named name = some subscription := by simp [view, held, here]
  have done : subscription.done = true :=
    concluded.done name subscription named (by rwa [finals_view])
  refine ⟨done, Bool.eq_false_iff.mpr fun busy => ?_⟩
  exact absurd ((sound.fits name subscription named).open_of_busy busy) (by simp [done])

/-- All subscriptions of a computation agree, whenever they were made and however they are polled. -/
theorem all_agree (place : Nat) : Agrees place where
  given_outcome machine id reach outcome given := by
    have concluded := reach.invariant (Concluded.kept place) (Concluded.initial place)
    exact concluded.agree id outcome (by rwa [finals_view])
  origin machine outcome reach settled := reach.origin settled
  single machine after outcome verdict reach settled later ruled := by
    obtain ⟨driver, work, below, top, rfl⟩ := driver_of_verdict? ruled
    have reach_after : after.Reachable := reach.trans later
    have member : ⟨driver, work⟩ ∈ after.frames := by simp [top]
    obtain ⟨cell, found, driven⟩ := reach_after.driven member
    have still := (reach.stays later settled).1
    rw [phase?, found, Option.map_some, driven, Option.some.injEq] at still
    exact Cell.settledPhase_ne_driven outcome still.symm
  gives machine operation request name waker subscription answer begins polls held here answered
      text given := begins.gives polls held here answered given
  waits machine operation request name waker subscription begins polls held here calm open_still
      unsettled := begins.waits polls held here calm open_still unsettled
  replayed machine operation request name waker subscription outcome begins polls held here
      open_still settled := by
    obtain ⟨at_once, answer⟩ := begins.replayed polls held here open_still settled
    refine ⟨at_once, answer, ?_⟩
    rw [answer]
    cases request <;> cases outcome <;> rintro ⟨⟩
  peeked machine handle outcome handled settled := by
    obtain ⟨cell, found, phase⟩ := Option.map_eq_some_iff.mp settled
    have peek : cell.peek = outcome := by
      unfold Cell.peek
      rw [phase]
      cases outcome <;> rfl
    rw [machine.complete_of_frames (machine.frames_start_of_poll? rfl)]
    simp only [start, inspect, handled, Option.bind_some, found, peek]
    exact lastAnswer?_reply _ _ _
  once machine id reach := by
    have concluded := reach.invariant (Concluded.kept place) (Concluded.initial place)
    exact finals_view machine place id ▸ concluded.once id
  ended machine operation name subscription begins held here given := by
    obtain ⟨done, calm⟩ := begins.ended held here given
    obtain ⟨home, id, _, _⟩ := subscription
    subst here done calm
    refine ⟨fun request waker polls => ?_, ?_, ?_⟩
    · rw [complete_done machine polls held, conclude]
      exact lastAnswer?_reply _ _ _
    · rintro rfl
      rw [machine.complete_of_frames (machine.frames_start_of_poll? rfl)]
      simp only [start, inspectSubscription, held]
      exact lastAnswer?_reply _ _ _
    · rintro rfl
      rw [machine.complete_of_frames (machine.frames_start_of_poll? rfl)]
      simp only [start, inspectSubscription, held]
      exact lastAnswer?_reply _ _ _

/-- One subscription has driven the computation to its end when another is polled. -/
def drivenByOther : List Operation :=
  [.create "r" [[.ready (some "v")]], .subscribe "r" "s", .subscribe "r" "t", .poll "s" .silent]

theorem other_given_same :
    ({ initial.run drivenByOther with answer := none }.complete
      (.poll "t" .silent)).lastAnswer? = some (.item "v") := by
  obtain ⟨reach, idle⟩ := reachable_run .refl rfl drivenByOther
  have held : (initial.run drivenByOther).subscriptions.lookup "t" =
      some ⟨0, 1, false, false⟩ := by cbv
  have settled : (initial.run drivenByOther).phase? 0 = some (Cell.settledPhase (some "v")) := by
    cbv
  exact ((all_agree 0).replayed _ _ _ _ _ _ _ (.outside reach idle (.poll "t" .silent)) rfl held
    rfl rfl settled).2.1

end Machine
end Replay
end LinkFacts
