import Mathlib
import LinkFacts.Proofs.Replay.Soundness

/-!
# Nobody waits in vain

A subscription whose latest poll came to nothing has left the waker of that poll with the
computation, or that waker was used since.  The wakers are all gone once the computation is over,
and whenever its own waker was used since it was last polled.
-/

namespace LinkFacts
namespace Replay

/-- The waker with which a subscription began a poll. -/
def Entry.waker? (place id : Nat) : Entry → Option Waker
  | .asked cell other waker => if cell = place ∧ other = id then some waker else none
  | _ => none

/-- What a poll of a subscription came to. -/
def Entry.outcome? (place id : Nat) : Entry → Option Outcome
  | .answered cell other outcome => if cell = place ∧ other = id then some outcome else none
  | _ => none

/-- A computation is polled. -/
def Entry.polls (place : Nat) : Entry → Bool
  | .polled cell _ => cell = place
  | _ => false

/-- The waker of the latest poll of a subscription. -/
def lastWaker? (place id : Nat) (journal : List Entry) : Option Waker :=
  journal.findSome? (·.waker? place id)

/-- What the latest poll of a subscription to end came to. -/
def lastOutcome? (place id : Nat) (journal : List Entry) : Option Outcome :=
  journal.findSome? (·.outcome? place id)

/-- What could be noticed since a subscription last began a poll. -/
def sinceAsked (place id : Nat) (journal : List Entry) : List Entry :=
  journal.takeWhile fun entry => (entry.waker? place id).isNone

/-- What could be noticed since a computation was last polled. -/
def sincePolled (place : Nat) (journal : List Entry) : List Entry :=
  journal.takeWhile fun entry => !entry.polls place

/-- The computation itself is polled, not only its factory. -/
def Work.Underway : Work → Prop
  | .starting .. => False
  | .polling .. => True

/-- An entry that tells nothing of the polls of a subscription. -/
def Entry.Silent (place id : Nat) (entry : Entry) : Prop :=
  entry.waker? place id = none ∧ entry.outcome? place id = none

section Journal

variable {place id : Nat} {news journal : List Entry}

theorem lastWaker?_append (silent : ∀ entry ∈ news, entry.Silent place id) :
    lastWaker? place id (news ++ journal) = lastWaker? place id journal := by
  have nothing : news.findSome? (·.waker? place id) = none :=
    List.findSome?_eq_none_iff.mpr fun entry member => (silent entry member).1
  rw [lastWaker?, List.findSome?_append, nothing, Option.none_or, lastWaker?]

private theorem lastOutcome?_append (silent : ∀ entry ∈ news, entry.Silent place id) :
    lastOutcome? place id (news ++ journal) = lastOutcome? place id journal := by
  have nothing : news.findSome? (·.outcome? place id) = none :=
    List.findSome?_eq_none_iff.mpr fun entry member => (silent entry member).2
  rw [lastOutcome?, List.findSome?_append, nothing, Option.none_or, lastOutcome?]

private theorem sinceAsked_unasked (unasked : ∀ entry ∈ news, entry.waker? place id = none) :
    sinceAsked place id (news ++ journal) = news ++ sinceAsked place id journal := by
  refine List.takeWhile_append_of_pos fun entry member => ?_
  rw [unasked entry member]
  rfl

theorem sinceAsked_append (silent : ∀ entry ∈ news, entry.Silent place id) :
    sinceAsked place id (news ++ journal) = news ++ sinceAsked place id journal :=
  sinceAsked_unasked fun entry member => (silent entry member).1

end Journal

/-- A poll in progress belongs to a subscription. -/
def Drives (frames : List Frame) (id : Nat) : Prop := ∃ frame ∈ frames, frame.driver.id = id

/-- A poll in progress belongs to a subscription, and has come to the computation itself. -/
def Polls (frames : List Frame) (id : Nat) : Prop :=
  ∃ frame ∈ frames, frame.driver.id = id ∧ frame.work.Underway

namespace Cell

open Naming

variable {Seed Task Value : Type} (cell : Cell Seed Task Value)

theorem lookup_register (id other : Nat) (waker : Waker) :
    (cell.register id waker).waiting.lookup other =
      if other = id then some waker else cell.waiting.lookup other := by
  rw [register, lookup_cons_ite, lookup_filter_ne]
  split <;> rfl

theorem lookup_unregister (id other : Nat) :
    (cell.unregister id).waiting.lookup other =
      if other = id then none else cell.waiting.lookup other :=
  lookup_filter_ne id other cell.waiting

end Cell

/-- The wakes of all who wait. -/
def wakesOf (place : Nat) (waiting : List (Nat × Waker)) : List Entry :=
  waiting.reverse.map fun entry => .woke place entry.1 entry.2

theorem silent_of_mem_wakesOf {place other id : Nat} {waiting : List (Nat × Waker)} {entry : Entry}
    (member : entry ∈ wakesOf place waiting) : entry.Silent other id := by
  obtain ⟨pair, -, rfl⟩ := List.mem_map.mp member
  exact ⟨rfl, rfl⟩

private theorem mem_wakesOf {place id : Nat} {waker : Waker} {waiting : List (Nat × Waker)}
    (found : waiting.lookup id = some waker) : .woke place id waker ∈ wakesOf place waiting :=
  List.mem_map.mpr ⟨(id, waker), List.mem_reverse.mpr (Naming.mem_of_lookup found), rfl⟩

theorem sincePolled_wakesOf (place : Nat) (waiting : List (Nat × Waker)) (journal : List Entry) :
    .notified place ∈ sincePolled place (wakesOf place waiting ++ journal) ↔
      .notified place ∈ sincePolled place journal := by
  unfold sincePolled
  rw [List.takeWhile_append_of_pos, List.mem_append]
  · simp [wakesOf]
  · intro entry member
    obtain ⟨pair, -, rfl⟩ := List.mem_map.mp member
    rfl

namespace View

private theorem history_noteWakes {view : View} {cell : ScriptCell} (found : view.cell = some cell)
    (place : Nat) :
    (view.noteWakes place).history = wakesOf place cell.waiting ++ view.history := by
  simp [noteWakes, found, wakesOf]

/-- Waking all who wait is noted for each of them. -/
theorem notify_of_found {view : View} {cell : ScriptCell} (found : view.cell = some cell)
    (place : Nat) :
    view.notify place = { view with
      cell := some cell.notify
      history := wakesOf place cell.waiting ++ view.history } := by
  simp [notify, noteWakes, modify, found, wakesOf]

/-- The waker is kept for a subscription. -/
def Keeps (view : View) (id : Nat) (waker : Waker) : Prop :=
  ∃ cell, view.cell = some cell ∧ cell.waiting.lookup id = some waker

/-- The waker is kept for a subscription, or it was used since the subscription was last polled. -/
def Told (place : Nat) (view : View) (id : Nat) (waker : Waker) : Prop :=
  view.Keeps id waker ∨ .woke place id waker ∈ sinceAsked place id view.history

/-- A subscription drives the computation, or its latest poll came to nothing. -/
def Waits (place : Nat) (view : View) (id : Nat) : Prop :=
  Polls view.frames id ∨
    ¬Drives view.frames id ∧ lastOutcome? place id view.history = some .pending

/-- Who waits is told. -/
def Serves (place : Nat) (view : View) (id : Nat) : Prop :=
  view.Waits place id → ∀ waker, lastWaker? place id view.history = some waker →
    view.Told place id waker

/-- What holds of the wakers of a computation in every state. -/
structure Served (place : Nat) (view : View) : Prop where
  /-- Only subscriptions with a number were polled. -/
  counted : ∀ cell, view.cell = some cell → ∀ id, cell.nextId ≤ id →
    lastWaker? place id view.history = none
  driver_asked : ∀ frame ∈ view.frames,
    lastWaker? place frame.driver.id view.history = some frame.driver.waker
  serves : ∀ name subscription, view.named name = some subscription →
    view.Serves place subscription.id
  /-- No waker is left with a computation that was woken, is over or was not started. -/
  drained : ∀ cell, view.cell = some cell → cell.phase ≠ .driven → cell.waiting ≠ [] →
    (∃ task, cell.phase = .parked task) ∧ cell.woken = false
  /-- The computation knows whether its waker was used since it was last polled. -/
  noticed : ∀ cell, view.cell = some cell →
    (∃ task, cell.phase = .parked task) ∨ (∃ id, Polls view.frames id) →
    (cell.woken = true ↔ .notified place ∈ sincePolled place view.history)

/-- A waker that was left is left still, or was used by now. -/
theorem Told.keep {place id : Nat} {view changed : View} {waker : Waker}
    (told : view.Told place id waker) {news : List Entry}
    (history : changed.history = news ++ view.history)
    (unasked : ∀ entry ∈ news, entry.waker? place id = none)
    (keeps : view.Keeps id waker → changed.Keeps id waker ∨ .woke place id waker ∈ news) :
    changed.Told place id waker := by
  unfold Told
  rw [history, sinceAsked_unasked unasked, List.mem_append]
  rcases told with kept | woken
  · exact (keeps kept).imp_right .inl
  · exact .inr (.inr woken)

/-- A subscription is still served if nothing happened to it but that its waker was used. -/
theorem Serves.keep {place id : Nat} {view changed : View} (serves : view.Serves place id)
    (news : List Entry) (history : changed.history = news ++ view.history)
    (silent : ∀ entry ∈ news, entry.Silent place id)
    (polls : Polls changed.frames id → Polls view.frames id)
    (drives : Drives view.frames id → Drives changed.frames id)
    (keeps : ∀ waker, view.Keeps id waker →
      changed.Keeps id waker ∨ .woke place id waker ∈ news) :
    changed.Serves place id := by
  intro waits waker asked
  have waited : view.Waits place id := by
    refine waits.imp polls fun idle => ⟨fun driven => idle.1 (drives driven), ?_⟩
    rw [← lastOutcome?_append silent, ← history]
    exact idle.2
  rw [history, lastWaker?_append silent] at asked
  exact (serves waited waker asked).keep history (fun entry member => (silent entry member).1)
    (keeps waker)

/-! ## The end of a poll -/

/-- What the end of a poll leaves of a computation: all but the waker of a driver that has lost its
name. -/
structure Remains (view : View) (driver : Driver) (left kept : ScriptCell) : Prop where
  nextId : kept.nextId = left.nextId
  phase : kept.phase = left.phase
  woken : kept.woken = left.woken
  waiting : kept.waiting.Sublist left.waiting
  lookup : ∀ id, (id = driver.id → view.Owns driver) →
    kept.waiting.lookup id = left.waiting.lookup id
  owned : ∀ waker, kept.waiting.lookup driver.id = some waker → view.Owns driver

theorem remains_finish {view : View} {left : ScriptCell} (found : view.cell = some left)
    (driver : Driver) (outcome : Outcome) :
    ∃ kept, (view.finish driver outcome).cell = some kept ∧ view.Remains driver left kept := by
  rcases view.cell_finish driver outcome found with ⟨owns, out⟩ | ⟨lost, out⟩
  · exact ⟨left, out, rfl, rfl, rfl, .refl _, fun _ _ => rfl, fun _ _ => owns⟩
  · refine ⟨_, out, rfl, rfl, rfl, List.filter_sublist, fun id owned => ?_, fun waker held => ?_⟩
    · exact (Cell.lookup_unregister left driver.id id).trans (if_neg fun same => lost (owned same))
    · rw [Cell.lookup_unregister, if_pos rfl] at held
      cases held

/-- The poll of a driver is over but for its answer: nobody drives the computation any more, which was
left in another state and with more to notice. -/
structure Leaving (place : Nat) (view : View) (driver : Driver) (work : Work)
    (cell left : ScriptCell) (news : List Entry) (changed : View) : Prop where
  here : driver.cell = place
  top : view.frames = [⟨driver, work⟩]
  found : view.cell = some cell
  out : changed.cell = some left
  frames : changed.frames = []
  named : changed.named = view.named
  nextId : left.nextId = cell.nextId
  history : changed.history = news ++ view.history
  /-- Nobody is asked or answered meanwhile. -/
  silent : ∀ id, ∀ entry ∈ news, entry.Silent place id

namespace Leaving

variable {place id : Nat} {view changed : View} {driver : Driver} {work : Work}
  {cell left : ScriptCell} {news : List Entry} {outcome : Outcome}

section

variable (leaving : Leaving place view driver work cell left news changed)

include leaving

theorem mem_frames : ⟨driver, work⟩ ∈ view.frames := by simp [leaving.top]

theorem drives_iff : Drives view.frames id ↔ driver.id = id := by simp [Drives, leaving.top]

theorem frames_finish : (changed.finish driver outcome).frames = [] :=
  (changed.frames_finish driver outcome).trans leaving.frames

theorem history_finish : (changed.finish driver outcome).history =
    (.answered place driver.id outcome :: news) ++ view.history := by
  rw [View.history_finish, leaving.history, leaving.here, List.cons_append]

private theorem lastWaker?_finish : lastWaker? place id (changed.finish driver outcome).history =
    lastWaker? place id view.history := by
  rw [leaving.history_finish, List.cons_append]
  exact lastWaker?_append (leaving.silent id)

/-- A driver has its name as long as some name stands for its subscription. -/
theorem owns (sound : Sound place view) {name : String} {subscription : Subscription}
    (stands : view.named name = some subscription) (same : subscription.id = driver.id) :
    changed.Owns driver := by
  have owner := (sound.fits name subscription stands).owner _ leaving.mem_frames same.symm
  exact ⟨subscription, by rw [leaving.named, owner, stands], same⟩

private theorem serves_other (serves : view.Serves place id) (different : id ≠ driver.id)
    (keeps : ∀ waker, view.Keeps id waker →
      (changed.finish driver outcome).Keeps id waker ∨ .woke place id waker ∈ news) :
    (changed.finish driver outcome).Serves place id := by
  refine serves.keep _ leaving.history_finish ?_ ?_ ?_ fun waker held =>
    (keeps waker held).imp_right (List.mem_cons_of_mem _)
  · have silent : (Entry.answered place driver.id outcome).Silent place id :=
      ⟨rfl, if_neg fun equal => different equal.2.symm⟩
    exact List.forall_mem_cons.mpr ⟨silent, leaving.silent id⟩
  · rintro ⟨_, member, -⟩
    rw [leaving.frames_finish] at member
    cases member
  · exact fun driven => absurd (leaving.drives_iff.mp driven).symm different

/-- The driver waits if its poll comes to nothing, and then its waker was left with the computation
when the poll came to it. -/
theorem serves_driver (serves : view.Serves place driver.id)
    (asked : lastWaker? place driver.id view.history = some driver.waker)
    (underway : outcome = .pending → work.Underway)
    (keeps : outcome = .pending → view.Keeps driver.id driver.waker →
      (changed.finish driver outcome).Keeps driver.id driver.waker ∨
        .woke place driver.id driver.waker ∈ news) :
    (changed.finish driver outcome).Serves place driver.id := by
  rintro (⟨_, member, -⟩ | ⟨-, last⟩) waker latest
  · rw [leaving.frames_finish] at member
    cases member
  · have pending : outcome = .pending := by
      simpa [leaving.history_finish, lastOutcome?, Entry.outcome?] using last
    have waits : view.Waits place driver.id :=
      .inl ⟨_, leaving.mem_frames, rfl, underway pending⟩
    rw [leaving.lastWaker?_finish, asked, Option.some.injEq] at latest
    rw [← latest]
    refine (serves waits driver.waker asked).keep leaving.history_finish ?_ fun held =>
      (keeps pending held).imp_right (List.mem_cons_of_mem _)
    exact List.forall_mem_cons.mpr ⟨rfl, fun entry member => (leaving.silent _ entry member).1⟩

end

/-! There are four ways to leave a computation: it is over, it panicked, it is put back, or it is put
back and everybody is woken because its waker was used in the meantime. -/

section Ways

variable (here : driver.cell = place) (top : view.frames = [⟨driver, work⟩])
  (found : view.cell = some cell)

include here top found

theorem resolved (outcome : Option String) :
    Leaving place view driver work cell ((cell.settle outcome).unregister driver.id)
      (wakesOf place cell.waiting)
      ((({ view with frames := [] }.noteWakes place).modify (·.settle outcome)).modify
        (·.unregister driver.id)) := by
  have woken : ({ view with frames := [] }.noteWakes place).cell = some cell := found
  exact ⟨here, top, found, cell_modify (cell_modify woken _) _, rfl, rfl, rfl,
    history_noteWakes found place, fun _ _ => silent_of_mem_wakesOf⟩

theorem abandoned :
    Leaving place view driver work cell (cell.settle none) (wakesOf place cell.waiting)
      (({ view with frames := [] }.noteWakes place).modify (·.settle none)) := by
  have woken : ({ view with frames := [] }.noteWakes place).cell = some cell := found
  exact ⟨here, top, found, cell_modify woken _, rfl, rfl, rfl, history_noteWakes found place,
    fun _ _ => silent_of_mem_wakesOf⟩

theorem suspended (rest : Future) :
    Leaving place view driver work cell (cell.park rest) []
      ({ view with frames := [] }.modify (·.park rest)) := by
  have framed : { view with frames := [] }.cell = some cell := found
  exact ⟨here, top, found, cell_modify framed _, rfl, rfl, rfl, rfl, by simp⟩

theorem suspended_woken (rest : Future) :
    Leaving place view driver work cell ((cell.park rest).register driver.id driver.waker).notify
      (wakesOf place ((cell.park rest).register driver.id driver.waker).waiting)
      ((({ view with frames := [] }.modify (·.park rest)).modify
        (·.register driver.id driver.waker)).notify place) := by
  have framed : { view with frames := [] }.cell = some cell := found
  have again := cell_modify (cell_modify framed (·.park rest)) (·.register driver.id driver.waker)
  rw [notify_of_found again]
  exact ⟨here, top, found, rfl, rfl, rfl, rfl, rfl, fun _ _ => silent_of_mem_wakesOf⟩

end Ways

end Leaving

/-! ## Every change -/

namespace Served

variable {place : Nat} {view : View}

/-- A subscription loses its name, and its waker if it is let go of. -/
theorem drop (served : Served place view) (sound : Sound place view) (name : String) :
    Served place (view.drop name) := by
  unfold View.drop
  cases held : view.named name with
  | none => exact served
  | some subscription =>
      constructor
      · intro left out id beyond
        obtain ⟨cell, found, rfl⟩ := Option.map_eq_some_iff.mp out
        exact served.counted cell found id beyond
      · exact served.driver_asked
      · intro other second named
        rcases named_of_assign named with ⟨-, ⟨⟩⟩ | ⟨apart, kept⟩
        have differs : second.id ≠ subscription.id := fun same =>
          apart (sound.distinct other name second subscription kept held same)
        refine (served.serves other second kept).keep [] rfl (List.forall_mem_nil _) id id ?_
        rintro waker ⟨cell, found, registered⟩
        refine .inl ⟨_, cell_modify found (·.unregister subscription.id), ?_⟩
        rw [Cell.lookup_unregister, if_neg differs, registered]
      · intro left out calm waits
        obtain ⟨cell, found, rfl⟩ := Option.map_eq_some_iff.mp out
        refine served.drained cell found calm fun nobody => waits ?_
        simp [Cell.unregister, nobody]
      · intro left out going
        obtain ⟨cell, found, rfl⟩ := Option.map_eq_some_iff.mp out
        exact served.noticed cell found going

private theorem create {phase : Phase Factory Future String} (sound : Sound place view)
    (missing : view.cell = none) (fresh : ∀ task, phase ≠ .parked task) :
    Served place { view with cell := some (.ofPhase phase) } := by
  obtain ⟨unnamed, quiet, silent⟩ := sound.blank missing
  constructor
  · rintro cell ⟨⟩ id -
    refine List.findSome?_eq_none_iff.mpr fun entry member => ?_
    rw [silent entry member]
    rfl
  · simp [quiet]
  · simp [unnamed]
  · rintro cell ⟨⟩ _ waits
    exact absurd rfl waits
  · rintro cell ⟨⟩ (⟨task, parked⟩ | ⟨id, _, member, -⟩)
    · exact absurd parked (fresh task)
    · rw [quiet] at member
      cases member

private theorem subscribe (served : Served place view) {cell : ScriptCell}
    (found : view.cell = some cell) (name : String) :
    Served place
      ((view.modify Cell.subscribe).assign name (some ⟨place, cell.nextId, false, false⟩)) := by
  have out : ((view.modify Cell.subscribe).assign name
      (some ⟨place, cell.nextId, false, false⟩)).cell = some cell.subscribe :=
    cell_modify found Cell.subscribe
  constructor
  · intro left left_out id beyond
    cases out.symm.trans left_out
    exact served.counted cell found id (Nat.le_of_succ_le beyond)
  · exact served.driver_asked
  · intro other second named
    rcases named_of_assign named with ⟨-, ⟨⟩⟩ | ⟨-, kept⟩
    · intro _ waker asked
      cases (served.counted cell found _ (Nat.le_refl _)).symm.trans asked
    · refine (served.serves other second kept).keep [] rfl (List.forall_mem_nil _) id id ?_
      rintro waker ⟨earlier, earlier_found, registered⟩
      cases found.symm.trans earlier_found
      exact .inl ⟨_, out, registered⟩
  · intro left left_out
    cases out.symm.trans left_out
    exact served.drained cell found
  · intro left left_out
    cases out.symm.trans left_out
    exact served.noticed cell found

/-- The waker of the computation is used. -/
theorem notify (served : Served place view) (sound : Sound place view) :
    Served place ((view.note (.notified place)).notify place) := by
  cases found : view.cell with
  | none =>
      obtain ⟨unnamed, quiet, -⟩ := sound.blank found
      have missing : ((view.note (.notified place)).notify place).cell = none := by
        simp [View.notify, View.noteWakes, View.modify, View.note, found]
      constructor
      · exact fun _ out => by cases missing.symm.trans out
      · intro frame member
        have nobody : frame ∈ view.frames := member
        rw [quiet] at nobody
        cases nobody
      · exact fun name _ named => by cases (unnamed name).symm.trans named
      · exact fun _ out => by cases missing.symm.trans out
      · exact fun _ out => by cases missing.symm.trans out
  | some cell =>
      have noted : (view.note (.notified place)).cell = some cell := found
      rw [notify_of_found noted]
      have silent : ∀ id, ∀ entry ∈ wakesOf place cell.waiting ++ [.notified place],
          entry.Silent place id := by
        intro id entry member
        rcases List.mem_append.mp member with woke | last
        · exact silent_of_mem_wakesOf woke
        · rw [List.mem_singleton.mp last]
          exact ⟨rfl, rfl⟩
      have history : wakesOf place cell.waiting ++ (view.note (.notified place)).history =
          (wakesOf place cell.waiting ++ [.notified place]) ++ view.history := by
        simp [View.note]
      rw [history]
      constructor
      · rintro left ⟨⟩ id beyond
        rw [lastWaker?_append (silent id)]
        exact served.counted cell found id beyond
      · intro frame member
        rw [lastWaker?_append (silent _)]
        exact served.driver_asked frame member
      · intro name subscription named
        refine (served.serves name subscription named).keep _ rfl (silent _) id id ?_
        rintro waker ⟨other, other_found, registered⟩
        cases found.symm.trans other_found
        exact .inr (List.mem_append_left _ (mem_wakesOf registered))
      · rintro left ⟨⟩ calm waits
        exact absurd rfl waits
      · rintro left ⟨⟩ going
        refine iff_of_true rfl ?_
        simp only [List.append_assoc, sincePolled_wakesOf]
        simp [sincePolled, Entry.polls]

/-- What is left of a script does not matter to those who wait. -/
theorem reframe (served : Served place view) {driver : Driver} {work : Work}
    {below : List Frame} (top : view.frames = ⟨driver, work⟩ :: below) (later : Work)
    (same : later.Underway ↔ work.Underway) :
    Served place { view with frames := ⟨driver, later⟩ :: below } := by
  have polls : ∀ id, Polls (⟨driver, later⟩ :: below) id ↔ Polls view.frames id := by
    intro id
    simp [Polls, top, same]
  have drives : ∀ id, Drives (⟨driver, later⟩ :: below) id ↔ Drives view.frames id := by
    intro id
    simp [Drives, top]
  constructor
  · exact served.counted
  · have asked := served.driver_asked
    simpa [top] using asked
  · intro name subscription named
    refine (served.serves name subscription named).keep [] rfl (List.forall_mem_nil _)
      (polls _).mp (drives _).mpr ?_
    exact fun waker kept => .inl kept
  · exact served.drained
  · intro cell found going
    refine served.noticed cell found (going.imp_right ?_)
    rintro ⟨id, polled⟩
    exact ⟨id, (polls id).mp polled⟩

/-- A poll that does not drive is answered at once. -/
theorem answer (served : Served place view) (sound : Sound place view) {driver : Driver}
    {cell : ScriptCell} {change : ScriptCell → ScriptCell} {outcome : Outcome}
    (here : driver.cell = place) (ready : view.Ready driver) (found : view.cell = some cell)
    (phase : (change cell).phase = cell.phase) (woken : (change cell).woken = cell.woken)
    (nextId : (change cell).nextId = cell.nextId)
    (others : ∀ id, id ≠ driver.id →
      (change cell).waiting.lookup id = cell.waiting.lookup id)
    (fewer : cell.phase ≠ .driven → cell.waiting = [] → (change cell).waiting = [])
    (told : outcome = .pending → (change cell).waiting.lookup driver.id = some driver.waker) :
    Served place (((view.ask driver).modify change).finish driver outcome) := by
  subst here
  have stands : ((view.ask driver).modify change).Ready driver := ready
  rw [finish_of_ready stands]
  have out : ((view.ask driver).modify change).cell = some (change cell) :=
    cell_modify found change
  have fits := sound.fits _ _ ready
  have idle : ¬Drives view.frames driver.id := fun driven => by
    obtain ⟨frame, member, same⟩ := driven
    cases fits.busy.mpr ⟨frame, member, same⟩
  have silent : ∀ id, id ≠ driver.id →
      ∀ entry ∈ [.answered driver.cell driver.id outcome, .asked driver.cell driver.id driver.waker],
        Entry.Silent driver.cell id entry := by
    intro id apart
    simp [Entry.Silent, Entry.waker?, Entry.outcome?, apart.symm]
  constructor
  · intro left left_out id beyond
    cases out.symm.trans left_out
    have counted := fits.counted cell found
    have apart : id ≠ driver.id := by
      rintro rfl
      exact absurd (Nat.lt_of_lt_of_le counted (nextId ▸ beyond)) (Nat.lt_irrefl _)
    exact (lastWaker?_append (silent id apart)).trans (served.counted cell found id (nextId ▸ beyond))
  · intro frame member
    have apart : frame.driver.id ≠ driver.id := fun same => idle ⟨frame, member, same⟩
    exact (lastWaker?_append (silent _ apart)).trans (served.driver_asked frame member)
  · intro name subscription named
    have told_other : ∀ id, id ≠ driver.id → view.Serves driver.cell id →
        View.Serves driver.cell ((((view.ask driver).modify change).note
          (.answered driver.cell driver.id outcome)).assign driver.name
            (some (Subscription.after ⟨driver.cell, driver.id, false, false⟩ outcome))) id := by
      intro id apart serves
      refine serves.keep _ rfl (silent id apart) (fun polled => polled) (fun driven => driven) ?_
      rintro waker ⟨other, other_found, registered⟩
      cases found.symm.trans other_found
      exact .inl ⟨change cell, out, (others id apart).trans registered⟩
    rcases named_of_assign named with ⟨rfl, ⟨⟩⟩ | ⟨apart, kept⟩
    · rw [Subscription.after_id]
      rintro (⟨frame, member, same, -⟩ | ⟨-, last⟩) waker asked
      · exact absurd ⟨frame, member, same⟩ idle
      · have pending : outcome = .pending := by
          simpa [lastOutcome?, assign, View.note, Entry.outcome?] using last
        have same_waker : waker = driver.waker := by
          simpa [lastWaker?, assign, View.note, View.modify, ask, Entry.waker?, eq_comm] using asked
        rw [same_waker]
        exact .inl ⟨change cell, out, told pending⟩
    · refine told_other _ (fun same => apart ?_) (served.serves name subscription kept)
      exact sound.distinct name driver.name subscription _ kept ready same
  · intro left left_out calm waits
    cases out.symm.trans left_out
    rw [phase] at calm ⊢
    rw [woken]
    exact served.drained cell found calm fun nobody => waits (fewer calm nobody)
  · intro left left_out going
    cases out.symm.trans left_out
    rw [phase] at going
    rw [woken, served.noticed cell found going]
    simp [sincePolled, assign, View.note, View.modify, ask, Entry.polls]

/-- A driver that comes to the computation leaves its waker with it. -/
theorem enter (served : Served place view) {driver : Driver} {future : Future}
    {cell checked : ScriptCell} {changed : View} {news : List Entry}
    (found : view.cell = some cell)
    (out : changed.cell = some (checked.prepare driver.id driver.waker))
    (phase : checked.phase = .driven) (waiting : checked.waiting = cell.waiting)
    (nextId : checked.nextId = cell.nextId) (counted : driver.id < cell.nextId)
    (history : changed.history = [.polled place future.count] ++ (news ++ view.history))
    (silent : ∀ id, id ≠ driver.id → ∀ entry ∈ news, entry.Silent place id)
    (asked : lastWaker? place driver.id (news ++ view.history) = some driver.waker)
    (frames : changed.frames = [⟨driver, Machine.pollWork future⟩])
    (alone : ∀ frame ∈ view.frames, frame.driver.id = driver.id)
    (named : ∀ name subscription, changed.named name = some subscription →
      ∃ earlier, view.named name = some earlier ∧ earlier.id = subscription.id) :
    Served place changed := by
  have silent_polled : ∀ id, ∀ entry ∈ [Entry.polled place future.count],
      entry.Silent place id := by
    simp [Entry.Silent, Entry.waker?, Entry.outcome?]
  have last_driver : lastWaker? place driver.id changed.history = some driver.waker := by
    rw [history, lastWaker?_append (silent_polled _), asked]
  constructor
  · intro left left_out id beyond
    cases out.symm.trans left_out
    have beyond_cell : cell.nextId ≤ id := nextId ▸ beyond
    have apart : id ≠ driver.id := Nat.ne_of_gt (Nat.lt_of_lt_of_le counted beyond_cell)
    rw [history, lastWaker?_append (silent_polled id), lastWaker?_append (silent id apart)]
    exact served.counted cell found id beyond_cell
  · intro frame member
    rw [frames, List.mem_singleton] at member
    rw [member, last_driver]
  · intro name subscription held
    obtain ⟨earlier, earlier_held, same_id⟩ := named name subscription held
    rw [← same_id]
    by_cases same : earlier.id = driver.id
    · intro _ waker last
      rw [same, last_driver, Option.some.injEq] at last
      refine .inl ⟨_, out, ?_⟩
      rw [same, ← last]
      exact (Cell.lookup_register checked driver.id driver.id driver.waker).trans (if_pos rfl)
    · refine (served.serves name earlier earlier_held).keep ([.polled place future.count] ++ news)
        (history.trans (List.append_assoc _ _ _).symm) ?_ ?_ ?_ ?_
      · intro entry member
        rcases List.mem_append.mp member with first | later
        · exact silent_polled _ entry first
        · exact silent _ same entry later
      · rintro ⟨frame, member, frame_id, -⟩
        rw [frames, List.mem_singleton] at member
        exact absurd (member ▸ frame_id).symm same
      · rintro ⟨frame, member, frame_id⟩
        exact absurd (frame_id.symm.trans (alone frame member)) same
      · rintro waker ⟨other, other_found, registered⟩
        cases found.symm.trans other_found
        refine .inl ⟨_, out, (Cell.lookup_register checked driver.id earlier.id _).trans ?_⟩
        rw [if_neg same, waiting, registered]
  · intro left left_out calm
    cases out.symm.trans left_out
    exact absurd phase calm
  · intro left left_out _
    cases out.symm.trans left_out
    refine iff_of_false (by rintro ⟨⟩) ?_
    simp [history, sincePolled, Entry.polls]

/-- The factory of a computation is asked for it. -/
theorem started (served : Served place view) (sound : Sound place view) {driver : Driver}
    {cell : ScriptCell} {factory : Factory} (here : driver.cell = place)
    (ready : view.Ready driver) (found : view.cell = some cell)
    (phase : cell.phase = .idle factory) :
    Served place (((view.ask driver).checkOut.note (.started driver.cell factory.announced)).push
      driver (.starting factory.operations factory.panics factory.future)) := by
  subst here
  have quiet : view.frames = [] := sound.calm cell found (by simp [phase])
  have counted := (sound.fits _ _ ready).counted cell found
  have silent : ∀ id, id ≠ driver.id →
      ∀ entry ∈ [.started driver.cell factory.announced, .asked driver.cell driver.id driver.waker],
        Entry.Silent driver.cell id entry := by
    intro id apart
    simp [Entry.Silent, Entry.waker?, Entry.outcome?, apart.symm]
  have starts : ∀ id, ¬Polls ((⟨driver, .starting factory.operations factory.panics
      factory.future⟩ : Frame) :: view.frames) id := by
    simp [Polls, quiet, Work.Underway]
  have out : (((view.ask driver).checkOut.note (.started driver.cell factory.announced)).push
      driver (.starting factory.operations factory.panics factory.future)).cell =
        some { cell with phase := .driven } := cell_checkOut found
  constructor
  · intro left left_out id beyond
    cases out.symm.trans left_out
    have apart : id ≠ driver.id := Nat.ne_of_gt (Nat.lt_of_lt_of_le counted beyond)
    exact (lastWaker?_append (silent id apart)).trans (served.counted cell found id beyond)
  · intro frame member
    have only : frame = ⟨driver, .starting factory.operations factory.panics factory.future⟩ := by
      simpa [View.push, assign, View.note, checkOut, View.modify, ask, quiet] using member
    simp [only, lastWaker?, View.push, assign, View.note, checkOut, View.modify, ask, Entry.waker?]
  · intro name subscription named
    rcases named_of_assign named with ⟨rfl, held⟩ | ⟨apart, kept⟩
    · have stands : ((view.ask driver).checkOut.note
          (.started driver.cell factory.announced)).named driver.name =
            some ⟨driver.cell, driver.id, false, false⟩ := ready
      rw [stands, Option.map_some, Option.some.injEq] at held
      subst held
      rintro (polled | ⟨idle, -⟩)
      · exact absurd polled (starts _)
      · exact absurd ⟨_, List.mem_cons_self, rfl⟩ idle
    · have differs : subscription.id ≠ driver.id := fun same =>
        apart (sound.distinct name driver.name subscription _ kept ready same)
      refine (served.serves name subscription kept).keep _ rfl (silent _ differs)
        (fun polled => absurd polled (starts _)) (fun driven => ?_) ?_
      · rw [quiet] at driven
        obtain ⟨_, member, -⟩ := driven
        cases member
      · rintro waker ⟨other, other_found, registered⟩
        cases found.symm.trans other_found
        exact .inl ⟨_, out, registered⟩
  · intro left left_out calm
    cases out.symm.trans left_out
    exact absurd rfl calm
  · intro left left_out going
    cases out.symm.trans left_out
    rcases going with ⟨task, parked⟩ | ⟨id, polled⟩
    · cases parked
    · exact absurd polled (starts id)

/-- A computation that was put back is polled again. -/
theorem resumed (served : Served place view) (sound : Sound place view) {driver : Driver}
    {cell : ScriptCell} {future : Future} (here : driver.cell = place) (ready : view.Ready driver)
    (found : view.cell = some cell) (phase : cell.phase = .parked future) :
    Served place (((view.ask driver).checkOut.enter driver future).push driver
      (Machine.pollWork future)) := by
  subst here
  have quiet : view.frames = [] := sound.calm cell found (by simp [phase])
  have out : (((view.ask driver).checkOut.enter driver future).push driver
      (Machine.pollWork future)).cell =
        some (Cell.prepare { cell with phase := .driven } driver.id driver.waker) :=
    cell_enter (cell_checkOut found) driver future
  have history : (((view.ask driver).checkOut.enter driver future).push driver
      (Machine.pollWork future)).history = [.polled driver.cell future.count] ++
        ([.asked driver.cell driver.id driver.waker] ++ view.history) := rfl
  refine served.enter found out rfl rfl rfl ((sound.fits _ _ ready).counted cell found) history
    ?_ ?_ ?_ ?_ ?_
  · intro id apart
    simp [Entry.Silent, Entry.waker?, Entry.outcome?, apart.symm]
  · simp [lastWaker?, Entry.waker?]
  · simp [View.push, assign, View.enter, View.note, checkOut, View.modify, ask, quiet]
  · simp [quiet]
  · intro name subscription named
    rcases named_of_assign named with ⟨rfl, held⟩ | ⟨-, kept⟩
    · have stands : ((view.ask driver).checkOut.enter driver future).named driver.name =
          some ⟨driver.cell, driver.id, false, false⟩ := ready
      rw [stands, Option.map_some, Option.some.injEq] at held
      exact ⟨_, ready, by rw [← held]⟩
    · exact ⟨subscription, kept, rfl⟩

/-- The poll of a driver ends.  The wakers that are not left with the computation were used. -/
theorem leave {driver : Driver} {work : Work} {cell left : ScriptCell} {news : List Entry}
    {changed : View} {outcome : Outcome} (served : Served place view) (sound : Sound place view)
    (leaving : Leaving place view driver work cell left news changed)
    (underway : outcome = .pending → work.Underway)
    (told : ∀ id waker, (id = driver.id → outcome = .pending ∧ waker = driver.waker) →
      cell.waiting.lookup id = some waker →
      left.waiting.lookup id = some waker ∨ .woke place id waker ∈ news)
    (drained : left.waiting ≠ [] → (∃ task, left.phase = .parked task) ∧ left.woken = false)
    (noticed : (∃ task, left.phase = .parked task) →
      (left.woken = true ↔ .notified place ∈ sincePolled place changed.history)) :
    Served place (changed.finish driver outcome) := by
  obtain ⟨kept, out, remains⟩ := remains_finish leaving.out driver outcome
  have keeps : ∀ name subscription waker, view.named name = some subscription →
      (subscription.id = driver.id → outcome = .pending ∧ waker = driver.waker) →
      view.Keeps subscription.id waker →
      (changed.finish driver outcome).Keeps subscription.id waker ∨
        .woke place subscription.id waker ∈ news := by
    rintro name subscription waker stands driving ⟨other, found, registered⟩
    cases leaving.found.symm.trans found
    refine (told _ waker driving registered).imp_left fun still => ⟨kept, out, ?_⟩
    rw [remains.lookup _ (leaving.owns sound stands), still]
  constructor
  · intro other found id beyond
    cases out.symm.trans found
    rw [leaving.lastWaker?_finish]
    exact served.counted cell leaving.found id (by rwa [← leaving.nextId, ← remains.nextId])
  · simp [leaving.frames_finish]
  · intro name subscription held
    obtain ⟨earlier, stands, same_id, -⟩ := changed.id_named_finish driver outcome held
    rw [leaving.named] at stands
    rw [← same_id]
    have serves := served.serves name earlier stands
    by_cases same : earlier.id = driver.id
    · rw [same] at serves ⊢
      have asked := served.driver_asked _ leaving.mem_frames
      refine leaving.serves_driver serves asked underway fun pending => ?_
      exact same ▸ keeps name earlier driver.waker stands fun _ => ⟨pending, rfl⟩
    · exact leaving.serves_other serves same fun waker =>
        keeps name earlier waker stands fun equal => absurd equal same
  · intro other found calm waits
    cases out.symm.trans found
    rw [remains.phase, remains.woken]
    exact drained fun nobody => waits (List.sublist_nil.mp (nobody ▸ remains.waiting))
  · intro other found going
    cases out.symm.trans found
    rcases going with parked | ⟨id, _, member, -⟩
    · rw [remains.phase] at parked
      rw [remains.woken, noticed parked, leaving.history_finish, leaving.history]
      simp [sincePolled, Entry.polls]
    · rw [leaving.frames_finish] at member
      cases member

/-- The poll of a driver ends the computation, and everybody was woken. -/
theorem leave_settled {driver : Driver} {work : Work} {cell left : ScriptCell} {changed : View}
    {outcome : Outcome} (served : Served place view) (sound : Sound place view)
    (leaving : Leaving place view driver work cell left (wakesOf place cell.waiting) changed)
    (ended : ∀ task, left.phase ≠ .parked task) (nobody : left.waiting = [])
    (ends : outcome ≠ .pending) : Served place (changed.finish driver outcome) := by
  refine served.leave sound leaving (fun pending => absurd pending ends) ?_
    (fun waits => absurd nobody waits) ?_
  · exact fun id waker _ registered => .inr (mem_wakesOf registered)
  · rintro ⟨task, parked⟩
    exact absurd parked (ended task)

theorem touch {operation : Operation} {changed : View} (served : Served place view)
    (sound : Sound place view) (touch : Touch operation place view changed) :
    Served place changed := by
  cases touch with
  | created missing makes => exact create sound missing (Operation.phase?_fresh makes).2
  | subscribed found unnamed => exact served.subscribe found _
  | dropped named calm => exact served.drop sound _
  | disowned named busy =>
      refine { served with serves := fun other second held => ?_ }
      rcases named_of_assign held with ⟨-, ⟨⟩⟩ | ⟨-, kept⟩
      exact served.serves other second kept
  | notified => exact served.notify sound
  | @waited driver cell here polls ready found phase =>
      refine served.answer sound here ready found rfl rfl rfl ?_ ?_ ?_
      · exact fun id apart => (Cell.lookup_register cell _ _ _).trans (if_neg apart)
      · exact fun calm => absurd phase calm
      · exact fun _ => (Cell.lookup_register cell _ _ _).trans (if_pos rfl)
  | @replayed driver cell outcome here polls ready found phase =>
      refine served.answer sound here ready found rfl rfl rfl ?_ ?_ (by simp)
      · exact fun id apart => (Cell.lookup_unregister cell _ _).trans (if_neg apart)
      · intro _ nobody
        simp [Cell.unregister, nobody]
  | started here polls ready found phase => exact served.started sound here ready found phase
  | resumed here polls ready found phase => exact served.resumed sound here ready found phase

theorem drive {verdict : Option (Nat × Outcome)} {changed : View} (served : Served place view)
    (sound : Sound place view) (drive : Drive verdict place view changed) :
    Served place changed := by
  cases drive with
  | @entered driver future below here goes top =>
      subst here
      obtain ⟨rfl, cell, found, phase⟩ := sound.found_of_frame top
      have out : ({ view with frames := [⟨driver, Machine.pollWork future⟩] }.enter driver
          future).cell = some (cell.prepare driver.id driver.waker) := cell_enter found driver future
      have history : ({ view with frames := [⟨driver, Machine.pollWork future⟩] }.enter driver
          future).history = [.polled driver.cell future.count] ++ ([] ++ view.history) := rfl
      have driver_here : ⟨driver, .starting [] none future⟩ ∈ view.frames := by simp [top]
      refine served.enter found out phase rfl rfl (sound.frame_counted cell found _ driver_here)
        history (by simp) (served.driver_asked _ driver_here) rfl ?_ ?_
      · simp [top]
      · exact fun name subscription named => ⟨subscription, named, rfl⟩
  | moved here goes played top =>
      refine served.reframe top _ ?_
      cases played <;> exact .rfl
  | @woken driver action actions rest below here goes top =>
      have moved := served.reframe top (.polling actions rest) .rfl
      exact moved.notify (sound.reframe top _)
  | @resolved driver actions rest below outcome here ends top =>
      obtain ⟨rfl, cell, found, -⟩ := sound.found_of_frame top
      exact served.leave_settled sound (.resolved here top found outcome)
        (Cell.settledPhase_ne_parked outcome) rfl nofun
  | @abandoned driver work below message here ends top =>
      obtain ⟨rfl, cell, found, -⟩ := sound.found_of_frame top
      exact served.leave_settled sound (.abandoned here top found)
        (Cell.settledPhase_ne_parked none) rfl nofun
  | @suspended driver actions rest below cell here goes found top =>
      obtain ⟨rfl, -⟩ := sound.found_of_frame top
      have noticed := served.noticed cell found (.inr ⟨driver.id, ⟨driver, .polling actions rest⟩, by
        simp [top], rfl, trivial⟩)
      unfold suspend
      cases woken : cell.woken with
      | false =>
          rw [woken] at noticed
          refine served.leave sound (.suspended here top found rest) (fun _ => trivial) ?_ ?_ ?_
          · exact fun id waker _ registered => .inl registered
          · exact fun _ => ⟨⟨rest, rfl⟩, woken⟩
          · exact fun _ => (iff_of_eq (by rw [← woken]; rfl)).trans noticed
      | true =>
          rw [woken] at noticed
          subst here
          have leaving := Leaving.suspended_woken rfl top found rest
          refine served.leave sound leaving (fun _ => trivial) ?_ ?_ ?_
          · intro id waker driving registered
            refine .inr (mem_wakesOf ?_)
            rw [Cell.lookup_register]
            split
            · next same => rw [(driving same).2]
            · exact registered
          · exact fun waits => absurd rfl waits
          · intro _
            rw [if_pos rfl, leaving.history, sincePolled_wakesOf]
            exact iff_of_true rfl (noticed.mp rfl)

theorem initial (place : Nat) : Served place (Machine.initial.view place) where
  counted _ found := by cases found
  driver_asked _ member := by cases member
  serves _ _ named := by cases named
  drained _ found := by cases found
  noticed _ found := by cases found

theorem kept (place : Nat) : Kept place (Served place) where
  touch sound served touched := served.touch sound touched
  drive sound served driven := served.drive sound driven

end Served

end View

namespace Machine

open View

variable {machine : Machine}

/-- What concerns another computation tells nothing of the polls of a subscription. -/
theorem silent_of_place? {place : Nat} {entry : Entry} (other : entry.place? ≠ some place)
    (id : Nat) : entry.Silent place id := by
  cases entry <;> simp_all [Entry.Silent, Entry.waker?, Entry.outcome?, Entry.place?]

private theorem findSome?_filter {α : Type} {place : Nat} {reads : Entry → Option α}
    (reads_none : ∀ entry, entry.place? ≠ some place → reads entry = none) (journal : List Entry) :
    (journal.filter (·.place? = some place)).findSome? reads = journal.findSome? reads := by
  induction journal with
  | nil => rfl
  | cons entry journal ih =>
      rw [List.filter_cons, List.findSome?_cons, ← ih]
      split
      · rfl
      · next other => rw [reads_none entry (by simpa using other)]

theorem lastWaker?_view (machine : Machine) (place id : Nat) :
    lastWaker? place id (machine.view place).history = lastWaker? place id machine.journal :=
  findSome?_filter (fun _ other => (silent_of_place? other id).1) machine.journal

private theorem lastOutcome?_view (machine : Machine) (place id : Nat) :
    lastOutcome? place id (machine.view place).history = lastOutcome? place id machine.journal :=
  findSome?_filter (fun _ other => (silent_of_place? other id).2) machine.journal

private theorem mem_sinceAsked_view (machine : Machine) {place id : Nat} {entry : Entry}
    (here : entry.place? = some place) :
    entry ∈ sinceAsked place id (machine.view place).history ↔
      entry ∈ sinceAsked place id machine.journal := by
  have same : (fun entry : Entry => !decide (entry.place? = some place) ||
      (entry.waker? place id).isNone) = fun entry => (entry.waker? place id).isNone := by
    funext entry
    by_cases other : entry.place? = some place
    · simp [other]
    · simp [other, (silent_of_place? other id).1]
  unfold sinceAsked view
  simp only [List.takeWhile_filter, same, List.mem_filter, here]
  simp

private theorem mem_sincePolled_view (machine : Machine) {place : Nat} {entry : Entry}
    (here : entry.place? = some place) :
    entry ∈ sincePolled place (machine.view place).history ↔
      entry ∈ sincePolled place machine.journal := by
  have same : (fun entry : Entry => !decide (entry.place? = some place) ||
      !entry.polls place) = fun entry => !entry.polls place := by
    funext entry
    cases entry <;> simp [Entry.place?, Entry.polls]
  unfold sincePolled view
  simp only [List.takeWhile_filter, same, List.mem_filter, here]
  simp

/-- No subscription waits in vain.  While nobody polls a computation, a subscription whose latest
poll came to nothing has left the waker of that poll with the computation, or that very waker was
used since the poll began; and it was used if the computation is over, or if the waker of the
computation was used since the computation was last polled. -/
theorem Reachable.never_stranded (reach : machine.Reachable) {place : Nat} {cell : ScriptCell}
    (found : machine.cell? place = some cell)
    (quiet : ∀ frame ∈ machine.frames, frame.driver.cell ≠ place) {name : String}
    {subscription : Subscription} (held : machine.subscriptions.lookup name = some subscription)
    (here : subscription.cell = place) {waker : Waker}
    (asked : lastWaker? place subscription.id machine.journal = some waker)
    (pending : lastOutcome? place subscription.id machine.journal = some .pending) :
    (cell.waiting.lookup subscription.id = some waker ∨
      .woke place subscription.id waker ∈ sinceAsked place subscription.id machine.journal) ∧
    (cell.stage = .resolved ∨ cell.stage = .completed ∨
        .notified place ∈ sincePolled place machine.journal →
      .woke place subscription.id waker ∈ sinceAsked place subscription.id machine.journal) := by
  have sound := reach.sound place
  have served := reach.invariant (Served.kept place) (Served.initial place)
  have viewed : (machine.view place).cell = some cell := found
  have idle : (machine.view place).frames = [] := by
    simpa [view, List.filter_eq_nil_iff] using quiet
  have named : (machine.view place).named name = some subscription := by
    simp [view, held, here]
  have waits : (machine.view place).Waits place subscription.id := by
    refine .inr ⟨?_, (lastOutcome?_view machine place _).trans pending⟩
    rintro ⟨frame, member, -⟩
    rw [idle] at member
    cases member
  have told := served.serves name subscription named waits waker
    ((lastWaker?_view machine place _).trans asked)
  rw [Told, mem_sinceAsked_view machine rfl] at told
  have registered_or_woken : cell.waiting.lookup subscription.id = some waker ∨
      .woke place subscription.id waker ∈ sinceAsked place subscription.id machine.journal := by
    refine told.imp_left ?_
    rintro ⟨other, other_found, registered⟩
    cases viewed.symm.trans other_found
    exact registered
  refine ⟨registered_or_woken, fun ended => registered_or_woken.resolve_left fun registered => ?_⟩
  -- A waker is only left with a computation that is parked and was not woken.
  have calm : cell.phase ≠ .driven := fun driven => by
    obtain ⟨frame, only⟩ := sound.driven cell viewed driven
    rw [idle] at only
    cases only
  have waiting : cell.waiting ≠ [] := fun nobody => by
    rw [nobody] at registered
    cases registered
  obtain ⟨⟨task, parked⟩, asleep⟩ := served.drained cell viewed calm waiting
  have notified := served.noticed cell viewed (.inl ⟨task, parked⟩)
  rw [mem_sincePolled_view machine rfl] at notified
  rcases ended with resolved | completed | woken
  · simp [Cell.stage, parked] at resolved
  · simp [Cell.stage, parked] at completed
  · rw [notified.mpr woken] at asleep
    cases asleep

/-- A computation keeps its waker, and the waker is used. -/
def keptWaker : List Operation :=
  [.create "r" [[.keep "k", .pending]], .subscribe "r" "s", .poll "s" (.named "w"), .wake "k"]

theorem driver_woken_by_kept_waker :
    .woke 0 0 (.named "w") ∈ sinceAsked 0 0 (initial.run keptWaker).journal := by
  obtain ⟨reach, idle⟩ := reachable_run .refl rfl keptWaker
  have found : (initial.run keptWaker).cell? 0 = some ⟨.parked ⟨1, []⟩, [], true, 1⟩ := by cbv
  have held : (initial.run keptWaker).subscriptions.lookup "s" = some ⟨0, 0, false, false⟩ := by
    cbv
  have asked : lastWaker? 0 0 (initial.run keptWaker).journal = some (.named "w") := by cbv
  have pending : lastOutcome? 0 0 (initial.run keptWaker).journal = some .pending := by cbv
  have since : sincePolled 0 (initial.run keptWaker).journal =
      [.woke 0 0 (.named "w"), .notified 0, .answered 0 0 .pending] := by cbv
  have notified : .notified 0 ∈ sincePolled 0 (initial.run keptWaker).journal := by simp [since]
  have quiet : ∀ frame ∈ (initial.run keptWaker).frames, frame.driver.cell ≠ 0 := by simp [idle]
  exact (reach.never_stranded found quiet held rfl asked pending).2 (.inr (.inr notified))

end Machine
end Replay
end LinkFacts
