import LinkFacts.Proofs.Replay.Waiting

/-!
# Interest in being woken

A subscription leaves its waker with a computation when its poll comes to the computation or comes to
nothing, and is woken at most once for each time.  `Part` says what a single change can mean for one
subscription: it is left aside, or its poll begins, comes to the computation, or ends.  What holds of
a subscription in every state, which is `Standing`, is checked for each of these four parts.
-/

namespace LinkFacts
namespace Replay

/-! ## What the journal tells -/

/-- A subscription is woken. -/
def Entry.wakes (place id : Nat) : Entry → Bool
  | .woke cell other _ => cell = place ∧ other = id
  | _ => false

/-- A subscription leaves its waker: its poll comes to the computation, or to nothing. -/
def Entry.leaves (place id : Nat) : Entry → Bool
  | .polled cell _ => cell = place
  | .answered cell other .pending => cell = place ∧ other = id
  | _ => false

/-- The waker of a computation is used. -/
def Entry.notifies (place : Nat) : Entry → Bool
  | .notified cell => cell = place
  | _ => false

@[simp]
theorem Entry.wakes_asked (place id cell other : Nat) (waker : Waker) :
    (Entry.asked cell other waker).wakes place id = false := rfl

@[simp]
theorem Entry.wakes_answered (place id cell other : Nat) (outcome : Outcome) :
    (Entry.answered cell other outcome).wakes place id = false := rfl

@[simp]
theorem Entry.leaves_asked (place id cell other : Nat) (waker : Waker) :
    (Entry.asked cell other waker).leaves place id = false := rfl

theorem Entry.silent_asked {place id other : Nat} (different : other ≠ id) (waker : Waker) :
    (Entry.asked place other waker).Silent place id :=
  ⟨if_neg fun same => different same.2, rfl⟩

theorem Entry.silent_answered {place id other : Nat} (different : other ≠ id) (outcome : Outcome) :
    (Entry.answered place other outcome).Silent place id :=
  ⟨rfl, if_neg fun same => different same.2⟩

/-- How often a subscription was woken. -/
def timesWoken (place id : Nat) (journal : List Entry) : Nat := journal.countP (·.wakes place id)

/-- How often a subscription was woken since it last began a poll. -/
def recentWakes (place id : Nat) (journal : List Entry) : Nat :=
  timesWoken place id (sinceAsked place id journal)

/-- The latest poll of a subscription from its end back to its beginning, once it has ended. -/
def latestPoll (place id : Nat) (journal : List Entry) : List Entry :=
  (sinceAsked place id journal).dropWhile fun entry => (entry.outcome? place id).isNone

/-- A subscription has left its waker since it last began a poll. -/
def left (place id : Nat) (journal : List Entry) : Bool :=
  (sinceAsked place id journal).any (·.leaves place id)

/-- A subscription has left its waker once more at the end of its latest poll: the poll drove the
computation and came to nothing, and the waker of the computation was used in the meantime. -/
def leftAgain (place id : Nat) (journal : List Entry) : Bool :=
  match latestPoll place id journal with
  | [] => false
  | ending :: during => ending.leaves place id && (sincePolled place during).any (·.notifies place)

/-- How often a subscription has left its waker since it last began a poll. -/
def registrations (place id : Nat) (journal : List Entry) : Nat :=
  (left place id journal).toNat + (leftAgain place id journal).toNat

section Journal

variable {place id : Nat} {entry : Entry} {news journal : List Entry} {waker : Waker}

theorem timesWoken_append (place id : Nat) (news journal : List Entry) :
    timesWoken place id (news ++ journal) = timesWoken place id news + timesWoken place id journal :=
  List.countP_append

private theorem sinceAsked_cons (unasked : entry.waker? place id = none) (journal : List Entry) :
    sinceAsked place id (entry :: journal) = entry :: sinceAsked place id journal :=
  List.takeWhile_cons_of_pos (by rw [unasked]; rfl)

theorem sinceAsked_begins (unasked : entry.waker? place id = none) (waker : Waker)
    (journal : List Entry) :
    sinceAsked place id (entry :: .asked place id waker :: journal) = [entry] := by
  rw [sinceAsked_cons unasked, sinceAsked, List.takeWhile_cons_of_neg (by simp [Entry.waker?])]

private theorem lastWaker?_begins (unasked : entry.waker? place id = none) (waker : Waker)
    (journal : List Entry) :
    lastWaker? place id (entry :: .asked place id waker :: journal) = some waker := by
  rw [lastWaker?, List.findSome?_cons, unasked, List.findSome?_cons]
  simp [Entry.waker?]

private theorem recentWakes_append (silent : ∀ entry ∈ news, entry.Silent place id) :
    recentWakes place id (news ++ journal) =
      timesWoken place id news + recentWakes place id journal := by
  rw [recentWakes, sinceAsked_append silent, timesWoken_append, recentWakes]

private theorem left_append (silent : ∀ entry ∈ news, entry.Silent place id) :
    left place id (news ++ journal) = (news.any (·.leaves place id) || left place id journal) := by
  rw [left, sinceAsked_append silent, List.any_append, left]

private theorem latestPoll_append (silent : ∀ entry ∈ news, entry.Silent place id) :
    latestPoll place id (news ++ journal) = latestPoll place id journal := by
  rw [latestPoll, sinceAsked_append silent, List.dropWhile_append_of_pos fun entry member => by
    rw [(silent entry member).2]; rfl, latestPoll]

private theorem leftAgain_append (silent : ∀ entry ∈ news, entry.Silent place id) :
    leftAgain place id (news ++ journal) = leftAgain place id journal := by
  rw [leftAgain, latestPoll_append silent, leftAgain]

/-- What tells nothing of the polls of a subscription takes none of its registrations back. -/
theorem registrations_append (silent : ∀ entry ∈ news, entry.Silent place id) :
    registrations place id journal ≤ registrations place id (news ++ journal) := by
  rw [registrations, registrations, leftAgain_append silent, left_append silent]
  refine Nat.add_le_add_right ?_ _
  cases left place id journal <;> simp

private theorem left_of_registrations (again : latestPoll place id journal = []) :
    registrations place id journal = (left place id journal).toNat := by
  simp [registrations, leftAgain, again]

/-- A poll that has come to the computation did so since it began, so that nothing older matters. -/
theorem sincePolled_sinceAsked {count : Nat}
    (came : .polled place count ∈ sinceAsked place id journal) :
    sincePolled place (sinceAsked place id journal) = sincePolled place journal := by
  induction journal with
  | nil => rfl
  | cons entry journal ih =>
      cases asked : entry.waker? place id with
      | some waker =>
          rw [sinceAsked, List.takeWhile_cons_of_neg (by simp [asked])] at came
          cases came
      | none =>
          rw [sinceAsked_cons asked] at came ⊢
          cases polls : entry.polls place with
          | true => simp [sincePolled, polls]
          | false =>
              have earlier := (List.mem_cons.mp came).resolve_left (by
                rintro rfl
                simp [Entry.polls] at polls)
              simpa [sincePolled, polls] using ih earlier

private theorem not_answered_of_silent (silent : ∀ entry ∈ news, entry.Silent place id)
    (outcome : Outcome) :
    .answered place id outcome ∉ news := by
  intro told
  simpa [Entry.outcome?] using (silent _ told).2

/-! The end of a poll wakes nobody and takes no registration back; a poll that comes to nothing leaves
a waker, and leaves it again if it was too late for a wakeup. -/

private theorem recentWakes_answered (outcome : Outcome) (journal : List Entry) :
    recentWakes place id (.answered place id outcome :: journal) = recentWakes place id journal := by
  rw [recentWakes, sinceAsked_cons rfl, timesWoken, List.countP_cons_of_neg (by simp), ← timesWoken,
    recentWakes]

private theorem left_answered (outcome : Outcome) (leaves : left place id journal = true) :
    left place id (.answered place id outcome :: journal) = true := by
  rw [left, sinceAsked_cons rfl, List.any_cons, ← left, leaves, Bool.or_true]

private theorem left_ended (silent : ∀ entry ∈ news, entry.Silent place id) (outcome : Outcome)
    (journal : List Entry) (leaves : left place id journal = true) :
    left place id (.answered place id outcome :: (news ++ journal)) = true :=
  left_answered outcome (by rw [left_append silent, leaves, Bool.or_true])

private theorem left_pending (place id : Nat) (journal : List Entry) :
    left place id (.answered place id .pending :: journal) = true := by
  rw [left, sinceAsked_cons rfl]
  simp [Entry.leaves]

private theorem leftAgain_pending {count : Nat}
    (came : .polled place count ∈ sinceAsked place id journal)
    (notified : .notified place ∈ sincePolled place journal) :
    leftAgain place id (.answered place id .pending :: journal) = true := by
  rw [leftAgain, latestPoll, sinceAsked_cons rfl,
    List.dropWhile_cons_of_neg (by simp [Entry.outcome?])]
  simp only [Entry.leaves, and_self, decide_true, Bool.true_and, sincePolled_sinceAsked came]
  exact List.any_eq_true.mpr ⟨_, notified, by simp [Entry.notifies]⟩

/-- A subscription is woken once for each time that it waits. -/
theorem timesWoken_wakesOf (place id : Nat) (waiting : List (Nat × Waker)) :
    timesWoken place id (wakesOf place waiting) = (waiting.map Prod.fst).count id := by
  rw [timesWoken, wakesOf, List.countP_map, List.countP_reverse, List.count, List.countP_map]
  refine List.countP_congr fun entry _ => ?_
  simp [Entry.wakes]

end Journal

/-! ## What holds of a subscription -/

namespace View

/-- A subscription is there and may still be given something: a name stands for it and it is not
done, or it is being polled. -/
def Live (view : View) (id : Nat) : Prop :=
  (∃ name subscription, view.named name = some subscription ∧ subscription.id = id ∧
    subscription.done = false) ∨ Drives view.frames id

/-- A subscription was there, and is done or was let go of. -/
def Spent (view : View) (id : Nat) : Prop :=
  ∃ cell, view.cell = some cell ∧ id < cell.nextId ∧ ¬view.Live id

/-- No subscription has two wakers. -/
def Distinct (view : View) : Prop :=
  ∀ cell, view.cell = some cell → (cell.waiting.map Prod.fst).Nodup

/-- What holds of a subscription whose waker is kept. -/
structure Registered (place : Nat) (view : View) (id : Nat) (waker : Waker) : Prop where
  live : view.Live id
  asked : lastWaker? place id view.history = some waker
  unwoken : recentWakes place id view.history = 0
  left : left place id view.history = true

/-- What holds of a subscription while it drives the computation. -/
structure Driving (place : Nat) (history : List Entry) (frame : Frame) : Prop where
  unanswered : latestPoll place frame.driver.id history = []
  before : ¬frame.work.Underway → Replay.left place frame.driver.id history = false
  after : frame.work.Underway →
    ∃ count, .polled place count ∈ sinceAsked place frame.driver.id history

/-- What holds of a subscription in every state. -/
structure Standing (place : Nat) (view : View) (id : Nat) : Prop where
  registered : ∀ waker, view.Keeps id waker → Registered place view id waker
  /-- It is not woken more often than it has left its waker. -/
  once : recentWakes place id view.history ≤ registrations place id view.history
  driving : ∀ frame ∈ view.frames, frame.driver.id = id → Driving place view.history frame
  ended : ∀ outcome, .answered place id (.ready outcome) ∈ view.history → view.Spent id

/-! ## What a change means for a subscription -/

/-- A subscription is woken at most once in a change, and only if its waker is kept. -/
def Spares (place : Nat) (view : View) (news : List Entry) (id : Nat) : Prop :=
  timesWoken place id news = 0 ∨ timesWoken place id news = 1 ∧ ∃ waker, view.Keeps id waker

/-- A subscription is not polled.  It may be woken, and its waker may be forgotten. -/
structure Aside (place : Nat) (view : View) (news : List Entry) (changed : View) (id : Nat) :
    Prop where
  silent : ∀ entry ∈ news, entry.Silent place id
  spares : Spares place view news id
  keeps : ∀ waker, changed.Keeps id waker →
    view.Keeps id waker ∧ timesWoken place id news = 0 ∧ (view.Live id → changed.Live id)
  frames : ∀ frame ∈ changed.frames, frame.driver.id = id →
    (∀ entry ∈ news, entry.leaves place id = false) ∧ ∃ earlier ∈ view.frames,
      earlier.driver.id = id ∧ (earlier.work.Underway ↔ frame.work.Underway)

/-- The poll of a subscription begins, and with the entry after its beginning this may be all of
it. -/
structure Begins (place : Nat) (view : View) (entry : Entry) (waker : Waker) (changed : View)
    (id : Nat) : Prop where
  alive : view.Live id
  unasked : entry.waker? place id = none
  unwoken : entry.wakes place id = false
  keeps : ∀ other, changed.Keeps id other →
    other = waker ∧ entry.leaves place id = true ∧ changed.Live id
  frames : ∀ frame ∈ changed.frames, frame.driver.id = id → Driving place changed.history frame
  ends : ∀ outcome, entry = .answered place id (.ready outcome) → changed.Spent id

/-- The poll of a driver comes to the computation. -/
structure Enters (place : Nat) (view : View) (frame : Frame) (changed : View) : Prop where
  there : frame ∈ view.frames
  waits : ¬frame.work.Underway
  asked : lastWaker? place frame.driver.id view.history = some frame.driver.waker
  keeps : ∀ other, changed.Keeps frame.driver.id other → other = frame.driver.waker
  frames : ∀ other ∈ changed.frames, other.driver.id = frame.driver.id → other.work.Underway
  alive : changed.Live frame.driver.id

/-- The poll of a driver ends.  It may have left its waker just before, and then it was told at
once. -/
structure Ends (place : Nat) (view : View) (frame : Frame) (outcome : Outcome)
    (woken : List Entry) (changed : View) : Prop where
  there : frame ∈ view.frames
  silent : ∀ entry ∈ woken, entry.Silent place frame.driver.id
  spares : Spares place view woken frame.driver.id ∨
    timesWoken place frame.driver.id woken = 1 ∧ outcome = .pending ∧ frame.work.Underway ∧
      .notified place ∈ sincePolled place (woken ++ view.history)
  keeps : ∀ waker, changed.Keeps frame.driver.id waker →
    view.Keeps frame.driver.id waker ∧ outcome = .pending ∧
      timesWoken place frame.driver.id woken = 0 ∧ changed.Live frame.driver.id
  frames : changed.frames = []
  ends : ∀ given, outcome = .ready given → changed.Spent frame.driver.id

/-- The part that a subscription has in a change, which adds the news to the journal. -/
inductive Part (place : Nat) (view : View) : List Entry → View → Nat → Prop
  | aside {news : List Entry} {changed : View} {id : Nat}
      (aside : Aside place view news changed id) : Part place view news changed id
  | begins {entry : Entry} {waker : Waker} {changed : View} {id : Nat}
      (begins : Begins place view entry waker changed id) :
      Part place view [entry, .asked place id waker] changed id
  | enters {frame : Frame} {changed : View} (count : Nat)
      (enters : Enters place view frame changed) :
      Part place view [.polled place count] changed frame.driver.id
  | ends {frame : Frame} {outcome : Outcome} {woken : List Entry} {changed : View}
      (ends : Ends place view frame outcome woken changed) :
      Part place view (.answered place frame.driver.id outcome :: woken) changed frame.driver.id

/-- What a change means for each subscription. -/
structure Shift (place : Nat) (view : View) (news : List Entry) (changed : View) : Prop where
  history : changed.history = news ++ view.history
  distinct : changed.Distinct
  /-- Nobody comes back. -/
  spent : ∀ id, view.Spent id → changed.Spent id
  part : ∀ id, Part place view news changed id

section Silent

variable {place id : Nat} {view changed : View} {history news : List Entry} {waker : Waker}
  {frame later : Frame}

/-- Who is not woken stays registered. -/
theorem Registered.keep (registered : Registered place view id waker) (live : changed.Live id)
    (grows : changed.history = news ++ view.history)
    (silent : ∀ entry ∈ news, entry.Silent place id) (quiet : timesWoken place id news = 0) :
    Registered place changed id waker := by
  obtain ⟨-, asked, unwoken, left⟩ := registered
  refine ⟨live, ?_, ?_, ?_⟩ <;> rw [grows]
  · rw [lastWaker?_append silent, asked]
  · rw [recentWakes_append silent, quiet, unwoken]
  · rw [left_append silent, left, Bool.or_true]

/-- Who drives goes on, unless its poll comes to the computation. -/
theorem Driving.keep (driving : Driving place history frame)
    (silent : ∀ entry ∈ news, entry.Silent place frame.driver.id)
    (unleft : ∀ entry ∈ news, entry.leaves place frame.driver.id = false)
    (same : frame.driver.id = later.driver.id)
    (underway : frame.work.Underway ↔ later.work.Underway) :
    Driving place (news ++ history) later := by
  obtain ⟨unanswered, before, after⟩ := driving
  refine ⟨?_, ?_, ?_⟩ <;> rw [← same]
  · rw [latestPoll_append silent, unanswered]
  · intro waits
    rw [left_append silent, before (underway.not.mpr waits), Bool.or_false,
      List.any_eq_false.mpr fun entry told => by simp [unleft entry told]]
  · intro goes
    obtain ⟨count, came⟩ := after (underway.mpr goes)
    rw [sinceAsked_append silent]
    exact ⟨count, List.mem_append_right _ came⟩

/-- A poll that came to the computation and ends too late for a wakeup leaves its waker again. -/
theorem Driving.registrations_pending (driving : Driving place history frame)
    (underway : frame.work.Underway) (silent : ∀ entry ∈ news, entry.Silent place frame.driver.id)
    (notified : .notified place ∈ sincePolled place (news ++ history)) :
    registrations place frame.driver.id
      (.answered place frame.driver.id .pending :: (news ++ history)) = 2 := by
  obtain ⟨count, came⟩ := driving.after underway
  have came_still : .polled place count ∈ sinceAsked place frame.driver.id (news ++ history) := by
    rw [sinceAsked_append silent]
    exact List.mem_append_right news came
  rw [registrations, left_pending, leftAgain_pending came_still notified]
  rfl

end Silent

namespace Standing

variable {place id : Nat} {view changed : View} {news : List Entry}

/-- While it drives, a subscription has at most one registration. -/
theorem once_of_driving (standing : Standing place view id) {frame : Frame}
    (there : frame ∈ view.frames) (drives : frame.driver.id = id) :
    recentWakes place id view.history ≤ (Replay.left place id view.history).toNat := by
  have driving := standing.driving frame there drives
  rw [← left_of_registrations (drives ▸ driving.unanswered)]
  exact standing.once

/-- Nobody is woken whose waker is not kept, and nobody who is woken was woken before. -/
theorem recentWakes_le (standing : Standing place view id) (spares : Spares place view news id)
    {bound : Nat} (before : recentWakes place id view.history ≤ bound)
    (once : (Replay.left place id view.history).toNat ≤ bound) :
    timesWoken place id news + recentWakes place id view.history ≤ bound := by
  rcases spares with silent | ⟨woken, waker, kept⟩
  · rwa [silent, Nat.zero_add]
  · have registered := standing.registered waker kept
    rwa [registered.unwoken, woken, ← Bool.toNat_true, ← registered.left]

/-- What is told of others gives nothing to a subscription. -/
theorem spent_of_answered (standing : Standing place view id)
    (silent : ∀ entry ∈ news, entry.Silent place id) {outcome : Option String}
    (answered : .answered place id (.ready outcome) ∈ news ++ view.history) : view.Spent id :=
  standing.ended outcome
    ((List.mem_append.mp answered).resolve_left (not_answered_of_silent silent _))

private theorem aside (standing : Standing place view id) (aside : Aside place view news changed id)
    (history : changed.history = news ++ view.history) (spent : view.Spent id → changed.Spent id) :
    Standing place changed id := by
  obtain ⟨silent, spares, keeps, frames⟩ := aside
  constructor
  · intro waker kept
    obtain ⟨held, quiet, alive⟩ := keeps waker kept
    have registered := standing.registered waker held
    exact registered.keep (alive registered.live) history silent quiet
  · rw [history, recentWakes_append silent]
    have bound := standing.recentWakes_le spares standing.once (Nat.le_add_right _ _)
    exact bound.trans (registrations_append silent)
  · intro frame member drives
    obtain ⟨unleft, earlier, there, same, underway⟩ := frames frame member drives
    have driving := standing.driving earlier there same
    rw [history]
    exact driving.keep (same ▸ silent) (same ▸ unleft) (same.trans drives.symm) underway
  · exact fun outcome answered => spent (standing.spent_of_answered silent (history ▸ answered))

private theorem begins {entry : Entry} {waker : Waker} (standing : Standing place view id)
    (begins : Begins place view entry waker changed id)
    (history : changed.history = entry :: .asked place id waker :: view.history) :
    Standing place changed id := by
  obtain ⟨alive, unasked, unwoken, keeps, frames, ends⟩ := begins
  have since : sinceAsked place id changed.history = [entry] := by
    rw [history]
    exact sinceAsked_begins unasked waker view.history
  have none_recent : recentWakes place id changed.history = 0 := by
    simp [recentWakes, since, timesWoken, unwoken]
  constructor
  · intro other kept
    obtain ⟨rfl, leaves, live⟩ := keeps other kept
    refine ⟨live, ?_, none_recent, ?_⟩
    · rw [history]
      exact lastWaker?_begins unasked other view.history
    · simp [left, since, leaves]
  · rw [none_recent]
    exact Nat.zero_le _
  · exact frames
  · intro outcome answered
    simp only [history, List.mem_cons, reduceCtorEq, false_or] at answered
    rcases answered with same | earlier
    · exact ends outcome same.symm
    · obtain ⟨_, _, _, gone⟩ := standing.ended outcome earlier
      exact absurd alive gone

private theorem enters {frame : Frame} {count : Nat}
    (standing : Standing place view frame.driver.id) (enters : Enters place view frame changed)
    (history : changed.history = [.polled place count] ++ view.history)
    (spent : view.Spent frame.driver.id → changed.Spent frame.driver.id) :
    Standing place changed frame.driver.id := by
  obtain ⟨there, waits, asked, keeps, frames, alive⟩ := enters
  have driving := standing.driving frame there rfl
  have silent : ∀ entry ∈ [Entry.polled place count], entry.Silent place frame.driver.id := by
    simp [Entry.Silent, Entry.waker?, Entry.outcome?]
  have since : sinceAsked place frame.driver.id changed.history =
      .polled place count :: sinceAsked place frame.driver.id view.history := by
    rw [history]
    exact sinceAsked_append silent
  have none_recent : recentWakes place frame.driver.id changed.history = 0 := by
    have bound := standing.once_of_driving there rfl
    rw [driving.before waits] at bound
    rw [history, recentWakes_append silent, Nat.le_zero.mp bound]
    rfl
  constructor
  · intro other kept
    rw [keeps other kept]
    refine ⟨alive, ?_, none_recent, ?_⟩
    · rw [history, lastWaker?_append silent, asked]
    · simp [left, since, Entry.leaves]
  · rw [none_recent]
    exact Nat.zero_le _
  · intro other member same
    refine ⟨?_, fun quiet => absurd (frames other member same) quiet, fun _ => ?_⟩ <;> rw [same]
    · rw [history, latestPoll_append silent, driving.unanswered]
    · rw [since]
      exact ⟨count, List.mem_cons_self⟩
  · exact fun outcome answered => spent (standing.spent_of_answered silent (history ▸ answered))

/-- At the end of a poll the wakes of a driver are still covered by what it left. -/
theorem once_of_ends {frame : Frame} {outcome : Outcome} {woken : List Entry}
    (standing : Standing place view frame.driver.id)
    (ends : Ends place view frame outcome woken changed)
    (history : changed.history =
      .answered place frame.driver.id outcome :: (woken ++ view.history)) :
    recentWakes place frame.driver.id changed.history ≤
      registrations place frame.driver.id changed.history := by
  have before := standing.once_of_driving ends.there rfl
  rw [history, recentWakes_answered, recentWakes_append ends.silent]
  rcases ends.spares with spares | ⟨woke, rfl, underway, notified⟩
  · have bound := standing.recentWakes_le spares before (Nat.le_refl _)
    have still := left_ended ends.silent outcome view.history
    have more := Bool.toNat_le_toNat (Bool.le_iff_imp.mpr still)
    exact bound.trans (more.trans (Nat.le_add_right _ _))
  · have driving := standing.driving frame ends.there rfl
    rw [driving.registrations_pending underway ends.silent notified, woke, Nat.add_comm]
    exact Nat.add_le_add_right (before.trans (Bool.toNat_le _)) 1

private theorem ends {frame : Frame} {outcome : Outcome} {woken : List Entry}
    (standing : Standing place view frame.driver.id)
    (ends : Ends place view frame outcome woken changed)
    (history : changed.history =
      .answered place frame.driver.id outcome :: (woken ++ view.history))
    (spent : view.Spent frame.driver.id → changed.Spent frame.driver.id) :
    Standing place changed frame.driver.id := by
  constructor
  · intro waker kept
    obtain ⟨held, -, quiet, live⟩ := ends.keeps waker kept
    obtain ⟨-, asked, unwoken, leaves⟩ := standing.registered waker held
    refine ⟨live, ?_, ?_, ?_⟩ <;> rw [history]
    · rw [lastWaker?, List.findSome?_cons]
      exact (lastWaker?_append ends.silent).trans asked
    · rw [recentWakes_answered, recentWakes_append ends.silent, quiet, unwoken]
    · exact left_ended ends.silent outcome view.history leaves
  · exact standing.once_of_ends ends history
  · intro other member
    rw [ends.frames] at member
    cases member
  · intro given answered
    rw [history] at answered
    rcases List.mem_cons.mp answered with same | earlier
    · simp only [Entry.answered.injEq, true_and] at same
      exact ends.ends given same.symm
    · exact spent (standing.spent_of_answered ends.silent earlier)

theorem shift (standing : Standing place view id) (shift : Shift place view news changed) :
    Standing place changed id := by
  obtain ⟨history, -, spent, part⟩ := shift
  cases part id with
  | aside aside => exact standing.aside aside history (spent id)
  | begins begins => exact standing.begins begins history
  | enters count enters => exact standing.enters enters history (spent _)
  | ends ends => exact standing.ends ends history (spent _)

end Standing

end View

end Replay
end LinkFacts
