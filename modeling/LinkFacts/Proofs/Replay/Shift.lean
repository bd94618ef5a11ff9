import LinkFacts.Proofs.Replay.Interest

/-!
# The part of each subscription in a change

Every change of the protocol of a computation has one of the parts of `Part` for each subscription,
and no change brings back a subscription that is over.
-/

namespace LinkFacts
namespace Replay
namespace View

variable {place id : Nat} {view changed : View} {cell kept : ScriptCell} {waker : Waker}
  {driver : Driver}

private theorem distinct_of_cell (out : changed.cell = some kept)
    (unique : (kept.waiting.map Prod.fst).Nodup) : changed.Distinct := by
  intro cell found
  cases out.symm.trans found
  exact unique

theorem keeps_iff (found : view.cell = some cell) :
    view.Keeps id waker ↔ cell.waiting.lookup id = some waker := by
  simp [Keeps, found]

private theorem nodup_unregister (distinct : (cell.waiting.map Prod.fst).Nodup) (id : Nat) :
    ((cell.unregister id).waiting.map Prod.fst).Nodup :=
  distinct.sublist (List.filter_sublist.map Prod.fst)

private theorem nodup_register (distinct : (cell.waiting.map Prod.fst).Nodup) (id : Nat)
    (waker : Waker) :
    ((cell.register id waker).waiting.map Prod.fst).Nodup := by
  refine List.nodup_cons.mpr ⟨?_, nodup_unregister distinct id⟩
  simp

/-- Nobody is woken twice when everybody who waits is woken. -/
theorem spares_wakesOf (distinct : view.Distinct) (found : view.cell = some cell) (id : Nat) :
    Spares place view (wakesOf place cell.waiting) id := by
  rw [Spares, timesWoken_wakesOf]
  by_cases waits : id ∈ cell.waiting.map Prod.fst
  · refine .inr ⟨List.count_eq_one_of_mem (distinct cell found) waits, ?_⟩
    cases held : cell.waiting.lookup id with
    | some waker => exact ⟨waker, (keeps_iff found).mpr held⟩
    | none =>
        obtain ⟨entry, member, rfl⟩ := List.mem_map.mp waits
        have absent := List.lookup_eq_none_iff.mp held entry member
        simp at absent
  · exact .inl (List.count_eq_zero_of_not_mem waits)

/-- Who is over stays over if no name comes back. -/
theorem Spent.keep (spent : view.Spent id) (found : view.cell = some cell)
    (out : changed.cell = some kept) (more : cell.nextId ≤ kept.nextId)
    (back : id < cell.nextId → changed.Live id → view.Live id) : changed.Spent id := by
  obtain ⟨other, other_found, counted, gone⟩ := spent
  cases found.symm.trans other_found
  exact ⟨kept, out, Nat.lt_of_lt_of_le counted more, fun live => gone (back counted live)⟩

private theorem Spent.keep_same (spent : view.Spent id) (same : changed.cell = view.cell)
    (back : changed.Live id → view.Live id) : changed.Spent id := by
  obtain ⟨cell, found, counted, gone⟩ := spent
  exact ⟨cell, same.trans found, counted, fun live => gone (back live)⟩

/-- A change that adds nothing to the journal. -/
theorem Shift.quiet (history : changed.history = view.history) (distinct : changed.Distinct)
    (spent : ∀ id, view.Spent id → changed.Spent id)
    (keeps : ∀ id waker, changed.Keeps id waker →
      view.Keeps id waker ∧ (view.Live id → changed.Live id))
    (frames : ∀ frame ∈ changed.frames, ∃ earlier ∈ view.frames,
      earlier.driver.id = frame.driver.id ∧ (earlier.work.Underway ↔ frame.work.Underway)) :
    Shift place view [] changed := by
  refine ⟨history, distinct, spent, fun id => .aside ⟨by simp, .inl rfl, ?_, ?_⟩⟩
  · exact fun waker held => ⟨(keeps id waker held).1, rfl, (keeps id waker held).2⟩
  · intro frame member drives
    obtain ⟨earlier, there, same, underway⟩ := frames frame member
    exact ⟨by simp, earlier, there, same.trans drives, underway⟩

/-- Everybody who waits is woken. -/
theorem Shift.notify (distinct : view.Distinct) (frames : List Frame)
    (drives : ∀ id, Drives frames id ↔ Drives view.frames id)
    (same : ∀ frame ∈ frames, ∃ earlier ∈ view.frames,
      earlier.driver.id = frame.driver.id ∧ (earlier.work.Underway ↔ frame.work.Underway)) :
    ∃ news, Shift place view news
      (({ view with frames }.note (.notified place)).notify place) := by
  have told : ∀ entry ∈ [Entry.notified place], ∀ id, entry.Silent place id ∧
      entry.wakes place id = false ∧ entry.leaves place id = false := by
    simp [Entry.Silent, Entry.waker?, Entry.outcome?, Entry.wakes, Entry.leaves]
  have drained : ∀ id waker,
      ¬(({ view with frames }.note (.notified place)).notify place).Keeps id waker := by
    rintro id waker ⟨left, out, held⟩
    obtain ⟨cell, -, rfl⟩ := Option.map_eq_some_iff.mp out
    cases held
  refine ⟨wakesOf place ((view.cell.map Cell.waiting).getD []) ++ [.notified place], ?_, ?_, ?_, ?_⟩
  · simp [View.notify, View.noteWakes, View.modify, View.note, wakesOf]
  · intro left out
    obtain ⟨cell, -, rfl⟩ := Option.map_eq_some_iff.mp out
    exact List.nodup_nil
  · intro id spent
    obtain ⟨cell, found⟩ : ∃ cell, view.cell = some cell := spent.imp fun _ => And.left
    have noted : ({ view with frames }.note (.notified place)).cell = some cell := found
    exact spent.keep found (cell_notify noted place) (Nat.le_refl _) fun _ =>
      Or.imp_right (drives id).mp
  · refine fun id => .aside ⟨?_, ?_, fun waker held => absurd held (drained id waker), ?_⟩
    · intro entry member
      rcases List.mem_append.mp member with woke | last
      · exact silent_of_mem_wakesOf woke
      · exact (told entry last id).1
    · have spares : Spares place view (wakesOf place ((view.cell.map Cell.waiting).getD [])) id := by
        cases found : view.cell with
        | none => exact .inl rfl
        | some cell => exact spares_wakesOf distinct found id
      have last : timesWoken place id [.notified place] = 0 := rfl
      rwa [Spares, timesWoken_append, last, Nat.add_zero]
    · intro frame member drives
      obtain ⟨earlier, there, same_id, underway⟩ := same frame member
      refine ⟨fun entry told_entry => ?_, earlier, there, same_id.trans drives, underway⟩
      rcases List.mem_append.mp told_entry with woke | last
      · obtain ⟨pair, -, rfl⟩ := List.mem_map.mp woke
        rfl
      · exact (told entry last id).2.2

/-- A poll begins.  It may be over at once. -/
theorem Shift.begin {entry : Entry} (sound : Sound place view) (ready : view.Ready driver)
    (found : view.cell = some cell) (out : changed.cell = some kept)
    (nextId : kept.nextId = cell.nextId) (distinct : changed.Distinct)
    (history : changed.history = entry :: .asked place driver.id driver.waker :: view.history)
    (unasked : ∀ id, entry.waker? place id = none) (unwoken : ∀ id, entry.wakes place id = false)
    (unanswered : ∀ id, id ≠ driver.id → entry.outcome? place id = none)
    (others : ∀ id, id ≠ driver.id → kept.waiting.lookup id = cell.waiting.lookup id)
    (live : ∀ id, id ≠ driver.id → (changed.Live id ↔ view.Live id))
    (keeps : ∀ waker, kept.waiting.lookup driver.id = some waker →
      waker = driver.waker ∧ entry.leaves place driver.id = true ∧ changed.Live driver.id)
    (drives : ∀ frame ∈ changed.frames, frame.driver.id = driver.id →
      Driving place changed.history frame)
    (frames : ∀ frame ∈ changed.frames, frame.driver.id ≠ driver.id →
      frame ∈ view.frames ∧ entry.leaves place frame.driver.id = false)
    (ends : ∀ outcome, entry = .answered place driver.id (.ready outcome) →
      ¬changed.Live driver.id) :
    Shift place view [entry, .asked place driver.id driver.waker] changed := by
  have counted : driver.id < kept.nextId := nextId ▸ (sound.fits _ _ ready).counted cell found
  have alive : view.Live driver.id := .inl ⟨driver.name, _, ready, rfl, rfl⟩
  refine ⟨history, distinct, fun id spent => ?_, fun id => ?_⟩
  · refine spent.keep found out nextId.ge fun _ lives => ?_
    by_cases same : id = driver.id
    · exact same ▸ alive
    · exact (live id same).mp lives
  · by_cases same : id = driver.id
    · subst same
      refine .begins ⟨alive, unasked _, unwoken _, ?_, drives, fun outcome ended => ?_⟩
      · exact fun waker held => keeps waker ((keeps_iff out).mp held)
      · exact ⟨kept, out, counted, ends outcome ended⟩
    · have quiet : timesWoken place id [entry, .asked place driver.id driver.waker] = 0 := by
        simp [timesWoken, unwoken]
      refine .aside ⟨?_, .inl quiet, fun waker held => ⟨?_, quiet, (live id same).mpr⟩, ?_⟩
      · have silent : entry.Silent place id := ⟨unasked id, unanswered id same⟩
        simp [silent, Entry.silent_asked (Ne.symm same)]
      · exact (keeps_iff found).mpr ((others id same).symm.trans ((keeps_iff out).mp held))
      · intro frame member drives
        obtain ⟨there, unleft⟩ := frames frame member (drives ▸ same)
        rw [drives] at unleft
        exact ⟨by simp [unleft], frame, there, drives, .rfl⟩

/-- Nobody comes back at the end of a poll. -/
theorem live_of_finish {outcome : Outcome} (live : (view.finish driver outcome).Live id) :
    view.Live id := by
  refine live.imp ?_ fun drives => by rwa [frames_finish] at drives
  rintro ⟨name, subscription, named, same, undone⟩
  obtain ⟨earlier, held, ⟨-, -, rfl⟩ | ⟨-, rfl⟩⟩ := view.named_finish driver outcome named
  · cases outcome with
    | ready given => cases undone
    | pending | panicked => exact ⟨name, earlier, held, same, undone⟩
  · exact ⟨name, _, held, same, undone⟩

/-- The end of a poll leaves the others alone. -/
theorem live_finish_of_ne {outcome : Outcome} (live : view.Live id) (different : id ≠ driver.id) :
    (view.finish driver outcome).Live id := by
  refine live.imp ?_ fun drives => by rwa [frames_finish]
  rintro ⟨name, subscription, named, same, undone⟩
  refine ⟨name, subscription, ?_, same, undone⟩
  rcases view.finish_cases driver outcome with ⟨owner, held, owned, finished⟩ | ⟨-, finished⟩ <;>
    rw [finished]
  · have apart : name ≠ driver.name := by
      rintro rfl
      cases named.symm.trans held
      exact different (same.symm.trans owned)
    exact (if_neg apart).trans named
  · exact named

/-- A poll that comes to nothing leaves its subscription there. -/
theorem live_finish_pending {subscription : Subscription}
    (named : view.named driver.name = some subscription) (same : subscription.id = driver.id)
    (undone : subscription.done = false) : (view.finish driver .pending).Live driver.id := by
  rcases view.finish_cases driver .pending with ⟨owner, held, owned, finished⟩ | ⟨lost, -⟩
  · cases named.symm.trans held
    rw [finished]
    exact .inl ⟨driver.name, subscription.after .pending, if_pos rfl, same, undone⟩
  · exact absurd same (lost subscription named)

section Leave

variable {work : Work} {left : ScriptCell} {news : List Entry} {outcome : Outcome}

private theorem Remains.lookup_left (remains : view.Remains driver left kept)
    (held : kept.waiting.lookup id = some waker) : left.waiting.lookup id = some waker := by
  rw [← remains.lookup id, held]
  rintro rfl
  exact remains.owned waker held

private theorem Leaving.live_of_finish
    (leaving : Leaving place view driver work cell left news changed)
    (live : (changed.finish driver outcome).Live id) : view.Live id := by
  refine (View.live_of_finish live).imp (fun stands => leaving.named ▸ stands) fun drives => ?_
  rw [leaving.frames] at drives
  obtain ⟨_, member, -⟩ := drives
  cases member

/-- A driver that is given something is done, under whatever name. -/
theorem Leaving.not_live_finish (leaving : Leaving place view driver work cell left news changed)
    (sound : Sound place view) (given : Option String) :
    ¬(changed.finish driver (.ready given)).Live driver.id := by
  rintro (⟨name, subscription, held, same, undone⟩ | ⟨_, member, -⟩)
  · obtain ⟨earlier, stands, ⟨-, -, rfl⟩ | ⟨lost, rfl⟩⟩ := changed.named_finish driver _ held
    · cases undone
    · have fits := sound.fits _ _ (leaving.named ▸ stands)
      exact lost (fits.owner _ leaving.mem_frames same.symm).symm same
  · rw [leaving.frames_finish] at member
    cases member

private theorem Leaving.ends (leaving : Leaving place view driver work cell left news changed)
    (sound : Sound place view)
    (spares : Spares place view news driver.id ∨ timesWoken place driver.id news = 1 ∧
      outcome = .pending ∧ work.Underway ∧
        .notified place ∈ sincePolled place (news ++ view.history))
    (keeps : ∀ waker, left.waiting.lookup driver.id = some waker →
      cell.waiting.lookup driver.id = some waker ∧ outcome = .pending ∧
        timesWoken place driver.id news = 0) :
    Ends place view ⟨driver, work⟩ outcome news (changed.finish driver outcome) := by
  obtain ⟨kept, out, remains⟩ := remains_finish leaving.out driver outcome
  refine ⟨leaving.mem_frames, leaving.silent _, spares, ?_, leaving.frames_finish, ?_⟩
  · intro waker held
    have still := (keeps_iff out).mp held
    obtain ⟨registered, rfl, quiet⟩ := keeps waker (remains.lookup_left still)
    obtain ⟨subscription, stands, same⟩ := remains.owned waker still
    have fits := sound.fits _ _ (leaving.named ▸ stands)
    have busy := fits.busy.mpr ⟨_, leaving.mem_frames, same.symm⟩
    exact ⟨(keeps_iff leaving.found).mpr registered, rfl, quiet,
      live_finish_pending stands same (fits.open_of_busy busy)⟩
  · rintro given rfl
    have counted := sound.frame_counted cell leaving.found _ leaving.mem_frames
    rw [← leaving.nextId, ← remains.nextId] at counted
    exact ⟨kept, out, counted, leaving.not_live_finish sound given⟩

private theorem Leaving.aside (leaving : Leaving place view driver work cell left news changed)
    (different : id ≠ driver.id) (spares : Spares place view news id)
    (keeps : ∀ waker, left.waiting.lookup id = some waker →
      cell.waiting.lookup id = some waker ∧ timesWoken place id news = 0) :
    Aside place view (.answered place driver.id outcome :: news) (changed.finish driver outcome)
      id := by
  obtain ⟨kept, out, remains⟩ := remains_finish leaving.out driver outcome
  have told : timesWoken place id (.answered place driver.id outcome :: news) =
      timesWoken place id news := List.countP_cons_of_neg (by simp)
  refine ⟨?_, ?_, fun waker held => ?_, ?_⟩
  · exact List.forall_mem_cons.mpr
      ⟨Entry.silent_answered (Ne.symm different) outcome, leaving.silent id⟩
  · rwa [Spares, told]
  · have still := remains.lookup_left ((keeps_iff out).mp held)
    obtain ⟨registered, quiet⟩ := keeps waker still
    refine ⟨(keeps_iff leaving.found).mpr registered, told.trans quiet, fun live => ?_⟩
    have there : changed.Live id := live.imp (fun stands => leaving.named ▸ stands) fun drives =>
      absurd (leaving.drives_iff.mp drives).symm different
    exact live_finish_of_ne there different
  · intro frame member
    rw [leaving.frames_finish] at member
    cases member

/-- The poll of a driver ends. -/
theorem Shift.leave (sound : Sound place view)
    (leaving : Leaving place view driver work cell left news changed)
    (distinct : (left.waiting.map Prod.fst).Nodup)
    (spares : ∀ id, Spares place view news id ∨ id = driver.id ∧ timesWoken place id news = 1 ∧
      outcome = .pending ∧ work.Underway ∧
        .notified place ∈ sincePolled place (news ++ view.history))
    (keeps : ∀ id waker, left.waiting.lookup id = some waker →
      cell.waiting.lookup id = some waker ∧ outcome = .pending ∧ timesWoken place id news = 0) :
    Shift place view (.answered place driver.id outcome :: news)
      (changed.finish driver outcome) := by
  obtain ⟨kept, out, remains⟩ := remains_finish leaving.out driver outcome
  refine ⟨leaving.history_finish, ?_, fun id spent => ?_, fun id => ?_⟩
  · exact distinct_of_cell out (distinct.sublist (remains.waiting.map Prod.fst))
  · have count : kept.nextId = cell.nextId := remains.nextId.trans leaving.nextId
    exact spent.keep leaving.found out count.ge fun _ => leaving.live_of_finish
  · by_cases same : id = driver.id
    · subst same
      exact .ends (leaving.ends sound ((spares _).imp_right And.right) (keeps _))
    · refine .aside (leaving.aside same ?_ fun waker held => ?_)
      · exact (spares id).resolve_right fun renewed => same renewed.1
      · obtain ⟨registered, -, quiet⟩ := keeps id waker held
        exact ⟨registered, quiet⟩

/-- The poll of a driver ends after it has woken everybody: nobody waits any longer. -/
theorem Shift.leave_woken {waiting : List (Nat × Waker)} (sound : Sound place view)
    (leaving : Leaving place view driver work cell left (wakesOf place waiting) changed)
    (nobody : left.waiting = [])
    (spares : ∀ id, Spares place view (wakesOf place waiting) id ∨ id = driver.id ∧
      timesWoken place id (wakesOf place waiting) = 1 ∧ outcome = .pending ∧ work.Underway ∧
        .notified place ∈ sincePolled place (wakesOf place waiting ++ view.history)) :
    Shift place view (.answered place driver.id outcome :: wakesOf place waiting)
      (changed.finish driver outcome) := by
  refine .leave sound leaving (by simp [nobody]) spares fun id waker held => ?_
  simp [nobody] at held

end Leave

private theorem live_of_unassign {name : String} (live : (view.assign name none).Live id) :
    view.Live id := by
  refine live.imp_left ?_
  rintro ⟨other, subscription, named, same, undone⟩
  rcases named_of_assign named with ⟨-, ⟨⟩⟩ | ⟨-, stands⟩
  exact ⟨other, subscription, stands, same, undone⟩

private theorem live_assign {name : String} {held : Option Subscription} (live : view.Live id)
    (different : ∀ subscription, view.named name = some subscription → subscription.id ≠ id) :
    (view.assign name held).Live id := by
  refine live.imp_left ?_
  rintro ⟨other, subscription, named, same, undone⟩
  have apart : other ≠ name := by
    rintro rfl
    exact different subscription named same
  exact ⟨other, subscription, (if_neg apart).trans named, same, undone⟩

private theorem live_assign_of_ne {name : String} {subscription : Subscription}
    {held : Option Subscription} (named : view.named name = some subscription) (live : view.Live id)
    (different : id ≠ subscription.id) : (view.assign name held).Live id := by
  refine live_assign live fun other stands same => different ?_
  cases named.symm.trans stands
  exact same.symm

/-- A poll that is in progress makes no difference to the others. -/
theorem live_push_iff {subscription : Subscription} {work : Work}
    (named : view.named driver.name = some subscription) (same : subscription.id = driver.id)
    (different : id ≠ driver.id) : (view.push driver work).Live id ↔ view.Live id := by
  constructor
  · rintro (⟨name, other, stands, other_id, undone⟩ | ⟨frame, member, drives⟩)
    · rcases named_of_assign stands with ⟨-, held⟩ | ⟨-, kept⟩
      · rw [named, Option.map_some, Option.some.injEq] at held
        subst held
        exact absurd (other_id.symm.trans same) different
      · exact .inl ⟨name, other, kept, other_id, undone⟩
    · rcases List.mem_cons.mp member with rfl | earlier
      · exact absurd drives.symm different
      · exact .inr ⟨frame, earlier, drives⟩
  · intro live
    have others : (view.assign driver.name ((view.named driver.name).map fun subscription =>
        { subscription with busy := true })).Live id :=
      live_assign_of_ne named live (same ▸ different)
    rcases others with stands | ⟨frame, member, drives⟩
    · exact .inl stands
    · exact .inr ⟨frame, List.mem_cons_of_mem _ member, drives⟩

/-- A poll that does not drive is answered at once. -/
theorem Shift.answer {change : ScriptCell → ScriptCell} {outcome : Outcome}
    (sound : Sound place view) (distinct : view.Distinct) (here : driver.cell = place)
    (ready : view.Ready driver) (found : view.cell = some cell)
    (nextId : (change cell).nextId = cell.nextId)
    (still : (cell.waiting.map Prod.fst).Nodup → ((change cell).waiting.map Prod.fst).Nodup)
    (others : ∀ id, id ≠ driver.id →
      (change cell).waiting.lookup id = cell.waiting.lookup id)
    (keeps : ∀ waker, (change cell).waiting.lookup driver.id = some waker →
      waker = driver.waker ∧ outcome = .pending) :
    Shift place view [.answered place driver.id outcome, .asked place driver.id driver.waker]
      (((view.ask driver).modify change).finish driver outcome) := by
  subst here
  have idle : ¬Drives view.frames driver.id := fun drives => by
    cases (sound.fits _ _ ready).busy.mpr drives
  have stands : ((view.ask driver).modify change).Ready driver := ready
  have out : (((view.ask driver).modify change).finish driver outcome).cell =
      some (change cell) := by
    rw [finish_of_ready stands]
    simp [assign, View.note, View.modify, ask, found]
  have frames : (((view.ask driver).modify change).finish driver outcome).frames = view.frames :=
    frames_finish ..
  refine .begin sound ready found out nextId ?_ (history_finish ..) (fun _ => rfl) (fun _ => rfl)
    (fun id different => (Entry.silent_answered (Ne.symm different) outcome).2) others ?_ ?_ ?_ ?_ ?_
  · exact distinct_of_cell out (still (distinct cell found))
  · exact fun id different => ⟨live_of_finish, fun live => live_finish_of_ne live different⟩
  · intro waker held
    obtain ⟨rfl, rfl⟩ := keeps waker held
    exact ⟨rfl, by simp [Entry.leaves], live_finish_pending stands rfl rfl⟩
  · intro frame member drives
    rw [frames] at member
    exact absurd ⟨frame, member, drives⟩ idle
  · intro frame member different
    rw [frames] at member
    cases outcome <;> simp [Entry.leaves, member, Ne.symm different]
  · rintro given ended
    cases ended
    rintro (⟨name, subscription, named, same, undone⟩ | ⟨frame, member, drives⟩)
    · obtain ⟨earlier, held, ⟨-, -, rfl⟩ | ⟨lost, rfl⟩⟩ := named_finish _ _ _ named
      · cases undone
      · exact lost (sound.distinct name driver.name _ _ held ready same) same
    · rw [frames] at member
      exact idle ⟨frame, member, drives⟩

/-- A poll that drives begins. -/
theorem Shift.push {entry : Entry} {work : Work} (sound : Sound place view)
    (ready : view.Ready driver) (found : view.cell = some cell) (calm : cell.phase ≠ .driven)
    (out : changed.cell = some kept) (nextId : kept.nextId = cell.nextId)
    (named : changed.named = view.named) (frames : changed.frames = view.frames)
    (distinct : changed.Distinct)
    (history : changed.history = entry :: .asked place driver.id driver.waker :: view.history)
    (silent : ∀ id, entry.Silent place id) (unwoken : ∀ id, entry.wakes place id = false)
    (others : ∀ id, id ≠ driver.id → kept.waiting.lookup id = cell.waiting.lookup id)
    (keeps : ∀ waker, kept.waiting.lookup driver.id = some waker →
      waker = driver.waker ∧ entry.leaves place driver.id = true)
    (before : ¬work.Underway → entry.leaves place driver.id = false)
    (after : work.Underway → ∃ count, entry = .polled place count)
    (unanswered : ∀ outcome, entry ≠ .answered place driver.id outcome) :
    Shift place view [entry, .asked place driver.id driver.waker] (changed.push driver work) := by
  have framed : (changed.push driver work).frames = [⟨driver, work⟩] := by
    simp [View.push, frames, sound.calm cell found calm]
  have stands : changed.named driver.name = some ⟨driver.cell, driver.id, false, false⟩ :=
    named ▸ ready
  have drives : (changed.push driver work).Live driver.id :=
    .inr ⟨⟨driver, work⟩, List.mem_cons_self, rfl⟩
  refine .begin sound ready found out nextId distinct history (fun id => (silent id).1) unwoken
    (fun id _ => (silent id).2) others (fun id different => ?_) ?_ ?_ ?_ ?_
  · have same : changed.Live id ↔ view.Live id := by rw [Live, Live, named, frames]
    exact (live_push_iff stands rfl different).trans same
  · exact fun waker held => ⟨(keeps waker held).1, (keeps waker held).2, drives⟩
  · intro frame member _
    have since : sinceAsked place driver.id (changed.push driver work).history = [entry] :=
      history ▸ sinceAsked_begins (silent driver.id).1 driver.waker view.history
    rw [framed, List.mem_singleton] at member
    subst member
    refine ⟨?_, fun waits => ?_, fun goes => ?_⟩
    · rw [latestPoll, since, List.dropWhile_cons_of_pos (by rw [(silent _).2]; rfl)]
      rfl
    · simp [Replay.left, since, before waits]
    · obtain ⟨count, rfl⟩ := after goes
      exact ⟨count, by simp [since]⟩
  · intro frame member different
    rw [framed, List.mem_singleton] at member
    exact absurd (member ▸ rfl) different
  · exact fun outcome ended => absurd ended (unanswered _)

/-- A subscription with a new number is there. -/
theorem Shift.subscribe {name : String} (distinct : view.Distinct) (found : view.cell = some cell)
    (unnamed : view.named name = none) :
    Shift place view [] ((view.modify Cell.subscribe).assign name
      (some ⟨place, cell.nextId, false, false⟩)) := by
  have out : ((view.modify Cell.subscribe).assign name
      (some ⟨place, cell.nextId, false, false⟩)).cell = some cell.subscribe :=
    cell_modify found Cell.subscribe
  refine .quiet rfl (distinct_of_cell out (distinct cell found)) (fun id spent => ?_)
    (fun id waker held => ?_) fun frame member => ⟨frame, member, rfl, .rfl⟩
  · refine spent.keep found out (Nat.le_succ _) fun counted live => live.imp_left ?_
    rintro ⟨other, subscription, named, same, undone⟩
    rcases named_of_assign named with ⟨-, ⟨⟩⟩ | ⟨-, stands⟩
    · exact absurd same.symm (Nat.ne_of_lt counted)
    · exact ⟨other, subscription, stands, same, undone⟩
  · refine ⟨(keeps_iff found).mpr ((keeps_iff out).mp held), fun live => ?_⟩
    have counted : (view.modify Cell.subscribe).Live id := live
    exact live_assign counted fun other stands =>
      absurd (unnamed.symm.trans stands) (by simp)

/-- A subscription that is let go of takes its waker along. -/
theorem Shift.drop {name : String} {subscription : Subscription} (sound : Sound place view)
    (distinct : view.Distinct) (named : view.named name = some subscription) :
    Shift place view [] (view.drop name) := by
  obtain ⟨cell, found⟩ := sound.found_of_named named
  have dropped : view.drop name =
      (view.modify (·.unregister subscription.id)).assign name none := by
    simp [View.drop, named]
  have out : (view.drop name).cell = some (cell.unregister subscription.id) := by
    rw [dropped]
    exact cell_modify found (·.unregister subscription.id)
  refine .quiet (by rw [dropped]; rfl)
    (distinct_of_cell out (nodup_unregister (distinct cell found) subscription.id))
    (fun id spent => ?_) (fun id waker held => ?_) ?_
  · refine spent.keep found out (Nat.le_refl _) fun _ live => ?_
    rw [dropped] at live
    exact live_of_unassign live
  · have kept := (keeps_iff out).mp held
    rw [Cell.lookup_unregister] at kept
    split at kept
    · cases kept
    · next different =>
      refine ⟨(keeps_iff found).mpr kept, fun live => ?_⟩
      have still : (view.modify (·.unregister subscription.id)).Live id := live
      rw [dropped]
      exact live_assign_of_ne named still different
  · rw [dropped]
    exact fun frame member => ⟨frame, member, rfl, .rfl⟩

/-- A computation is made, to which nobody has subscribed yet. -/
theorem Shift.create {phase : Phase Factory Future String} (sound : Sound place view)
    (missing : view.cell = none) :
    Shift place view [] { view with cell := some (.ofPhase phase) } := by
  have quiet := (sound.blank missing).2.1
  refine .quiet rfl ?_ ?_ ?_ (by simp [quiet])
  · rintro cell ⟨⟩
    exact List.nodup_nil
  · rintro id ⟨cell, found, -⟩
    cases missing.symm.trans found
  · rintro id waker ⟨cell, ⟨⟩, held⟩
    cases held

/-- A subscription that loses its name while it is polled is still there until its poll ends. -/
theorem Shift.disown {name : String} {subscription : Subscription} (sound : Sound place view)
    (distinct : view.Distinct) (named : view.named name = some subscription)
    (busy : subscription.busy = true) : Shift place view [] (view.assign name none) := by
  have drives := (sound.fits name subscription named).busy.mp busy
  refine .quiet rfl distinct ?_ ?_ fun frame member => ⟨frame, member, rfl, .rfl⟩
  · exact fun id spent => spent.keep_same rfl live_of_unassign
  · refine fun id waker held => ⟨held, fun live => ?_⟩
    by_cases same : id = subscription.id
    · exact .inr (same ▸ drives)
    · exact live_assign_of_ne named live same

/-- The factory of a computation is asked for it, and nobody waits yet. -/
theorem Shift.start {factory : Factory} (sound : Sound place view) (served : Served place view)
    (distinct : view.Distinct) (here : driver.cell = place) (ready : view.Ready driver)
    (found : view.cell = some cell) (phase : cell.phase = .idle factory) :
    Shift place view [.started place factory.announced, .asked place driver.id driver.waker]
      (((view.ask driver).checkOut.note (.started driver.cell factory.announced)).push driver
        (.starting factory.operations factory.panics factory.future)) := by
  subst here
  have calm : cell.phase ≠ .driven := by simp [phase]
  have nobody : cell.waiting = [] := Decidable.not_not.mp fun waits => by
    obtain ⟨⟨task, parked⟩, -⟩ := served.drained cell found calm waits
    cases phase.symm.trans parked
  have out : ((view.ask driver).checkOut.note
      (.started driver.cell factory.announced)).cell = some { cell with phase := .driven } :=
    cell_checkOut found
  refine .push sound ready found calm out rfl rfl rfl ?_ rfl (fun _ => ⟨rfl, rfl⟩)
    (fun _ => rfl) (fun _ _ => rfl) ?_ (fun _ => rfl) False.elim (by simp)
  · exact distinct_of_cell out (distinct cell found)
  · simp [nobody]

/-- A computation that was put back is polled again, and the driver leaves its waker. -/
theorem Shift.resume {future : Future} (sound : Sound place view) (distinct : view.Distinct)
    (here : driver.cell = place) (ready : view.Ready driver) (found : view.cell = some cell)
    (phase : cell.phase = .parked future) :
    Shift place view [.polled place future.count, .asked place driver.id driver.waker]
      (((view.ask driver).checkOut.enter driver future).push driver
        (Machine.pollWork future)) := by
  subst here
  have out : ((view.ask driver).checkOut.enter driver future).cell =
      some (Cell.prepare { cell with phase := .driven } driver.id driver.waker) :=
    cell_enter (cell_checkOut found) driver future
  refine .push sound ready found (by simp [phase]) out rfl rfl rfl ?_ rfl
    (fun _ => ⟨rfl, rfl⟩) (fun _ => rfl)
    (fun id different => (Cell.lookup_register ..).trans (if_neg different)) ?_
    (fun waits => absurd trivial waits) (fun _ => ⟨_, rfl⟩) (by simp)
  · exact distinct_of_cell out (nodup_register (distinct cell found) driver.id driver.waker)
  · intro waker held
    have registered := (Cell.lookup_register ..).symm.trans held
    rw [if_pos rfl, Option.some.injEq] at registered
    exact ⟨registered.symm, by simp [Entry.leaves]⟩

/-- Every change that an operation makes has its part for each subscription. -/
theorem shift_of_touch {operation : Operation} (sound : Sound place view)
    (served : Served place view) (distinct : view.Distinct)
    (touch : Touch operation place view changed) : ∃ news, Shift place view news changed := by
  cases touch with
  | created missing makes => exact ⟨_, .create sound missing⟩
  | @subscribed cell found name unnamed => exact ⟨_, .subscribe distinct found unnamed⟩
  | @dropped name subscription named calm => exact ⟨_, .drop sound distinct named⟩
  | disowned named busy => exact ⟨_, .disown sound distinct named busy⟩
  | notified =>
      exact Shift.notify distinct view.frames (fun _ => .rfl) fun frame member =>
        ⟨frame, member, rfl, .rfl⟩
  | @waited driver cell here polls ready found phase =>
      refine ⟨_, .answer sound distinct here ready found rfl
        (fun distinct => nodup_register distinct driver.id driver.waker)
        (fun id different => (Cell.lookup_register ..).trans (if_neg different)) ?_⟩
      intro waker held
      rw [Cell.lookup_register, if_pos rfl, Option.some.injEq] at held
      exact ⟨held.symm, rfl⟩
  | @replayed driver cell outcome here polls ready found phase =>
      refine ⟨_, .answer sound distinct here ready found rfl
        (fun distinct => nodup_unregister distinct driver.id)
        (fun id different => (Cell.lookup_unregister ..).trans (if_neg different)) ?_⟩
      intro waker held
      rw [Cell.lookup_unregister, if_pos rfl] at held
      cases held
  | started here polls ready found phase =>
      exact ⟨_, .start sound served distinct here ready found phase⟩
  | resumed here polls ready found phase =>
      exact ⟨_, .resume sound distinct here ready found phase⟩

/-- What is left of a script makes no difference to those who are there. -/
theorem drives_reframe {work later : Work} {below : List Frame}
    (top : view.frames = ⟨driver, work⟩ :: below) (id : Nat) :
    Drives (⟨driver, later⟩ :: below) id ↔ Drives view.frames id := by
  simp [Drives, top]

/-- A driver comes to the computation. -/
theorem Shift.enter {future : Future} (sound : Sound place view) (served : Served place view)
    (distinct : view.Distinct) {below : List Frame}
    (top : view.frames = ⟨driver, .starting [] none future⟩ :: below) :
    Shift place view [.polled driver.cell future.count]
      ({ view with frames := ⟨driver, Machine.pollWork future⟩ :: below }.enter driver future) := by
  have driver_there : ⟨driver, .starting [] none future⟩ ∈ view.frames := by simp [top]
  obtain ⟨rfl, cell, found, -⟩ := sound.found_of_frame top
  have here := sound.frame_home _ driver_there
  dsimp only at here
  subst here
  have out : ({ view with frames := [⟨driver, Machine.pollWork future⟩] }.enter driver
      future).cell = some (cell.prepare driver.id driver.waker) := cell_enter found driver future
  have live : ∀ id, ({ view with frames := [⟨driver, Machine.pollWork future⟩] }.enter driver
      future).Live id ↔ view.Live id := fun id => or_congr_right (drives_reframe top id)
  refine ⟨rfl, ?_, fun id spent => ?_, fun id => ?_⟩
  · exact distinct_of_cell out (nodup_register (distinct cell found) driver.id driver.waker)
  · exact spent.keep found out (Nat.le_refl _) fun _ => (live id).mp
  · have lookup (waker : Waker) : ({ view with frames := [⟨driver, Machine.pollWork future⟩] }.enter
        driver future).Keeps id waker ↔
          (if id = driver.id then some driver.waker else cell.waiting.lookup id) = some waker :=
      (keeps_iff out).trans (by rw [← Cell.lookup_register]; rfl)
    by_cases same : id = driver.id
    · subst same
      refine .enters _ ⟨driver_there, fun goes => goes, served.driver_asked _ driver_there,
        ?_, ?_, ?_⟩
      · intro waker held
        rw [lookup, if_pos rfl, Option.some.injEq] at held
        exact held.symm
      · intro frame member _
        have only : frame = ⟨driver, Machine.pollWork future⟩ := List.mem_singleton.mp member
        rw [only]
        trivial
      · exact (live _).mpr (.inr ⟨_, driver_there, rfl⟩)
    · refine .aside ⟨by simp [Entry.Silent, Entry.waker?, Entry.outcome?], .inl rfl, ?_, ?_⟩
      · intro waker held
        rw [lookup, if_neg same] at held
        exact ⟨(keeps_iff found).mpr held, rfl, (live id).mpr⟩
      · intro frame member drives
        have only : frame = ⟨driver, Machine.pollWork future⟩ := List.mem_singleton.mp member
        rw [only] at drives
        exact absurd drives.symm same

/-- The driver leaves its waker again, just before everybody is woken. -/
theorem Shift.suspend_woken {actions : List Action} {rest : Future} (sound : Sound place view)
    (served : Served place view) (distinct : view.Distinct)
    (top : view.frames = [⟨driver, .polling actions rest⟩]) (found : view.cell = some cell)
    (woken : cell.woken = true) :
    Shift place view
      (.answered place driver.id .pending ::
        wakesOf place ((cell.park rest).register driver.id driver.waker).waiting)
      ((({ view with frames := [] }.modify (·.park rest)).modify
        (·.register driver.id driver.waker)).notify place |>.finish driver .pending) := by
  have there : ⟨driver, .polling actions rest⟩ ∈ view.frames := by simp [top]
  have here := sound.frame_home _ there
  have noticed := served.noticed cell found (.inr ⟨driver.id, _, there, rfl, trivial⟩)
  have again : ({ view with cell := some ((cell.park rest).register driver.id
      driver.waker) } : View).Distinct :=
    distinct_of_cell rfl (nodup_register (distinct cell found) driver.id driver.waker)
  refine .leave_woken sound (.suspended_woken here top found rest) rfl fun id => ?_
  have spares : Spares place _ (wakesOf place _) id := spares_wakesOf again rfl id
  rcases spares with quiet | ⟨woke, waker, held⟩
  · exact .inl (.inl quiet)
  · by_cases same : id = driver.id
    · refine .inr ⟨same, woke, rfl, trivial, ?_⟩
      exact (sincePolled_wakesOf ..).mpr (noticed.mp woken)
    · refine .inl (.inr ⟨woke, waker, (keeps_iff found).mpr ?_⟩)
      have kept := (keeps_iff rfl).mp held
      rw [Cell.lookup_register, if_neg same] at kept
      exact kept

/-- Every change that the poll of the computation makes has its part for each subscription. -/
theorem shift_of_drive {verdict : Option (Nat × Outcome)} (sound : Sound place view)
    (served : Served place view) (distinct : view.Distinct)
    (drive : Drive verdict place view changed) : ∃ news, Shift place view news changed := by
  cases drive with
  | @entered driver future below here goes top => exact ⟨_, .enter sound served distinct top⟩
  | @moved driver work later below here goes played top =>
      have underway : work.Underway ↔ later.Underway := by cases played <;> exact .rfl
      refine ⟨[], .quiet rfl distinct ?_ ?_ ?_⟩
      · exact fun id spent => spent.keep_same rfl (Or.imp_right (drives_reframe top id).mp)
      · exact fun id waker held => ⟨held, Or.imp_right (drives_reframe top id).mpr⟩
      · rw [top]
        rintro frame (_ | ⟨_, member⟩)
        · exact ⟨_, List.mem_cons_self, rfl, underway⟩
        · exact ⟨frame, List.mem_cons_of_mem _ member, rfl, .rfl⟩
  | @woken driver action actions rest below here goes top =>
      refine Shift.notify distinct _ (drives_reframe top) ?_
      rw [top]
      rintro frame (_ | ⟨_, member⟩)
      · exact ⟨_, List.mem_cons_self, rfl, .rfl⟩
      · exact ⟨frame, List.mem_cons_of_mem _ member, rfl, .rfl⟩
  | @resolved driver actions rest below outcome here ends top =>
      obtain ⟨rfl, cell, found, -⟩ := sound.found_of_frame top
      exact ⟨_, .leave_woken sound (.resolved here top found outcome) rfl fun id =>
        .inl (spares_wakesOf distinct found id)⟩
  | @abandoned driver work below message here ends top =>
      obtain ⟨rfl, cell, found, -⟩ := sound.found_of_frame top
      exact ⟨_, .leave_woken sound (.abandoned here top found) rfl fun id =>
        .inl (spares_wakesOf distinct found id)⟩
  | @suspended driver actions rest below cell here goes found top =>
      obtain ⟨rfl, -⟩ := sound.found_of_frame top
      unfold suspend
      cases woken : cell.woken with
      | false =>
          exact ⟨_, .leave sound (.suspended here top found rest) (distinct cell found)
            (fun _ => .inl (.inl rfl)) fun _ _ held => ⟨held, rfl, rfl⟩⟩
      | true =>
          subst here
          exact ⟨_, .suspend_woken sound served distinct top found woken⟩

end View
end Replay
end LinkFacts
