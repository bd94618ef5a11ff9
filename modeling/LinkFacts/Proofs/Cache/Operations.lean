import LinkFacts.Proofs.Cache.Step

/-!
# The steps of the operations

What each operation of a store does to the computations of the links: most of them leave these
alone, a request for a link may add its computation, and only a poll moves one on.
-/

namespace LinkFacts

open Replay (Cell Phase Stage Waker)

theorem Scripted.calls_begin (scripted : Scripted) (link : Link) :
    (scripted.begin link).2.calls = link :: scripted.calls := by
  unfold begin
  dsimp only
  split
  · rfl
  · rfl
  · rfl
  · unfold approach
    split
    · dsimp only
      split <;> rfl
    · rfl

theorem Scripted.calls_release (scripted : Scripted) (gate : Nat) (state : GateState) :
    (scripted.release gate state).calls = scripted.calls := by
  unfold release
  split <;> rfl

theorem Provider.calls?_begin (provider : Provider) (link : Link) :
    (provider.begin link).2.calls? = provider.calls?.map (link :: ·) := by
  cases provider with
  | fixture document => rfl
  | scripted script => exact congrArg some (script.calls_begin link)
  | oracle unknown => rfl

private theorem Provider.calls?_release (provider : Provider) (gate : Nat) (state : GateState) :
    (provider.release gate state).calls? = provider.calls? := by
  cases provider with
  | fixture document => rfl
  | scripted script => exact congrArg some (script.calls_release gate state)
  | oracle unknown => rfl

private theorem Provider.calls?_polled (provider : Provider) :
    provider.polled.calls? = provider.calls? := by
  cases provider <;> rfl

namespace Store

variable {store before middle after : Store}

theorem Quiet.refl (store : Store) : Quiet store store := ⟨rfl, rfl, .refl store⟩

theorem Quiet.trans (first : Quiet before middle) (second : Quiet middle after) :
    Quiet before after where
  phases := second.phases.trans first.phases
  places := second.places.trans first.places
  grows := first.grows.trans second.grows

theorem Sets.trans {place : Nat} {phase later : FetchPhase} {news more : List Link}
    (first : Sets place phase news before middle) (second : Sets place later more middle after) :
    Sets place later (more ++ news) before after where
  phases := by rw [second.phases, first.phases, Function.update_idem]
  places := second.places.trans first.places
  grows := first.grows.trans second.grows

private theorem Sets.quiet {place : Nat} {phase : FetchPhase} {news : List Link}
    (first : Sets place phase news before middle) (second : Quiet middle after) :
    Sets place phase news before after where
  phases := second.phases.trans first.phases
  places := second.places.trans first.places
  grows := first.grows.trans second.grows

private theorem Sets.after_quiet {place : Nat} {phase : FetchPhase} {news : List Link}
    (first : Quiet before middle) (second : Sets place phase news middle after) :
    Sets place phase news before after where
  phases := by rw [second.phases, first.phases]
  places := second.places.trans first.places
  grows := by simpa using first.grows.trans second.grows

theorem Sets.found {place : Nat} {phase : FetchPhase} {news : List Link}
    (sets : Sets place phase news before after) : after.phase? place = some phase := by
  rw [sets.phases, Function.update_self]

/-! ## Operations that leave the computations alone -/

theorem quiet_log {event : LogEvent} (silent : Note.fetched? (.logged event) = none) :
    Quiet store (store.log event) :=
  ⟨rfl, rfl, grows_log store silent⟩

private theorem quiet_noteWakes (place : Nat) (waiting : List (Nat × Waker)) :
    Quiet store (store.noteWakes place waiting) :=
  ⟨rfl, rfl, grows_noteWakes store place waiting⟩

private theorem quiet_modifyCell (place : Nat) (change : FetchCell → FetchCell)
    (keeps : ∀ cell, (change cell).phase = cell.phase) :
    Quiet store (store.modifyCell place change) :=
  ⟨phase?_modifyCell_of_keeps keeps, rfl, grows_modifyCell store place change⟩

theorem quiet_subscribe (place : Nat) : Quiet store (store.subscribe place).2 :=
  quiet_modifyCell _ _ fun _ => rfl

theorem quiet_unwatch (watch : Watch) : Quiet store (store.unwatch watch) :=
  quiet_modifyCell _ _ fun _ => rfl

private theorem quiet_notify (place : Nat) : Quiet store (store.notify place) := by
  unfold notify
  split
  · exact (quiet_noteWakes place _).trans (quiet_modifyCell _ _ fun _ => rfl)
  · exact .refl store

private theorem quiet_wakeWhere (test : FetchTask → Bool) : Quiet store (store.wakeWhere test) := by
  unfold wakeWhere
  generalize store.placesWhere (waitsFor test) = places
  induction places generalizing store with
  | nil => exact .refl store
  | cons place places ih => exact (quiet_notify place).trans ih

theorem quiet_release (gate : Nat) (state : GateState) :
    Quiet store (store.release gate state) := by
  have settled : Quiet store { store with provider := store.provider.release gate state } :=
    ⟨rfl, rfl, rfl, by simp [Provider.calls?_release], Nat.le_refl _⟩
  exact settled.trans (quiet_wakeWhere _)

theorem quiet_advance (duration : Nat) : Quiet store (store.advance duration) := by
  have passed : Quiet store { store with clock := store.clock + duration } :=
    ⟨rfl, rfl, rfl, by simp, Nat.le_refl _⟩
  exact passed.trans (quiet_wakeWhere _)

/-- A new cache has no entries. -/
theorem quiet_newCache : Quiet store { store with caches := store.caches ++ [[]] } where
  phases := rfl
  places := by
    funext cache link
    unfold placeOf?
    rcases Nat.lt_trichotomy cache store.caches.length with before | same | after
    · rw [List.getElem?_append_left before]
    · subst same
      simp
    · rw [List.getElem?_eq_none_iff.mpr (Nat.le_of_lt after),
        List.getElem?_eq_none_iff.mpr (by simp; omega)]
  grows := ⟨rfl, by simp, by simp⟩

/-! ## Requests for a link -/

section Request

variable {demand : Demand} {cache : Nat} {link : Link}

theorem placeOf?_entry (inside : cache < store.caches.length)
    (missing : store.placeOf? cache link = none) (other : Nat) (key : Link) :
    (store.entry cache link).2.placeOf? other key =
      if other = cache ∧ key = link then some store.cells.length else store.placeOf? other key := by
  have made : (store.entry cache link).2.caches =
      store.caches.modify cache ((link, store.cells.length) :: ·) := by
    simp [entry, missing, addCell, log]
  unfold placeOf?
  rw [made, List.getElem?_modify]
  by_cases same : cache = other
  · subst same
    obtain ⟨entries, found⟩ : ∃ entries, store.caches[cache]? = some entries :=
      ⟨_, List.getElem?_eq_getElem inside⟩
    simp only [found, if_true, Option.bind_some, true_and]
    exact Naming.lookup_cons_ite key link store.cells.length entries
  · simp [same, Ne.symm same]

/-- A request for a link makes its computation unless it is there. -/
theorem step_entry (inside : cache < store.caches.length) :
    Step demand store (store.entry cache link).2 := by
  cases there : store.placeOf? cache link with
  | some place =>
      have same : (store.entry cache link).2 = store := by simp [entry, there]
      exact same.symm ▸ .quiet (.refl store)
  | none =>
      refine .create (phase?_length store) there ?_ (placeOf?_entry inside there) ?_
      · simp only [entry, there]
        exact phase?_addCell _
      · have grows : Grows [] store (store.log (.creating link)) := grows_log store rfl
        simp only [entry, there]
        exact ⟨grows.fetched, grows.calls, by simp [addCell, log]⟩

theorem placeOf?_entry_self (inside : cache < store.caches.length) :
    (store.entry cache link).2.placeOf? cache link = some (store.entry cache link).1 := by
  cases there : store.placeOf? cache link with
  | some place => simp [entry, there]
  | none =>
      rw [placeOf?_entry inside there, if_pos ⟨rfl, rfl⟩]
      simp [entry, there]

/-- A subscription to a link is one to the computation of its entry. -/
theorem placeOf?_watch (inside : cache < store.caches.length) :
    (store.watch cache link).2.placeOf? cache link = some (store.watch cache link).1.place :=
  placeOf?_entry_self inside

theorem steps_watch (inside : cache < store.caches.length) :
    Steps demand store (store.watch cache link).2 :=
  .tail (.single (step_entry inside)) (.quiet (quiet_subscribe _))

end Request

/-! ## Polling -/

section Poll

variable {watch : Watch} {link : Link} {task : FetchTask} {phase : FetchPhase}

theorem silent_eventOf (answer : Fetched) : Note.fetched? (.logged (eventOf answer)) = none := by
  cases answer with
  | error failure => rfl
  | ok facts =>
      by_cases empty : facts.isEmpty <;> simp [eventOf, empty, Note.fetched?]

private theorem sets_modifyCell {place : Nat} {earlier : FetchPhase}
    (change : FetchCell → FetchCell)
    (found : store.phase? place = some earlier) (sets : ∀ cell, (change cell).phase = phase) :
    Sets place phase [] store (store.modifyCell place change) :=
  ⟨phase?_modifyCell_of_sets found sets, rfl, grows_modifyCell store place change⟩

theorem sets_settle (found : store.phase? watch.place = some phase) (answer : Fetched) :
    Sets watch.place (Cell.settledPhase (sourceOf answer)) [] store
      (store.settle watch answer).2.2 := by
  have logged : Quiet store (store.log (eventOf answer)) := quiet_log (silent_eventOf answer)
  have noted := logged.trans
    (quiet_noteWakes watch.place (((store.cells[watch.place]?).map Cell.waiting).getD []))
  have ended := sets_modifyCell (·.settle (sourceOf answer)) (by rw [noted.phases, found])
    fun _ => rfl
  exact (ended.after_quiet noted).quiet (quiet_unwatch watch)

/-- What a poll of an unfinished fetch leaves behind, with the subscription that polled. -/
inductive Settles (watch : Watch) (task : FetchTask) (later : FetchPhase) (polled : Watch) : Prop
  | still (phase : later = .parked task) (same : polled = watch)
  | ended (outcome : Option Source) (phase : later = Cell.settledPhase outcome)
      (done : polled = { watch with done := true })

private theorem sets_await (found : store.phase? watch.place = some phase) :
    ∃ later, Settles watch task later (store.await watch task).2.1 ∧
      Sets watch.place later [] store (store.await watch task).2.2 := by
  unfold await
  split
  · exact ⟨_, .ended _ rfl rfl, sets_settle found _⟩
  · exact ⟨_, .still rfl rfl, sets_modifyCell _ found fun _ => rfl⟩

/-- The store once the provider was asked for a link. -/
def asked (store : Store) (link : Link) : Store :=
  { store.log (.fetching link) with provider := (store.provider.begin link).2 }

theorem begin_of_answered {answer : Fetched}
    (begun : (store.provider.begin link).1 = .answered answer) :
    store.begin watch link = (store.asked link).settle watch answer := by
  simp [begin, begun, asked]

theorem begin_of_waits {gate : Nat} (begun : (store.provider.begin link).1 = .waits gate) :
    store.begin watch link = (store.asked link).await watch
      ⟨link, gate, store.timeout.map (store.clock + ·)⟩ := by
  simp [begin, begun, asked]

private theorem sets_begin (found : store.phase? watch.place = some phase) :
    ∃ task later, task.link = link ∧ Settles watch task later (store.begin watch link).2.1 ∧
      Sets watch.place later [link] store (store.begin watch link).2.2 := by
  have grows : Grows [link] store (store.asked link) :=
    ⟨fetched_log store _, Provider.calls?_begin _ link, Nat.le_refl _⟩
  have kept : (store.asked link).phase? watch.place = some phase := found
  cases begun : (store.provider.begin link).1 with
  | answered answer =>
      have sets := sets_settle kept answer
      rw [begin_of_answered begun]
      exact ⟨⟨link, 0, none⟩, _, rfl, .ended _ rfl rfl, sets.phases, sets.places,
        grows.trans sets.grows⟩
  | waits gate =>
      obtain ⟨later, settles, sets⟩ := sets_await kept
      rw [begin_of_waits begun]
      exact ⟨_, later, rfl, settles, sets.phases, sets.places, grows.trans sets.grows⟩

private theorem sets_resume (found : store.phase? watch.place = some phase) :
    ∃ later, Settles watch task later (store.resume watch task).2.1 ∧
      Sets watch.place later [] store (store.resume watch task).2.2 := by
  have polled : Quiet store { store with provider := store.provider.polled } :=
    ⟨rfl, rfl, rfl, by simp [Provider.calls?_polled], Nat.le_refl _⟩
  have kept : { store with provider := store.provider.polled }.phase? watch.place = some phase :=
    found
  unfold resume
  dsimp only
  split
  · exact ⟨_, .ended _ rfl rfl, (sets_settle kept _).after_quiet polled⟩
  · obtain ⟨later, settles, sets⟩ := sets_await kept
    exact ⟨later, settles, sets.after_quiet polled⟩

/-- What a poll of a subscription does, by what it finds. -/
inductive Polling (store : Store) (watch : Watch) (polled : Watch × Store) : Prop
  | finished (done : watch.done = true) (same : polled = (watch, store))
  | nothing (missing : store.phase? watch.place = none) (same : polled = (watch, store))
  | waits (found : store.phase? watch.place = some .driven) (same : polled.1 = watch)
      (quiet : Quiet store polled.2)
  | replayed (outcome : Option Source)
      (found : store.phase? watch.place = some (Cell.settledPhase outcome))
      (done : polled.1 = { watch with done := true }) (quiet : Quiet store polled.2)
  | begun {link : Link} {task : FetchTask} {later : FetchPhase} (live : watch.done = false)
      (found : store.phase? watch.place = some (.idle link)) (about : task.link = link)
      (settles : Settles watch task later polled.1)
      (sets : Sets watch.place later [link] store polled.2)
  | resumed {task : FetchTask} {later : FetchPhase} (live : watch.done = false)
      (found : store.phase? watch.place = some (.parked task))
      (settles : Settles watch task later polled.1) (sets : Sets watch.place later [] store polled.2)

theorem poll_cases (store : Store) (watch : Watch) (waker : Waker) :
    Polling store watch (store.poll watch waker).2 := by
  unfold poll
  split
  · next done => exact .finished done rfl
  · next unfinished =>
    have live : watch.done = false := (Bool.not_eq_true _).mp unfinished
    split
    · next missing => exact .nothing (by simp [phase?, missing]) rfl
    · next cell here =>
      have found : store.phase? watch.place = some cell.phase := by simp [phase?, here]
      have driven := (sets_modifyCell (fun _ => { cell with phase := .driven }) found
        fun _ => rfl).quiet (quiet_modifyCell watch.place (·.prepare watch.id waker) fun _ => rfl)
      have keeps (after : FetchCell) (same : after.phase = cell.phase) :
          Quiet store (store.modifyCell watch.place fun _ => after) := by
        refine ⟨?_, rfl, grows_modifyCell store _ _⟩
        rw [phase?_modifyCell_of_sets found fun _ => same, ← found, Function.update_eq_self]
      cases phase : cell.phase with
      | idle link =>
          obtain ⟨task, later, about, settles, sets⟩ := sets_begin driven.found
          simp only [Cell.approach, phase]
          exact .begun live (found.trans (congrArg some phase)) about settles (driven.trans sets)
      | parked task =>
          obtain ⟨later, settles, sets⟩ := sets_resume driven.found
          simp only [Cell.approach, phase]
          exact .resumed live (found.trans (congrArg some phase)) settles (driven.trans sets)
      | driven =>
          simp only [Cell.approach, phase]
          exact .waits (found.trans (congrArg some phase)) rfl (keeps _ rfl)
      | resolved source =>
          simp only [Cell.approach, phase]
          exact .replayed (some source) (found.trans (congrArg some phase)) rfl (keeps _ rfl)
      | completed =>
          simp only [Cell.approach, phase]
          exact .replayed none (found.trans (congrArg some phase)) rfl (keeps _ rfl)

theorem step_poll (store : Store) (watch : Watch) (waker : Waker) :
    Step (.poll watch.place) store (store.poll watch waker).2.2 := by
  cases poll_cases store watch waker with
  | finished _ same | nothing _ same => exact .quiet (same ▸ .refl store)
  | waits _ _ quiet | replayed _ _ _ quiet => exact .quiet quiet
  | begun _ found about settles sets =>
      subst about
      cases settles with
      | still phase => exact .polled rfl found (phase ▸ .waits _ _ _) sets
      | ended outcome phase => exact .polled rfl found (phase ▸ .answered _ outcome) sets
  | @resumed task later _ found settles sets =>
      cases settles with
      | still phase => exact .polled rfl found (phase ▸ .still task) sets
      | ended outcome phase => exact .polled rfl found (phase ▸ .ended task outcome) sets

theorem place_poll (store : Store) (watch : Watch) (waker : Waker) :
    (store.poll watch waker).2.1.place = watch.place := by
  cases poll_cases store watch waker with
  | finished _ same | nothing _ same => rw [same]
  | waits _ same _ => rw [same]
  | replayed _ _ done _ => rw [done]
  | begun _ _ _ settles _ | resumed _ _ settles _ =>
      cases settles with
      | still _ same => rw [same]
      | ended _ _ done => rw [done]

theorem fetchOnce_snd (store : Store) (link : Link) :
    (store.fetchOnce link).2 = { store with provider := (store.provider.begin link).2 } := by
  unfold fetchOnce
  dsimp only
  split <;> rfl

theorem step_fetchOnce (store : Store) (link : Link) :
    Step (.fetch link) store (store.fetchOnce link).2 := by
  rw [fetchOnce_snd]
  exact .called rfl rfl rfl rfl (Nat.le_refl _)

end Poll

end Store
end LinkFacts
