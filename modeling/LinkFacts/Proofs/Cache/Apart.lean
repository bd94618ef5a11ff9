import LinkFacts.Proofs.Cache.Ending
import LinkFacts.Proofs.Cache.Filing
import LinkFacts.Proofs.Cache.Gated

/-!
# Links apart

The computations of all links share one store, one provider and one journal.  Still, what is done
for one link touches its own computation, its own gate and the wakers that are kept there, and
leaves the computations of all other links as they are.
-/

namespace LinkFacts

open Replay (Cell Phase Waker)

namespace Store

variable {store before middle after : Store} {link : Link} {own : Option Waker} {place : Nat}
  {cache : Nat} {watch : Watch} {task : FetchTask}

/-- The entry of no other link is at a place. -/
def Spare (store : Store) (link : Link) (place : Nat) : Prop :=
  ∀ cache other, store.placeOf? cache other = some place → other = link

/-- A waker is kept for a subscription to the computation at a place. -/
def Keeps (store : Store) (place : Nat) (waker : Waker) : Prop :=
  ∃ cell id, store.cells[place]? = some cell ∧ (id, waker) ∈ cell.waiting

/-- Something was done for a link, perhaps by somebody with a waker; nothing else is touched. -/
structure Apart (link : Link) (own : Option Waker) (before after : Store) : Prop where
  places : ∀ cache other, other ≠ link → after.placeOf? cache other = before.placeOf? cache other
  cells : ∀ cache other place cell, other ≠ link → before.placeOf? cache other = some place →
    before.cells[place]? = some cell → after.cells[place]? = some cell
  fetched : ∀ other, other ≠ link → after.fetched.count other = before.fetched.count other
  timing : after.timing = before.timing
  provider : before.provider.Tends link after.provider
  kept : ∀ place waker, after.Keeps place waker → before.Keeps place waker ∨ own = some waker
  journal : ∃ news, after.journal = news ++ before.journal ∧
    ∀ place id waker, Note.woke place id waker ∈ news →
      before.Spare link place ∧ (before.Keeps place waker ∨ own = some waker)

theorem Apart.refl (link : Link) (own : Option Waker) (store : Store) :
    Apart link own store store where
  places _ _ _ := rfl
  cells _ _ _ _ _ _ found := found
  fetched _ _ := rfl
  timing := rfl
  provider := .refl link _
  kept _ _ keeps := .inl keeps
  journal := ⟨[], rfl, nofun⟩

/-- Where other links have their entries does not change, so neither do the spare places. -/
theorem Spare.of_places (spare : after.Spare link place)
    (places : ∀ cache other, other ≠ link →
      after.placeOf? cache other = before.placeOf? cache other) : before.Spare link place := by
  intro cache other held
  by_contra different
  exact different (spare cache other ((places cache other different).trans held))

theorem Apart.spare (apart : Apart link own before after) (spare : before.Spare link place) :
    after.Spare link place :=
  spare.of_places fun cache other different => (apart.places cache other different).symm

theorem Apart.trans (first : Apart link own before middle)
    (second : Apart link own middle after) : Apart link own before after where
  places cache other different :=
    (second.places cache other different).trans (first.places cache other different)
  cells cache other place cell different held found :=
    second.cells cache other place cell different
      ((first.places cache other different).trans held)
      (first.cells cache other place cell different held found)
  fetched other different := (second.fetched other different).trans (first.fetched other different)
  timing := second.timing.trans first.timing
  provider := first.provider.trans second.provider
  kept place waker keeps := by
    obtain earlier | mine := second.kept place waker keeps
    · exact first.kept place waker earlier
    · exact .inr mine
  journal := by
    obtain ⟨old, firstly, early⟩ := first.journal
    obtain ⟨new, secondly, late⟩ := second.journal
    refine ⟨new ++ old, by rw [secondly, firstly, List.append_assoc], ?_⟩
    intro place id waker member
    obtain recent | past := List.mem_append.mp member
    · obtain ⟨spare, keeps | mine⟩ := late place id waker recent
      · exact ⟨spare.of_places first.places, first.kept place waker keeps⟩
      · exact ⟨spare.of_places first.places, .inr mine⟩
    · exact early place id waker past

private theorem Apart.separate (apart : Apart link own before after)
    (separate : before.provider.Separate) : after.provider.Separate :=
  separate.of_gates apart.provider.gates

/-- Each link of each cache has a computation of its own, so that of the link is spare. -/
theorem spare_of_placed (indexed : Indexed store.phase? store.placeOf?)
    (placed : store.placeOf? cache link = some place) : store.Spare link place := by
  intro other key held
  exact (indexed.distinct place other key cache link held placed).2

/-! ## Small changes -/

/-- A line of the log wakes nobody. -/
theorem apart_log {event : LogEvent}
    (mine : ∀ other, Note.fetched? (.logged event) = some other → other = link) :
    Apart link own store (store.log event) where
  places _ _ _ := rfl
  cells _ _ _ _ _ _ found := found
  fetched other different := by
    rw [fetched_log, List.count_append]
    cases fetching : Note.fetched? (.logged event) with
    | none => simp
    | some key =>
        obtain rfl := mine key fetching
        simp [different.symm]
  timing := rfl
  provider := .refl link _
  kept _ _ keeps := .inl keeps
  journal := ⟨[.logged event], rfl, fun place id waker member => by simp at member⟩

theorem apart_provider {provider : Provider} (tends : store.provider.Tends link provider) :
    Apart link own store { store with provider } where
  places _ _ _ := rfl
  cells _ _ _ _ _ _ found := found
  fetched _ _ := rfl
  timing := rfl
  provider := tends
  kept _ _ keeps := .inl keeps
  journal := ⟨[], rfl, nofun⟩

/-- The computation at a spare place may be changed; it keeps wakers that it kept before. -/
theorem apart_modifyCell (spare : store.Spare link place) (change : FetchCell → FetchCell)
    (keeps : ∀ cell, store.cells[place]? = some cell → ∀ id waker,
      (id, waker) ∈ (change cell).waiting →
        (∃ other, (other, waker) ∈ cell.waiting) ∨ own = some waker) :
    Apart link own store (store.modifyCell place change) where
  places _ _ _ := rfl
  cells cache other spot cell different held found := by
    have elsewhere : place ≠ spot := by
      rintro rfl
      exact different (spare cache other held)
    simp [modifyCell, elsewhere, found]
  fetched _ _ := rfl
  timing := rfl
  provider := .refl link _
  kept spot waker := by
    rintro ⟨cell, id, found, member⟩
    simp only [modifyCell, List.getElem?_modify] at found
    split at found
    · next same =>
      subst same
      obtain ⟨earlier, here, rfl⟩ := Option.map_eq_some_iff.mp found
      obtain ⟨other, there⟩ | mine := keeps earlier here id waker member
      · exact .inl ⟨earlier, other, here, there⟩
      · exact .inr mine
    · exact .inl ⟨cell, id, by simpa using found, member⟩
  journal := ⟨[], rfl, nofun⟩

private theorem apart_noteWakes (spare : store.Spare link place) {waiting : List (Nat × Waker)}
    (keeps : ∀ id waker, (id, waker) ∈ waiting → store.Keeps place waker ∨ own = some waker) :
    Apart link own store (store.noteWakes place waiting) where
  places _ _ _ := rfl
  cells _ _ _ _ _ _ found := found
  fetched other different := by rw [(grows_noteWakes store place waiting).fetched, List.nil_append]
  timing := rfl
  provider := .refl link _
  kept _ _ keeps := .inl keeps
  journal := by
    refine ⟨_, rfl, fun spot id waker member => ?_⟩
    obtain ⟨entry, there, same⟩ := List.mem_map.mp member
    cases same
    exact ⟨spare, keeps entry.1 entry.2 (List.mem_reverse.mp there)⟩

private theorem keeps_of_mem {cell : FetchCell} {id : Nat} {waker : Waker}
    (found : store.cells[place]? = some cell) (member : (id, waker) ∈ cell.waiting) :
    store.Keeps place waker :=
  ⟨cell, id, found, member⟩

/-- Those are woken whose wakers are kept at the place. -/
theorem apart_notify (spare : store.Spare link place) :
    Apart link own store (store.notify place) := by
  unfold notify
  split
  · next cell found =>
    have noted : Apart link own store (store.noteWakes place cell.waiting) :=
      apart_noteWakes spare fun id waker member => .inl (keeps_of_mem found member)
    exact noted.trans (apart_modifyCell (noted.spare spare) _ fun _ _ _ _ member => by cases member)
  · exact .refl link own store

private theorem apart_wakeWhere (test : FetchTask → Bool)
    (spare : ∀ place task, store.phase? place = some (.parked task) → test task = true →
      store.Spare link place) :
    Apart link own store (store.wakeWhere test) := by
  have spares : ∀ place ∈ store.placesWhere (waitsFor test), store.Spare link place := by
    intro place member
    have waits := (List.mem_filter.mp member).2
    obtain ⟨cell, found, tested⟩ : ∃ cell, store.cells[place]? = some cell ∧
        waitsFor test cell = true := by
      cases found : store.cells[place]? with
      | none => simp [found] at waits
      | some cell => exact ⟨cell, rfl, by simpa [found] using waits⟩
    unfold waitsFor at tested
    split at tested
    · next task parked => exact spare place task (by simp [phase?, found, parked]) tested
    · cases tested
  unfold wakeWhere
  generalize store.placesWhere (waitsFor test) = places at spares
  clear spare
  induction places generalizing store with
  | nil => exact .refl link own store
  | cons place rest ih =>
      have notified : Apart link own store (store.notify place) :=
        apart_notify (spares place List.mem_cons_self)
      exact notified.trans (ih fun spot member =>
        notified.spare (spares spot (List.mem_cons_of_mem _ member)))

/-! ## Requests -/

theorem apart_unwatch (spare : store.Spare link watch.place) :
    Apart link own store (store.unwatch watch) :=
  apart_modifyCell spare _ fun _ _ _ _ member => .inl ⟨_, (List.mem_filter.mp member).1⟩

private theorem apart_addCell (cell : FetchCell) (nobody : cell.waiting = []) :
    Apart link own store (store.addCell cell) where
  places _ _ _ := rfl
  cells _ _ place earlier _ _ found := by
    obtain ⟨inside, -⟩ := List.getElem?_eq_some_iff.mp found
    exact (List.getElem?_append_left inside).trans found
  fetched _ _ := rfl
  timing := rfl
  provider := .refl link _
  kept place waker := by
    rintro ⟨there, id, found, member⟩
    simp only [addCell, List.getElem?_append] at found
    split at found
    · exact .inl ⟨there, id, found, member⟩
    · have same : cell = there := List.mem_singleton.mp (List.mem_of_getElem? found) |>.symm
      rw [← same, nobody] at member
      cases member
  journal := ⟨[], rfl, nofun⟩

theorem apart_entry (inside : cache < store.caches.length) :
    Apart link own store (store.entry cache link).2 := by
  cases there : store.placeOf? cache link with
  | some place =>
      have same : (store.entry cache link).2 = store := by simp [entry, there]
      rw [same]
      exact .refl link own store
  | none =>
      have logged : Apart link own store (store.log (.creating link)) := 
        apart_log fun other none => by cases none
      have added : Apart link own store
          ((store.log (.creating link)).addCell (.ofPhase (.idle link))) :=
        logged.trans (apart_addCell _ rfl)
      have made := placeOf?_entry inside there
      simp only [entry, there] at made ⊢
      exact {
        places := fun other key different => by rw [made, if_neg fun same => different same.2]
        cells := added.cells
        fetched := added.fetched
        timing := rfl
        provider := .refl link _
        kept := added.kept
        journal := added.journal }

theorem apart_watch (indexed : Indexed store.phase? store.placeOf?)
    (inside : cache < store.caches.length) :
    Apart link own store (store.watch cache link).2 := by
  have requested : Apart link own store (store.entry cache link).2 := apart_entry inside
  have step : Step .nothing store (store.entry cache link).2 := step_entry inside
  have spare := spare_of_placed (step.indexed indexed) (placeOf?_entry_self inside)
  exact requested.trans (apart_modifyCell spare _ fun _ _ id _ member => .inl ⟨id, member⟩)

/-! ## Polls -/

private theorem apart_settle (spare : store.Spare link watch.place) (answer : Fetched) :
    Apart link own store (store.settle watch answer).2.2 := by
  have logged : Apart link own store (store.log (eventOf answer)) :=
    apart_log fun other fetching => by cases (silent_eventOf answer).symm.trans fetching
  let waiting := ((store.cells[watch.place]?).map Cell.waiting).getD []
  have waits : ∀ id waker, (id, waker) ∈ waiting →
      (store.log (eventOf answer)).Keeps watch.place waker ∨ own = some waker := by
    intro id waker member
    cases found : store.cells[watch.place]? with
    | none => simp [waiting, found] at member
    | some cell => exact .inl ⟨cell, id, found, by simpa [waiting, found] using member⟩
  have noted := logged.trans (apart_noteWakes (logged.spare spare) waits)
  have ended := noted.trans (apart_modifyCell (noted.spare spare) (·.settle (sourceOf answer))
    fun _ _ _ _ member => by cases member)
  exact ended.trans (apart_unwatch (ended.spare spare))

private theorem apart_await (spare : store.Spare link watch.place) (task : FetchTask) :
    Apart link own store (store.await watch task).2.2 := by
  unfold await
  split
  · exact apart_settle spare _
  · exact apart_modifyCell spare _ fun _ _ id _ member => .inl ⟨id, member⟩

private theorem apart_begin (spare : store.Spare link watch.place)
    (separate : store.provider.Separate) :
    Apart link own store (store.begin watch link).2.2 := by
  have logged : Apart link own store (store.log (.fetching link)) :=
    apart_log fun other fetching => (Option.some.inj fetching).symm
  have asked : Apart link own store (store.asked link) :=
    logged.trans (apart_provider (Provider.tends_begin separate link))
  have still := asked.spare spare
  unfold begin
  dsimp only
  split
  · exact asked.trans (apart_settle still _)
  · exact asked.trans (apart_await still _)

private theorem apart_resume (spare : store.Spare link watch.place) (task : FetchTask) :
    Apart link own store (store.resume watch task).2.2 := by
  have polled : Apart link own store { store with provider := store.provider.polled } :=
    apart_provider (Provider.tends_polled link _)
  have still := polled.spare spare
  unfold resume
  dsimp only
  split
  · exact polled.trans (apart_settle still _)
  · exact polled.trans (apart_await still task)

private theorem waiting_register {cell : FetchCell} {id other : Nat} {waker kept : Waker}
    (member : (other, kept) ∈ (cell.register id waker).waiting) :
    (∃ id, (id, kept) ∈ cell.waiting) ∨ some waker = some kept := by
  obtain same | there := List.mem_cons.mp member
  · cases same
    exact .inr rfl
  · exact .inl ⟨other, (List.mem_filter.mp there).1⟩

/-- A subscription that finds a computation keeps no waker but its own. -/
theorem waiting_approach {cell : FetchCell} {id other : Nat} {waker kept : Waker}
    (member : (other, kept) ∈ (cell.approach id waker).2.waiting) :
    (∃ id, (id, kept) ∈ cell.waiting) ∨ some waker = some kept := by
  unfold Cell.approach at member
  split at member
  · exact .inl ⟨other, member⟩
  · exact .inl ⟨other, member⟩
  · exact waiting_register member
  · exact .inl ⟨other, (List.mem_filter.mp member).1⟩
  · exact .inl ⟨other, (List.mem_filter.mp member).1⟩

/-- A subscription to the entry of a link is polled for this link. -/
theorem apart_poll (indexed : Indexed store.phase? store.placeOf?)
    (separate : store.provider.Separate)
    (placed : store.placeOf? cache link = some watch.place) (waker : Waker) :
    Apart link (some waker) store (store.poll watch waker).2.2 := by
  have spare := spare_of_placed indexed placed
  unfold poll
  split
  · exact .refl link _ store
  · split
    · exact .refl link _ store
    · next cell here =>
      obtain ⟨phase, found, about⟩ := indexed.placed cache link _ placed
      have phased : cell.phase = phase := by simpa [phase?, here] using found
      have moved : Apart link (some waker) store
          (store.modifyCell watch.place fun _ => (cell.approach watch.id waker).2) := by
        refine apart_modifyCell spare _ fun other there id kept member => ?_
        cases here.symm.trans there
        exact waiting_approach member
      have prepared := moved.trans (apart_modifyCell (moved.spare spare)
        (·.prepare watch.id waker) fun _ _ _ _ member => waiting_register member)
      have still := prepared.spare spare
      dsimp only
      split
      · exact moved
      · exact moved
      · next key starts =>
        have mine : key = link := by
          rw [← phased, phase_of_start starts] at about
          exact about
        subst mine
        exact prepared.trans (apart_begin still (prepared.separate separate))
      · exact prepared.trans (apart_resume still _)

/-! ## Gates -/

/-- The gate of a link is settled for this link. -/
theorem apart_release {gate : Nat} (indexed : Indexed store.phase? store.placeOf?)
    (tied : store.Tied) (known : store.provider.isKnown = true)
    (mine : ∀ other, store.provider.gateOf? other = some gate → other = link)
    (state : GateState) : Apart link own store (store.release gate state) := by
  have settled : Apart link own store
      { store with provider := store.provider.release gate state } :=
    apart_provider (Provider.tends_release mine state)
  refine settled.trans (apart_wakeWhere _ fun place task waits here => settled.spare ?_)
  intro cache other held
  obtain ⟨phase, found, about⟩ := indexed.placed cache other place held
  cases waits.symm.trans found
  have gated : store.provider.gateOf? task.link = some gate := by
    rw [tied place task waits known, eq_of_beq here]
  exact about ▸ mine task.link gated

/-! ## What the other links see -/

section Others

variable {other : Link} {phase : FetchPhase}

theorem Apart.cell (apart : Apart link own before after) (different : other ≠ link)
    (placed : before.placeOf? cache other = some place)
    (found : before.phase? place = some phase) : after.cells[place]? = before.cells[place]? := by
  obtain ⟨cell, here, -⟩ := Option.map_eq_some_iff.mp found
  rw [here]
  exact apart.cells cache other place cell different placed here

/-- A provider of which enough is known says the same of the fetches of another link. -/
theorem Apart.says? (apart : Apart link own before after)
    (known : before.provider.isKnown = true) (different : other ≠ link)
    (about : About other phase) (fits : ∀ task, phase = .parked task → before.FitsGate task) :
    after.says? phase = before.says? phase := by
  cases phase with
  | idle key =>
      cases about
      simp only [Store.says?, apart.provider.begins known _ different]
  | parked task =>
      cases about
      exact apart.provider.answers known _ task.gate different (fits task rfl known)
  | driven | resolved | completed => rfl

/-- What a poll gives is a matter of the computation, the time, and what the provider says. -/
theorem fst_poll_congr (phases : after.phase? watch.place = before.phase? watch.place)
    (found : before.phase? watch.place = some phase) (calm : phase ≠ .driven)
    (timing : after.timing = before.timing) (said : after.says? phase = before.says? phase)
    (waker : Waker) : (after.poll watch waker).1 = (before.poll watch waker).1 := by
  obtain ⟨timeout, clock⟩ := Prod.mk.inj timing
  have deadline : after.deadline? phase = before.deadline? phase := by
    cases phase <;> simp only [deadline?, timeout, clock]
  have ending : after.ending? phase = before.ending? phase := by
    simp only [ending?, said, deadline, clock]
  have verdict : after.verdict? phase = before.verdict? phase := by
    cases phase <;> simp only [verdict?, ending]
  cases done : watch.done with
  | true => rw [poll_of_done done, poll_of_done done]
  | false =>
      obtain ⟨_, -, later⟩ := gives_poll done (phases.trans found) calm waker
      obtain ⟨_, -, earlier⟩ := gives_poll done found calm waker
      rw [later.answers, earlier.answers, verdict]

end Others

end Store
end LinkFacts
