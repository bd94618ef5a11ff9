import LinkFacts.Proofs.Cache.Watching
import LinkFacts.Session.Run

/-!
# The steps of a session

Every operation of a session is a row of steps of its store that serves one demand, and leaves the
names of the session standing for things that the store has.
-/

namespace LinkFacts

open Replay (Cell Phase Stage Waker)
open Naming (put remove lookup_of_put lookup_of_remove)
open Store (Demand Steps Quiet Indexed)

/-- An operation looks at a session and does nothing else. -/
def SessionOperation.looks : SessionOperation → Bool
  | contains .. | size .. | calls | callsFor .. | identify .. | element .. | mountInfo ..
  | component .. | describeCache .. | describeMounter | describeMount .. => true
  | _ => false

namespace Session

/-- What an operation asks of the provider. -/
def demand (session : Session) : SessionOperation → Demand
  | .poll name _ | .value name =>
    match session.watches.lookup name with
    | some watch => .poll watch.place
    | none => .nothing
  | .pollMount name _ | .collectMount name =>
    match session.mounts.lookup name with
    | some mount => .poll mount.watch.place
    | none => .nothing
  | .fetch href =>
    match Link.ofTarget href with
    | .ok link => .fetch link
    | .error _ => .nothing
  | _ => .nothing

/-- The names of a session stand for things that its store has, and its store is in order. -/
structure Sound (session : Session) : Prop where
  indexed : Indexed session.page.store.phase? session.page.store.placeOf?
  home : Page.cache < session.page.store.caches.length
  caches : ∀ name cache, session.caches.lookup name = some cache →
    cache < session.page.store.caches.length
  watches : ∀ name watch, session.watches.lookup name = some watch →
    session.page.store.Holds watch
  mounts : ∀ name mount, session.mounts.lookup name = some mount →
    session.page.store.Holds mount.watch

/-- One session follows another by steps of the store and by new names for what the store has. -/
structure Follows (demand : Demand) (session after : Session) : Prop where
  steps : Steps demand session.page.store after.page.store
  caches : ∀ name cache, after.caches.lookup name = some cache →
    (∃ other, session.caches.lookup other = some cache) ∨
      cache < after.page.store.caches.length
  watches : ∀ name watch, after.watches.lookup name = some watch →
    session.watches.lookup name = some watch ∨ after.page.store.Holds watch
  mounts : ∀ name mount, after.mounts.lookup name = some mount →
    session.mounts.lookup name = some mount ∨ after.page.store.Holds mount.watch

variable {session middle after : Session} {demand : Demand} {name : String}
  {operation : SessionOperation}

/-! ## Looking -/

/-- An action on a link changes what it changes, if the link is there. -/
theorem keeps_withLink {α : Type} (view : Session → α) {cache href : String}
    {action : Nat → Link → SessionAnswer × Session}
    (keeps : ∀ place link, view (action place link).2 = view session) :
    view (session.withLink cache href action).2 = view session := by
  unfold withLink
  split
  · rfl
  · split
    · rfl
    · exact keeps _ _

private theorem snd_withElement {action : Nat → Anchor → SessionAnswer × Session}
    (looks : ∀ place anchor, (action place anchor).2 = session) :
    (session.withElement name action).2 = session := by
  unfold withElement
  split
  · rfl
  · split
    · exact looks _ _
    · rfl

private theorem snd_withMount {action : Mount → SessionAnswer × Session}
    (looks : ∀ mount, (action mount).2 = session) :
    (session.withMount name action).2 = session := by
  unfold withMount
  split
  · rfl
  · exact looks _

/-- To look at a session changes nothing. -/
theorem snd_perform_of_looks (looks : operation.looks = true) :
    (session.perform operation).2 = session := by
  cases operation with
  | contains cache href =>
      simp only [perform]
      exact keeps_withLink id fun _ _ => rfl
  | size cache | component name | describeCache cache =>
      simp only [perform]
      split <;> rfl
  | calls | callsFor href | describeMounter => rfl
  | identify name =>
      simp only [perform]
      refine snd_withElement fun place anchor => ?_
      cases session.page.identify anchor <;> rfl
  | element name =>
      simp only [perform]
      exact snd_withElement fun _ _ => rfl
  | mountInfo name | describeMount name =>
      simp only [perform]
      exact snd_withMount fun _ => rfl
  | _ => cases looks

/-! ## Rows of steps -/

theorem Follows.refl (session : Session) : Follows demand session session where
  steps := .refl
  caches name _ found := .inl ⟨name, found⟩
  watches _ _ found := .inl found
  mounts _ _ found := .inl found

theorem Follows.trans (first : Follows demand session middle)
    (second : Follows demand middle after) : Follows demand session after where
  steps := first.steps.trans second.steps
  caches name cache found := by
    obtain ⟨other, earlier⟩ | inside := second.caches name cache found
    · obtain same | inside := first.caches other cache earlier
      · exact .inl same
      · exact .inr (Nat.lt_of_lt_of_le inside second.steps.width)
    · exact .inr inside
  watches name watch found := by
    obtain earlier | holds := second.watches name watch found
    · obtain same | holds := first.watches name watch earlier
      · exact .inl same
      · exact .inr (holds.steps second.steps)
    · exact .inr holds
  mounts name mount found := by
    obtain earlier | holds := second.mounts name mount found
    · obtain same | holds := first.mounts name mount earlier
      · exact .inl same
      · exact .inr (holds.steps second.steps)
    · exact .inr holds

theorem Follows.sound (follows : Follows demand session after) (sound : session.Sound) :
    after.Sound where
  indexed := follows.steps.indexed sound.indexed
  home := Nat.lt_of_lt_of_le sound.home follows.steps.width
  caches name cache found := by
    obtain ⟨other, earlier⟩ | inside := follows.caches name cache found
    · exact Nat.lt_of_lt_of_le (sound.caches other cache earlier) follows.steps.width
    · exact inside
  watches name watch found := by
    obtain earlier | holds := follows.watches name watch found
    · exact (sound.watches name watch earlier).steps follows.steps
    · exact holds
  mounts name mount found := by
    obtain earlier | holds := follows.mounts name mount found
    · exact (sound.mounts name mount earlier).steps follows.steps
    · exact holds

/-! ## Parts of operations -/

/-- What a session remembers besides is no business of the store. -/
theorem Follows.besides (follows : Follows demand session after)
    (components : List (String × Component)) (gates : List (String × Nat)) :
    Follows demand session { after with components, gates } :=
  ⟨follows.steps, follows.caches, follows.watches, follows.mounts⟩

/-- Only the page changes. -/
theorem follows_page {page : Page} (steps : Steps demand session.page.store page.store) :
    Follows demand session { session with page } where
  steps := steps
  caches name _ found := .inl ⟨name, found⟩
  watches _ _ found := .inl found
  mounts _ _ found := .inl found

private theorem follows_withStore {store : Store} (steps : Steps demand session.page.store store) :
    Follows demand session (session.withStore store) :=
  follows_page steps

private theorem follows_putWatch {name : String} {watch : Watch}
    (holds : session.page.store.Holds watch) :
    Follows demand session { session with watches := put name watch session.watches } where
  steps := .refl
  caches other _ found := .inl ⟨other, found⟩
  watches other _ found := by
    obtain rfl | earlier := lookup_of_put found
    · exact .inr holds
    · exact .inl earlier
  mounts _ _ found := .inl found

private theorem follows_removeWatch (name : String) :
    Follows demand session { session with watches := remove name session.watches } where
  steps := .refl
  caches other _ found := .inl ⟨other, found⟩
  watches _ _ found := .inl (lookup_of_remove found)
  mounts _ _ found := .inl found

private theorem follows_putMount (name : String) (mount : Mount)
    (holds : session.page.store.Holds mount.watch) :
    Follows demand session { session with mounts := put name mount session.mounts } where
  steps := .refl
  caches other _ found := .inl ⟨other, found⟩
  watches _ _ found := .inl found
  mounts other _ found := by
    obtain rfl | earlier := lookup_of_put found
    · exact .inr holds
    · exact .inl earlier

private theorem follows_removeMount (name : String) :
    Follows demand session { session with mounts := remove name session.mounts } where
  steps := .refl
  caches other _ found := .inl ⟨other, found⟩
  watches _ _ found := .inl found
  mounts _ _ found := .inl (lookup_of_remove found)

private theorem follows_putCache {name : String} {cache : Nat}
    (known : (∃ other, session.caches.lookup other = some cache) ∨
      cache < session.page.store.caches.length) :
    Follows demand session { session with caches := put name cache session.caches } where
  steps := .refl
  caches other _ found := by
    obtain rfl | earlier := lookup_of_put found
    · exact known
    · exact .inl ⟨other, earlier⟩
  watches _ _ found := .inl found
  mounts _ _ found := .inl found

theorem follows_dropWatch (name : String) : Follows demand session (session.dropWatch name) := by
  unfold dropWatch
  split
  · exact (follows_withStore (.single (.quiet (Store.quiet_unwatch _)))).trans
      (follows_removeWatch name)
  · exact .refl session

theorem follows_dropMount (name : String) : Follows demand session (session.dropMount name) := by
  unfold dropMount
  split
  · exact (follows_page (.single (.quiet (Store.quiet_unwatch _)))).trans
      (follows_removeMount name)
  · exact .refl session

/-- Elements are no business of the store. -/
theorem follows_anchors {page : Page} {anchors : List (String × Nat)}
    (same : page.store = session.page.store) :
    Follows demand session { session with page, anchors } where
  steps := same ▸ .refl
  caches name _ found := .inl ⟨name, found⟩
  watches _ _ found := .inl found
  mounts _ _ found := .inl found

private theorem follows_dropAnchor (name : String) :
    Follows demand session (session.dropAnchor name) := by
  unfold dropAnchor
  split
  · exact follows_anchors rfl
  · exact .refl session

private theorem follows_withLink {cache href : String}
    {action : Nat → Link → SessionAnswer × Session}
    (acts : ∀ place link, session.caches.lookup cache = some place →
      Follows demand session (action place link).2) :
    Follows demand session (session.withLink cache href action).2 := by
  unfold withLink
  split
  · exact .refl session
  · next place found =>
    split
    · exact .refl session
    · exact acts place _ found

private theorem follows_withElement {name : String}
    {action : Nat → Anchor → SessionAnswer × Session}
    (acts : ∀ place anchor, Follows demand session (action place anchor).2) :
    Follows demand session (session.withElement name action).2 := by
  unfold withElement
  split
  · exact .refl session
  · split
    · exact acts _ _
    · exact .refl session

/-! ## Operations -/

section Operations

variable {cache : Nat} {link : Link}

private theorem follows_watch (sound : session.Sound)
    (inside : cache < session.page.store.caches.length) (name : String) :
    Follows demand session (session.watch name cache link).2 := by
  have watched : Follows demand session (session.withStore (session.page.store.watch cache link).2) :=
    follows_withStore (Store.steps_watch inside)
  have freed : Follows demand (session.withStore (session.page.store.watch cache link).2)
      ((session.withStore (session.page.store.watch cache link).2).dropWatch name) :=
    follows_dropWatch name
  have holds : (session.page.store.watch cache link).2.Holds _ :=
    Store.holds_watch inside sound.indexed
  exact (watched.trans freed).trans (follows_putWatch (holds.steps freed.steps))

theorem Sound.calm (sound : session.Sound) (place : Nat) :
    session.page.store.phase? place ≠ some .driven :=
  sound.indexed.calm place

private theorem follows_poll (sound : session.Sound) (name : String) (waker : Waker) :
    Follows (session.demand (.poll name waker)) session (session.poll name waker).2 := by
  cases found : session.watches.lookup name with
  | none =>
      simp only [demand, poll, found]
      exact .refl session
  | some watch =>
      have moved : Follows (.poll watch.place) session
          (session.withStore (session.page.store.poll watch waker).2.2) :=
        follows_withStore (.single (Store.step_poll _ watch waker))
      simp only [demand, poll, found]
      exact moved.trans (follows_putWatch
        (Store.poll_spec (sound.watches name watch found) (sound.calm _) waker).1)

theorem value_snd (session : Session) (name : String) :
    (session.value name).2 = (session.poll name .silent).2.dropWatch name := by
  unfold value
  split <;> next polled => rw [polled]

private theorem follows_value (sound : session.Sound) (name : String) :
    Follows (session.demand (.value name)) session (session.value name).2 := by
  have polled : Follows (session.demand (.value name)) session (session.poll name .silent).2 :=
    follows_poll sound name .silent
  rw [value_snd]
  exact polled.trans (follows_dropWatch name)

private theorem follows_entry (inside : cache < session.page.store.caches.length) :
    Follows demand session (session.entry cache link).2 := by
  unfold entry
  dsimp only
  split
  · exact follows_withStore (.single (Store.step_entry inside))
  · exact .refl session

private theorem follows_sameEntry (sound : session.Sound) (left right leftHref rightHref : String) :
    Follows demand session (session.sameEntry left right leftHref rightHref).2 := by
  refine follows_withLink fun first leftLink known => ?_
  refine follows_withLink fun second rightLink other => ?_
  have step : Store.Step demand session.page.store (session.page.store.entry first leftLink).2 :=
    Store.step_entry (sound.caches left first known)
  have inside := Nat.lt_of_lt_of_le (sound.caches right second other) step.width
  exact follows_withStore (.tail (.single step) (Store.step_entry inside))

private theorem follows_fetch (href : String) :
    Follows (session.demand (.fetch href)) session (session.fetch href).2 := by
  cases target : Link.ofTarget href with
  | error fault =>
      simp only [demand, fetch, target]
      exact .refl session
  | ok link =>
      simp only [demand, fetch, target]
      exact follows_withStore (.single (Store.step_fetchOnce _ link))

private theorem follows_release (name : String) (state : GateState) :
    Follows demand session (session.release name state).2 := by
  unfold release
  split
  · exact .refl session
  · next gate found =>
    have released : Follows demand session
        (session.withStore (session.page.store.release gate state)) :=
      follows_withStore (.single (.quiet (Store.quiet_release gate state)))
    exact released.besides _ _

private theorem follows_addAnchor (name href : String) :
    Follows demand session (session.addAnchor name href) :=
  (follows_dropAnchor name).trans (follows_anchors rfl)

private theorem follows_mount (sound : session.Sound) (name anchor : String) :
    Follows demand session (session.mount name anchor).2 := by
  refine follows_withElement fun place anchor => ?_
  obtain ⟨steps, holds⟩ := Page.steps_mount sound.home sound.indexed place anchor
  generalize session.page.mount place anchor = mounted at steps holds ⊢
  have moved : Follows demand session { session with page := mounted.2 } := follows_page steps
  have freed : Follows demand { session with page := mounted.2 }
      ({ session with page := mounted.2 }.dropMount name) := follows_dropMount name
  exact (moved.trans freed).trans (follows_putMount name mounted.1 (holds.steps freed.steps))

private theorem follows_pollMount (sound : session.Sound) (name : String) (waker : Waker) :
    Follows (session.demand (.pollMount name waker)) session (session.pollMount name waker).2 := by
  cases found : session.mounts.lookup name with
  | none =>
      simp only [demand, pollMount, withMount, found]
      exact .refl session
  | some mount =>
      have moved : Follows (.poll mount.watch.place) session
          { session with page := (session.page.poll mount waker).2.2 } :=
        follows_page (Page.steps_poll session.page mount waker)
      have named := moved.trans (follows_putMount name (session.page.poll mount waker).2.1
        (Page.poll_spec (sound.mounts name mount found) (sound.calm _) waker).1)
      simp only [demand, pollMount, withMount, found]
      cases shown : (session.page.poll mount waker).1 with
      | item component => exact named.besides _ _
      | pending | ended => exact named

private theorem follows_collectMount (name : String) :
    Follows (session.demand (.collectMount name)) session (session.collectMount name).2 := by
  cases found : session.mounts.lookup name with
  | none =>
      simp only [demand, collectMount, withMount, found]
      exact .refl session
  | some mount =>
      have collected : Follows (.poll mount.watch.place) session
          { session with page := (session.page.collect mount).2 } :=
        follows_page ((Page.steps_poll session.page mount .silent).trans
          (Page.steps_collect session.page mount))
      simp only [demand, collectMount, withMount, found]
      exact collected.trans (follows_removeMount name)

private theorem follows_cloneCache (cache target : String) :
    Follows demand session (session.perform (.cloneCache cache target)).2 := by
  simp only [perform]
  split
  · next place found => exact follows_putCache (.inl ⟨cache, found⟩)
  · exact .refl session

private theorem follows_newCache (target : String) :
    Follows demand session (session.perform (.newCache target)).2 := by
  have opened : Follows demand session (session.withStore
      { session.page.store with caches := session.page.store.caches ++ [[]] }) :=
    follows_withStore (.single (.quiet Store.quiet_newCache))
  exact opened.trans (follows_putCache (.inr (by simp [withStore])))

private theorem follows_intoValue (name : String) :
    Follows demand session (session.perform (.intoValue name)).2 := by
  simp only [perform]
  split
  · exact (Follows.refl session).besides _ _
  · exact .refl session

end Operations

/-- Every operation is a row of steps that serves its demand. -/
theorem follows_perform (sound : session.Sound) (operation : SessionOperation) :
    Follows (session.demand operation) session (session.perform operation).2 := by
  cases operation with
  | cloneCache cache target => exact follows_cloneCache cache target
  | newCache target => exact follows_newCache target
  | watch cache name href =>
      simp only [perform]
      exact follows_withLink fun place link known =>
        follows_watch sound (sound.caches cache place known) name
  | poll name waker => exact follows_poll sound name waker
  | value name => exact follows_value sound name
  | drop name => exact follows_dropWatch name
  | entry cache href =>
      simp only [perform]
      exact follows_withLink fun place link known => follows_entry (sound.caches cache place known)
  | sameEntry left right leftHref rightHref =>
      exact follows_sameEntry sound left right leftHref rightHref
  | fetch href => exact follows_fetch href
  | openGate gate facts => exact follows_release gate _
  | failGate gate => exact follows_release gate _
  | advance milliseconds =>
      exact follows_withStore (.single (.quiet (Store.quiet_advance milliseconds)))
  | addAnchor name href => exact follows_addAnchor name href
  | dropAnchor name => exact follows_dropAnchor name
  | mount name anchor => exact follows_mount sound name anchor
  | pollMount name waker => exact follows_pollMount sound name waker
  | collectMount name => exact follows_collectMount name
  | dropMount name => exact follows_dropMount name
  | intoValue name => exact follows_intoValue name
  | contains | size | calls | callsFor | identify | element | mountInfo | component
  | describeCache | describeMounter | describeMount =>
      rw [snd_perform_of_looks rfl]
      exact .refl session

/-- An operation polls only computations that there are. -/
theorem Sound.serves (sound : session.Sound) {operation : SessionOperation} {place : Nat}
    (asks : session.demand operation = .poll place) :
    ∃ phase, session.page.store.phase? place = some phase := by
  cases operation with
  | poll name | value name =>
      simp only [demand] at asks
      split at asks
      · next watch found =>
        cases asks
        obtain ⟨phase, there, -⟩ := sound.watches name watch found
        exact ⟨phase, there⟩
      · cases asks
  | pollMount name | collectMount name =>
      simp only [demand] at asks
      split at asks
      · next mount found =>
        cases asks
        obtain ⟨phase, there, -⟩ := sound.mounts name mount found
        exact ⟨phase, there⟩
      · cases asks
  | fetch href =>
      simp only [demand] at asks
      split at asks <;> cases asks
  | _ => cases asks

/-- A computation that an operation polled is no longer idle. -/
theorem Sound.begins (sound : session.Sound) {operation : SessionOperation} {place : Nat}
    (asks : session.demand operation = .poll place) :
    ∃ phase, (session.perform operation).2.page.store.phase? place = some phase ∧
      Store.started phase = true := by
  cases operation with
  | poll name waker =>
      simp only [demand] at asks
      split at asks
      · next watch found =>
        cases asks
        simp only [perform, poll, found]
        exact (Store.poll_spec (sound.watches name watch found) (sound.calm _) waker).2
      · cases asks
  | value name =>
      simp only [demand] at asks
      split at asks
      · next watch found =>
        cases asks
        obtain ⟨phase, there, begun⟩ :=
          (Store.poll_spec (sound.watches name watch found) (sound.calm _) .silent).2
        have dropped : Follows .nothing (session.poll name .silent).2
            ((session.poll name .silent).2.dropWatch name) := follows_dropWatch name
        have polled : (session.poll name .silent).2.page.store.phase? watch.place = some phase := by
          simp only [poll, found]
          exact there
        obtain ⟨later, reached, leads⟩ := dropped.steps.leads polled
        simp only [perform, value_snd]
        exact ⟨later, reached, leads.begun begun⟩
      · cases asks
  | pollMount name waker =>
      simp only [demand] at asks
      split at asks
      · next mount found =>
        cases asks
        obtain ⟨-, begins⟩ := Page.poll_spec (sound.mounts name mount found) (sound.calm _) waker
        simp only [perform, pollMount, withMount, found]
        split <;> exact begins
      · cases asks
  | collectMount name =>
      simp only [demand] at asks
      split at asks
      · next mount found =>
        cases asks
        obtain ⟨phase, there, begun⟩ :=
          (Page.poll_spec (sound.mounts name mount found) (sound.calm _) .silent).2
        obtain ⟨later, reached, leads⟩ := (Page.steps_collect session.page mount).leads there
        simp only [perform, collectMount, withMount, found]
        exact ⟨later, reached, leads.begun begun⟩
      · cases asks
  | fetch href =>
      simp only [demand] at asks
      split at asks <;> cases asks
  | _ => cases asks

end Session
end LinkFacts
