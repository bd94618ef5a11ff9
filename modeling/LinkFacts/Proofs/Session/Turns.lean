import LinkFacts.Proofs.Component.Mounting
import LinkFacts.Proofs.Session.Steps

/-!
# What operations request and write

Every operation of a session requests some links of the caches, and writes what a mount gives to the
element of the mount.
-/

namespace LinkFacts

open Replay (Waker)
open Naming (put remove lookup_put lookup_remove)
open Page (Turns)

/-- The answer has a component in it. -/
def SessionAnswer.hasComponent : SessionAnswer → Bool
  | componentItem _ => true
  | components views => !views.isEmpty
  | _ => false

/-- An operation makes, polls or drops a mount. -/
def SessionOperation.mounts : SessionOperation → Bool
  | mount .. | pollMount .. | collectMount .. | dropMount .. => true
  | _ => false

namespace Session

variable {session after : Session} {operation : SessionOperation} {name : String}

/-- The cache and the link that a name and a target stand for. -/
def asked? (session : Session) (key href : String) : Option (Nat × Link) :=
  match session.caches.lookup key, Link.ofTarget href with
  | some cache, .ok link => some (cache, link)
  | _, _ => none

/-- The element with a name, as long as it is there. -/
def anchor? (session : Session) (name : String) : Option Anchor :=
  (session.anchors.lookup name).bind session.page.element?

/-- The links that an operation requests of the caches. -/
def requests (session : Session) : SessionOperation → List (Nat × Link)
  | .watch key _ href | .entry key href => (session.asked? key href).elim [] fun asked => [asked]
  | .sameEntry left right leftHref rightHref =>
    (session.asked? left leftHref).elim [] fun first =>
      (session.asked? right rightHref).elim [] fun second => [first, second]
  | .mount _ name => (session.anchor? name).elim [] session.page.requestsOf
  | _ => []

/-- An operation polls a mount of the element at a place and gets a component. -/
def gives (session : Session) (place : Nat) (operation : SessionOperation) : Bool :=
  match operation with
  | .pollMount name _ | .collectMount name =>
    (session.mounts.lookup name).any (·.element == place) &&
      (session.perform operation).1.hasComponent
  | _ => false

/-- What an operation writes to the element at a place: the facts of the element's link, if a mount
gives them. -/
def written (session : Session) (operation : SessionOperation) (place : Nat) : List Mutation :=
  if session.gives place operation then
    { session.page with store := (session.perform operation).2.page.store }.block place
  else []

/-- All mounts fit their elements. -/
def Fitted (session : Session) : Prop :=
  ∀ name mount, session.mounts.lookup name = some mount → session.page.Fits mount

/-! ## Parts of operations -/

private theorem turns_dropWatch (session : Session) (name : String) :
    session.page.Turns [] Page.blank (session.dropWatch name).page := by
  unfold dropWatch
  split
  · exact Page.turns_of_caches rfl
  · exact .refl _

private theorem turns_dropMount (session : Session) (name : String) :
    session.page.Turns [] Page.blank (session.dropMount name).page := by
  unfold dropMount
  split
  · exact Page.turns_unmount _ _
  · exact .refl _

private theorem turns_dropAnchor (session : Session) (name : String) :
    session.page.Turns [] Page.blank (session.dropAnchor name).page := by
  unfold dropAnchor
  split
  · exact Page.turns_removeElement _ _
  · exact .refl _

private theorem turns_release (session : Session) (name : String) (state : GateState) :
    session.page.Turns [] Page.blank (session.release name state).2.page := by
  unfold release
  split
  · exact .refl _
  · exact Page.turns_of_caches (Store.caches_release _ _ _)

private theorem turns_fetch (session : Session) (href : String) :
    session.page.Turns [] Page.blank (session.fetch href).2.page := by
  unfold fetch
  split
  · exact .refl _
  · refine Page.turns_of_caches ?_
    rw [Store.fetchOnce_snd]

private theorem turns_poll (session : Session) (name : String) (waker : Waker) :
    session.page.Turns [] Page.blank (session.poll name waker).2.page := by
  unfold poll
  split
  · exact .refl _
  · exact Page.turns_of_caches (Store.caches_poll _ _ waker)

private theorem turns_watch {cache : Nat} (inside : cache < session.page.store.caches.length)
    (name : String) (link : Link) :
    session.page.Turns [(cache, link)] Page.blank (session.watch name cache link).2.page := by
  have watched : session.page.Turns [(cache, link)] Page.blank
      (session.withStore (session.page.store.watch cache link).2).page :=
    Page.turns_store (Store.files_watch inside)
  exact watched.then_blank (turns_dropWatch _ name)

/-- Whoever looks at the entry of a link finds it. -/
theorem snd_entry (sound : session.Sound) {cache : Nat}
    (inside : cache < session.page.store.caches.length) (link : Link) :
    (session.entry cache link).2 = session.withStore (session.page.store.entry cache link).2 := by
  have placed : (session.page.store.entry cache link).2.placeOf? cache link = some _ :=
    Store.placeOf?_entry_self inside
  have step : Store.Step .nothing session.page.store (session.page.store.entry cache link).2 :=
    Store.step_entry inside
  have indexed := step.indexed sound.indexed
  obtain ⟨phase, found, -⟩ := indexed.placed cache link _ placed
  obtain ⟨cell, here, -⟩ := Option.map_eq_some_iff.mp found
  simp only [entry, here]

private theorem turns_entry (sound : session.Sound) {cache : Nat}
    (inside : cache < session.page.store.caches.length) (link : Link) :
    session.page.Turns [(cache, link)] Page.blank (session.entry cache link).2.page := by
  rw [snd_entry sound inside]
  exact Page.turns_store (Store.files_entry inside)

private theorem turns_mount (sound : session.Sound) (name anchor : String) :
    session.page.Turns ((session.anchor? anchor).elim [] session.page.requestsOf) Page.blank
      (session.mount name anchor).2.page := by
  cases found : session.anchors.lookup anchor with
  | none =>
      simp only [mount, withElement, anchor?, found]
      exact .refl _
  | some place =>
      cases there : session.page.element? place with
      | none =>
          simp only [mount, withElement, anchor?, found, Option.bind_some, there]
          exact .refl _
      | some element =>
          simp only [mount, withElement, anchor?, found, Option.bind_some, there, Option.elim_some]
          have turns := Page.turns_mount sound.home place element
          generalize session.page.mount place element = mounted at turns ⊢
          exact turns.then_blank (turns_dropMount { session with page := mounted.2 } name)

private theorem turns_withLink {key href : String} {action : Nat → Link → SessionAnswer × Session}
    {requests : Nat × Link → List (Nat × Link)}
    (acts : ∀ cache link, session.caches.lookup key = some cache →
      session.page.Turns (requests (cache, link)) Page.blank (action cache link).2.page) :
    session.page.Turns ((session.asked? key href).elim [] requests) Page.blank
      (session.withLink key href action).2.page := by
  cases found : session.caches.lookup key with
  | none =>
      simp only [withLink, asked?, found]
      exact .refl _
  | some cache =>
      cases target : Link.ofTarget href with
      | error fault =>
          simp only [withLink, asked?, found, target]
          exact .refl _
      | ok link =>
          simp only [withLink, asked?, found, target]
          exact acts cache link found

private theorem turns_sameEntry (sound : session.Sound) (left right leftHref rightHref : String) :
    session.page.Turns (session.requests (.sameEntry left right leftHref rightHref)) Page.blank
      (session.sameEntry left right leftHref rightHref).2.page := by
  refine turns_withLink fun first leftLink known => turns_withLink fun second rightLink other => ?_
  have step : Store.Step .nothing session.page.store (session.page.store.entry first leftLink).2 :=
    Store.step_entry (sound.caches left first known)
  have inside := Nat.lt_of_lt_of_le (sound.caches right second other) step.width
  exact Page.turns_store ((Store.files_entry (sound.caches left first known)).trans
    (Store.files_entry inside))

/-! ## Operations on mounts -/

theorem mount_ready (sound : session.Sound) (fitted : session.Fitted) {mount : Mount}
    (found : session.mounts.lookup name = some mount) :
    session.page.Fits mount ∧ session.page.store.Holds mount.watch ∧
      session.page.store.phase? mount.watch.place ≠ some .driven :=
  ⟨fitted name mount found, sound.mounts name mount found, sound.calm _⟩

/-- A poll of a mount answers with a component if it gives one. -/
theorem pollMount_of_found {mount : Mount} (found : session.mounts.lookup name = some mount)
    (waker : Waker) :
    (session.pollMount name waker).2.page = (session.page.poll mount waker).2.2 ∧
      (session.pollMount name waker).1.hasComponent = (session.page.poll mount waker).1.isItem := by
  simp only [pollMount, withMount, found]
  cases (session.page.poll mount waker).1 <;> exact ⟨rfl, rfl⟩

theorem collectMount_of_found (sound : session.Sound) {mount : Mount}
    (found : session.mounts.lookup name = some mount) :
    (session.collectMount name).2.page =
        (session.page.poll mount .silent).2.2.unmount (session.page.poll mount .silent).2.1 ∧
      (session.collectMount name).1.hasComponent =
        (session.page.poll mount .silent).1.isItem := by
  have collected := Page.collect_eq (sound.mounts name mount found) (sound.calm _)
  simp only [collectMount, withMount, found, collected]
  cases (session.page.poll mount .silent).1 <;> exact ⟨trivial, rfl⟩

/-- What an operation writes that polls a mount. -/
theorem written_of_found {mount : Mount} {waker : Waker}
    (found : session.mounts.lookup name = some mount)
    (polls : operation = .pollMount name waker ∨ operation = .collectMount name)
    (shown : (session.perform operation).1.hasComponent = (session.page.poll mount waker).1.isItem)
    (place : Nat) :
    session.written operation place =
      if place = mount.element ∧ (session.page.poll mount waker).1.isItem = true then
        { session.page with store := (session.perform operation).2.page.store }.block place
      else [] := by
  have gives : session.gives place operation =
      (mount.element == place && (session.page.poll mount waker).1.isItem) := by
    rcases polls with rfl | rfl <;> simp only [gives, found, shown, Option.any_some]
  unfold written
  rw [gives]
  by_cases same : place = mount.element
  · simp [same]
  · simp [same, Ne.symm same]

private theorem written_of_missing (missing : session.mounts.lookup name = none)
    (polls : (∃ waker, operation = .pollMount name waker) ∨ operation = .collectMount name) :
    session.written operation = Page.blank := by
  funext place
  rcases polls with ⟨waker, rfl⟩ | rfl <;>
    simp only [written, gives, missing, Option.any_none, Bool.false_and, Bool.false_eq_true,
      if_false, Page.blank]

private theorem turns_pollMount (sound : session.Sound) (fitted : session.Fitted) (waker : Waker) :
    session.page.Turns [] (session.written (.pollMount name waker))
      (session.pollMount name waker).2.page := by
  cases found : session.mounts.lookup name with
  | none =>
      rw [written_of_missing found (.inl ⟨waker, rfl⟩)]
      simp only [pollMount, withMount, found]
      exact .refl _
  | some mount =>
      obtain ⟨fits, holds, calm⟩ := mount_ready sound fitted found
      obtain ⟨moved, shown⟩ := pollMount_of_found found waker
      have written := written_of_found found (.inl rfl) shown
      simp only [perform, moved] at written
      rw [moved]
      exact (Page.turns_poll fits holds calm waker).congr written

private theorem turns_collectMount (sound : session.Sound) (fitted : session.Fitted) :
    session.page.Turns [] (session.written (.collectMount name))
      (session.collectMount name).2.page := by
  cases found : session.mounts.lookup name with
  | none =>
      rw [written_of_missing found (.inr rfl)]
      simp only [collectMount, withMount, found]
      exact .refl _
  | some mount =>
      obtain ⟨fits, holds, calm⟩ := mount_ready sound fitted found
      obtain ⟨moved, shown⟩ := collectMount_of_found sound found
      have written := written_of_found found (.inr rfl) shown
      simp only [perform, moved] at written
      rw [moved]
      have polled := Page.turns_poll fits holds calm .silent
      refine (polled.then_blank (Page.turns_unmount _ _)).congr fun place => ?_
      rw [written place, Page.unmount, Page.block_of_quiet (Store.quiet_unwatch _)]

/-! ## All operations -/

/-- An operation that polls no mount writes nothing. -/
theorem turns_of_silent (silent : ∀ place, session.gives place operation = false)
    (turns : session.page.Turns (session.requests operation) Page.blank after.page) :
    session.page.Turns (session.requests operation) (session.written operation) after.page :=
  turns.congr fun place => by rw [written, silent]; rfl

private theorem turns_of_looks (looks : operation.looks = true) :
    session.page.Turns (session.requests operation) (session.written operation)
      (session.perform operation).2.page := by
  have asked : session.requests operation = [] := by
    cases operation <;> first | rfl | cases looks
  have silent (place : Nat) : session.gives place operation = false := by
    cases operation <;> first | rfl | cases looks
  refine turns_of_silent silent ?_
  rw [asked, snd_perform_of_looks looks]
  exact .refl _

/-- Every operation requests its links, and writes what its mount gives. -/
theorem turns_perform (sound : session.Sound) (fitted : session.Fitted)
    (operation : SessionOperation) :
    session.page.Turns (session.requests operation) (session.written operation)
      (session.perform operation).2.page := by
  cases operation with
  | pollMount name waker => exact turns_pollMount sound fitted waker
  | collectMount name => exact turns_collectMount sound fitted
  | cloneCache cache target =>
      refine turns_of_silent (fun _ => rfl) ?_
      simp only [perform]
      split <;> exact .refl _
  | newCache target =>
      exact turns_of_silent (fun _ => rfl) (Page.turns_store Store.files_newCache)
  | watch cache name href =>
      refine turns_of_silent (fun _ => rfl) ?_
      simp only [perform, requests]
      exact turns_withLink fun place link known =>
        turns_watch (sound.caches cache place known) name link
  | poll name waker => exact turns_of_silent (fun _ => rfl) (turns_poll session name waker)
  | value name =>
      refine turns_of_silent (fun _ => rfl) ?_
      simp only [perform, value_snd]
      exact (turns_poll session name .silent).then_blank (turns_dropWatch _ name)
  | drop name => exact turns_of_silent (fun _ => rfl) (turns_dropWatch session name)
  | entry cache href =>
      refine turns_of_silent (fun _ => rfl) ?_
      simp only [perform, requests]
      exact turns_withLink fun place link known =>
        turns_entry sound (sound.caches cache place known) link
  | sameEntry left right leftHref rightHref =>
      exact turns_of_silent (fun _ => rfl) (turns_sameEntry sound left right leftHref rightHref)
  | fetch href =>
      refine turns_of_silent (fun _ => rfl) ?_
      simp only [perform, requests]
      exact turns_fetch session href
  | openGate gate facts => exact turns_of_silent (fun _ => rfl) (turns_release session gate _)
  | failGate gate => exact turns_of_silent (fun _ => rfl) (turns_release session gate _)
  | advance milliseconds =>
      exact turns_of_silent (fun _ => rfl) (Page.turns_of_caches (Store.caches_advance _ _))
  | addAnchor name href =>
      refine turns_of_silent (fun _ => rfl) ?_
      exact (turns_dropAnchor session name).then_blank (Page.turns_addElement _ href)
  | dropAnchor name => exact turns_of_silent (fun _ => rfl) (turns_dropAnchor session name)
  | mount name anchor =>
      refine turns_of_silent (fun _ => rfl) ?_
      simp only [perform, requests]
      exact turns_mount sound name anchor
  | dropMount name => exact turns_of_silent (fun _ => rfl) (turns_dropMount session name)
  | intoValue name =>
      refine turns_of_silent (fun _ => rfl) ?_
      simp only [perform]
      split <;> exact .refl _
  | contains | size | calls | callsFor | identify | element | mountInfo | component
  | describeCache | describeMounter | describeMount => exact turns_of_looks rfl

/-! ## The mounts of a session -/

/-- Where a mount of a session comes from. -/
inductive Mounted (session : Session) (operation : SessionOperation) (name : String)
    (mount : Mount) : Prop
  | kept (found : session.mounts.lookup name = some mount)
  | made {anchor : String} {place : Nat} {element : Anchor} (asked : operation = .mount name anchor)
      (named : session.anchors.lookup anchor = some place)
      (there : session.page.element? place = some element)
      (same : mount = (session.page.mount place element).1)
  | polled {earlier : Mount} {waker : Waker} (asked : operation = .pollMount name waker)
      (found : session.mounts.lookup name = some earlier)
      (same : mount = (session.page.poll earlier waker).2.1)

private theorem mounts_dropWatch (session : Session) (name : String) :
    (session.dropWatch name).mounts = session.mounts := by
  unfold dropWatch
  split <;> rfl

private theorem mounts_dropAnchor (session : Session) (name : String) :
    (session.dropAnchor name).mounts = session.mounts := by
  unfold dropAnchor
  split <;> rfl

private theorem mounts_poll (session : Session) (name : String) (waker : Waker) :
    (session.poll name waker).2.mounts = session.mounts := by
  unfold poll
  split <;> rfl

private theorem mounts_release (session : Session) (name : String) (state : GateState) :
    (session.release name state).2.mounts = session.mounts := by
  unfold release
  split <;> rfl

theorem mounts_perform_of_ne (other : operation.mounts = false) :
    (session.perform operation).2.mounts = session.mounts := by
  cases operation with
  | mount | pollMount | collectMount | dropMount => cases other
  | cloneCache cache target =>
      simp only [perform]
      split <;> rfl
  | newCache target => rfl
  | watch cache name href =>
      simp only [perform]
      exact keeps_withLink Session.mounts fun _ _ => mounts_dropWatch _ name
  | poll name waker => exact mounts_poll session name waker
  | value name =>
      simp only [perform, value_snd]
      exact (mounts_dropWatch _ name).trans (mounts_poll session name .silent)
  | drop name => exact mounts_dropWatch session name
  | entry cache href =>
      simp only [perform]
      refine keeps_withLink Session.mounts fun _ _ => ?_
      unfold entry
      dsimp only
      split <;> rfl
  | sameEntry left right leftHref rightHref =>
      simp only [perform]
      exact keeps_withLink Session.mounts fun _ _ => keeps_withLink Session.mounts fun _ _ => rfl
  | fetch href =>
      simp only [perform, fetch]
      split <;> rfl
  | openGate gate facts => exact mounts_release session gate _
  | failGate gate => exact mounts_release session gate _
  | advance milliseconds => rfl
  | addAnchor name href => exact mounts_dropAnchor session name
  | dropAnchor name => exact mounts_dropAnchor session name
  | intoValue name =>
      simp only [perform]
      split <;> rfl
  | contains | size | calls | callsFor | identify | element | mountInfo | component
  | describeCache | describeMounter | describeMount => rw [snd_perform_of_looks rfl]

/-- A mount takes the place of an earlier one of its name. -/
theorem page_mount {anchor : String} {place : Nat} {element : Anchor}
    (named : session.anchors.lookup anchor = some place)
    (there : session.page.element? place = some element) : (session.mount name anchor).2.page =
      ({ session with page := (session.page.mount place element).2 }.dropMount name).page := by
  simp only [mount, withElement, named, there]

theorem lookup_dropMount (session : Session) (name other : String) :
    (session.dropMount name).mounts.lookup other =
      if other = name then none else session.mounts.lookup other := by
  unfold dropMount
  split
  · exact lookup_remove name other session.mounts
  · next missing =>
    split
    · next same => exact same ▸ missing
    · rfl

theorem lookup_collectMount (session : Session) (name other : String) :
    (session.collectMount name).2.mounts.lookup other =
      if other = name then none else session.mounts.lookup other := by
  unfold collectMount withMount
  split
  · next missing =>
    split
    · next same => exact same ▸ missing
    · rfl
  · exact lookup_remove name other session.mounts

theorem mounts_pollMount {mount : Mount} (found : session.mounts.lookup name = some mount)
    (waker : Waker) : (session.pollMount name waker).2.mounts =
      put name (session.page.poll mount waker).2.1 session.mounts := by
  simp only [pollMount, withMount, found]
  cases (session.page.poll mount waker).1 <;> rfl

/-- A mount of a session is an earlier one, a new one, or one that was polled. -/
theorem mounted_perform {mount : Mount}
    (found : (session.perform operation).2.mounts.lookup name = some mount) :
    Mounted session operation name mount := by
  cases other : operation.mounts with
  | false =>
      rw [mounts_perform_of_ne other] at found
      exact .kept found
  | true =>
      cases operation with
      | mount key anchor =>
          simp only [perform, Session.mount, withElement] at found
          cases named : session.anchors.lookup anchor with
          | none =>
              rw [named] at found
              exact .kept found
          | some place =>
              rw [named] at found
              dsimp only at found
              cases there : session.page.element? place with
              | none =>
                  rw [there] at found
                  exact .kept found
              | some element =>
                  rw [there] at found
                  dsimp only at found
                  rw [lookup_put] at found
                  split at found
                  · next same =>
                    subst same
                    exact .made rfl named there (Option.some.inj found).symm
                  · next different =>
                    rw [lookup_dropMount, if_neg different] at found
                    exact .kept found
      | pollMount key waker =>
          cases named : session.mounts.lookup key with
          | none =>
              simp only [perform, pollMount, withMount, named] at found
              exact .kept found
          | some earlier =>
              simp only [perform, mounts_pollMount named, lookup_put] at found
              split at found
              · next same =>
                subst same
                exact .polled rfl named (Option.some.inj found).symm
              · exact .kept found
      | collectMount key =>
          simp only [perform, lookup_collectMount] at found
          split at found
          · cases found
          · exact .kept found
      | dropMount key =>
          simp only [perform, lookup_dropMount] at found
          split at found
          · cases found
          · exact .kept found
      | _ => cases other

private theorem fits_dropMount {page : Page} {mount : Mount} (fits : page.Fits mount)
    (name : String) :
    ({ session with page }.dropMount name).page.Fits mount := by
  have freed : Follows .nothing { session with page } ({ session with page }.dropMount name) :=
    follows_dropMount name
  exact fits.later (turns_dropMount { session with page } name) freed.steps

theorem fitted_perform (sound : session.Sound) (fitted : session.Fitted)
    (operation : SessionOperation) : (session.perform operation).2.Fitted := by
  intro name mount found
  cases mounted_perform found with
  | kept earlier =>
      exact (fitted name mount earlier).later (turns_perform sound fitted operation)
        (follows_perform sound operation).steps
  | @made anchor place element asked named there same =>
      rw [asked, same]
      have fits := Page.fits_mount sound.home there
      simp only [perform, page_mount named there]
      generalize session.page.mount place element = mounted at fits ⊢
      exact fits_dropMount fits name
  | @polled earlier waker asked before same =>
      subst asked same
      obtain ⟨fits, holds, calm⟩ := mount_ready sound fitted before
      simp only [perform, (pollMount_of_found before waker).1]
      exact fits.poll holds calm waker

end Session
end LinkFacts
