import LinkFacts.Proofs.Cache.Clock
import LinkFacts.Proofs.Session.Turns

/-!
# The moves of a store

Whatever a session does besides letting time pass comes down to a few moves of its store.  What
every move keeps is kept by every operation.
-/

namespace LinkFacts

open Replay (Waker)

namespace Store

variable {before after : Store}

/-- One thing that is done to a store at once. -/
inductive Move : Store → Store → Prop
  | log (store : Store) {event : LogEvent} (silent : Note.fetched? (.logged event) = none) :
    Move store (store.log event)
  /-- A computation appears that is over. -/
  | blank (store : Store) : Move store (store.addCell (.ofPhase .completed))
  | newCache (store : Store) : Move store { store with caches := store.caches ++ [[]] }
  | entry (store : Store) (cache : Nat) (link : Link) : Move store (store.entry cache link).2
  | subscribe (store : Store) (place : Nat) : Move store (store.subscribe place).2
  | unwatch (store : Store) (watch : Watch) : Move store (store.unwatch watch)
  | poll (store : Store) (watch : Watch) (waker : Waker) :
    Move store (store.poll watch waker).2.2
  | fetch (store : Store) (link : Link) : Move store (store.fetchOnce link).2
  | release (store : Store) (gate : Nat) (state : GateState) :
    Move store (store.release gate state)

/-- Some moves one after the other. -/
abbrev Moves : Store → Store → Prop := Relation.ReflTransGen Move

private theorem Move.timing (move : Move before after) : after.timing = before.timing := by
  cases move with
  | log | blank | newCache | subscribe | unwatch => rfl
  | entry cache link => exact timing_entry before cache link
  | poll watch waker => exact (inside_poll before watch waker).timing
  | fetch link => exact (inside_fetchOnce before link).timing
  | release gate state => exact (inside_release before gate state).timing

theorem Moves.timing (moves : Moves before after) : after.timing = before.timing := by
  induction moves with
  | refl => rfl
  | tail _ move ih => exact move.timing.trans ih

private theorem moves_watch (store : Store) (cache : Nat) (link : Link) :
    Moves store (store.watch cache link).2 :=
  .tail (.single (.entry store cache link)) (.subscribe _ _)

end Store

open Store (Move Moves)

namespace Page

private theorem moves_dispatch (page : Page) (mount : Mount) (source : Source) :
    Moves page.store (page.dispatch mount source).store := by
  unfold dispatch presentFacts
  split
  · split
    · exact .single (.log _ rfl)
    · split
      · exact .refl
      · exact .single (.log _ rfl)
  · exact .single (.log _ rfl)

private theorem moves_poll (page : Page) (mount : Mount) (waker : Waker) :
    Moves page.store (page.poll mount waker).2.2.store := by
  have polled : Moves page.store (page.store.poll mount.watch waker).2.2 :=
    .single (.poll page.store mount.watch waker)
  unfold poll
  dsimp only
  split
  · exact polled
  · exact polled.trans
      (moves_dispatch { page with store := (page.store.poll mount.watch waker).2.2 } mount _)
  · exact polled

private theorem moves_unmount (page : Page) (mount : Mount) :
    Moves page.store (page.unmount mount).store :=
  .single (.unwatch _ _)

private theorem moves_collect (page : Page) (mount : Mount) :
    Moves page.store (page.collect mount).2.store := by
  have polled := moves_poll page mount .silent
  unfold collect
  dsimp only
  split
  · exact polled.trans (moves_unmount _ _)
  · exact polled.trans (moves_unmount _ _)
  · exact polled.trans ((moves_poll _ _ .silent).trans (moves_unmount _ _))

private theorem moves_mount (page : Page) (place : Nat) (anchor : Anchor) :
    Moves page.store (page.mount place anchor).2.store := by
  unfold mount
  split
  · exact .tail (.tail (.single (.log _ rfl)) (.blank _)) (.subscribe _ _)
  · exact Store.moves_watch page.store cache _

end Page

namespace Session

variable {session : Session} {operation : SessionOperation}

private theorem moves_dropWatch (session : Session) (name : String) :
    Moves session.page.store (session.dropWatch name).page.store := by
  unfold dropWatch
  split
  · exact .single (.unwatch _ _)
  · exact .refl

private theorem moves_dropMount (session : Session) (name : String) :
    Moves session.page.store (session.dropMount name).page.store := by
  unfold dropMount
  split
  · exact Page.moves_unmount _ _
  · exact .refl

/-- Elements are no business of the store. -/
theorem store_dropAnchor (session : Session) (name : String) :
    (session.dropAnchor name).page.store = session.page.store := by
  unfold dropAnchor
  split <;> rfl

private theorem moves_withLink {cache href : String} {action : Nat → Link → SessionAnswer × Session}
    (acts : ∀ place link, Moves session.page.store (action place link).2.page.store) :
    Moves session.page.store (session.withLink cache href action).2.page.store := by
  unfold withLink
  split
  · exact .refl
  · split
    · exact .refl
    · exact acts _ _

private theorem moves_watch (session : Session) (name : String) (cache : Nat) (link : Link) :
    Moves session.page.store (session.watch name cache link).2.page.store :=
  (Store.moves_watch session.page.store cache link).trans
    (moves_dropWatch (session.withStore (session.page.store.watch cache link).2) name)

private theorem moves_poll (session : Session) (name : String) (waker : Waker) :
    Moves session.page.store (session.poll name waker).2.page.store := by
  unfold poll
  split
  · exact .refl
  · exact .single (.poll _ _ waker)

private theorem moves_entry (session : Session) (cache : Nat) (link : Link) :
    Moves session.page.store (session.entry cache link).2.page.store := by
  unfold entry
  dsimp only
  split
  · exact .single (.entry _ cache link)
  · exact .refl

private theorem moves_sameEntry (session : Session) (left right leftHref rightHref : String) :
    Moves session.page.store
      (session.sameEntry left right leftHref rightHref).2.page.store :=
  moves_withLink fun first leftLink => moves_withLink fun second rightLink =>
    .tail (.single (.entry _ first leftLink)) (.entry _ second rightLink)

private theorem moves_fetch (session : Session) (href : String) :
    Moves session.page.store (session.fetch href).2.page.store := by
  unfold fetch
  split
  · exact .refl
  · exact .single (.fetch _ _)

private theorem moves_release (session : Session) (name : String) (state : GateState) :
    Moves session.page.store (session.release name state).2.page.store := by
  unfold release
  split
  · exact .refl
  · exact .single (.release _ _ state)

private theorem moves_mount (session : Session) (name anchor : String) :
    Moves session.page.store (session.mount name anchor).2.page.store := by
  unfold mount withElement
  split
  · exact .refl
  · next place _ =>
    split
    · next element _ =>
      have mounted := Page.moves_mount session.page place element
      dsimp only
      generalize session.page.mount place element = moved at mounted ⊢
      exact mounted.trans (moves_dropMount { session with page := moved.2 } name)
    · exact .refl

private theorem moves_pollMount (session : Session) (name : String) (waker : Waker) :
    Moves session.page.store (session.pollMount name waker).2.page.store := by
  unfold pollMount withMount
  split
  · exact .refl
  · next mount _ =>
    have polled := Page.moves_poll session.page mount waker
    dsimp only
    split <;> exact polled

private theorem moves_collectMount (session : Session) (name : String) :
    Moves session.page.store (session.collectMount name).2.page.store := by
  unfold collectMount withMount
  split
  · exact .refl
  · exact Page.moves_collect session.page _

/-- Every operation but the passing of time is a row of moves. -/
theorem moves_perform (other : ∀ milliseconds, operation ≠ .advance milliseconds) :
    Moves session.page.store (session.perform operation).2.page.store := by
  cases operation with
  | advance milliseconds => exact absurd rfl (other milliseconds)
  | cloneCache cache target =>
      simp only [perform]
      split <;> exact .refl
  | newCache target =>
      simp only [perform]
      exact .single (.newCache _)
  | watch cache name href =>
      simp only [perform]
      exact moves_withLink (moves_watch session name)
  | poll name waker =>
      simp only [perform]
      exact moves_poll session name waker
  | value name =>
      simp only [perform, value_snd]
      exact (moves_poll session name .silent).trans (moves_dropWatch _ name)
  | drop name =>
      simp only [perform]
      exact moves_dropWatch session name
  | entry cache href =>
      simp only [perform]
      exact moves_withLink (moves_entry session)
  | sameEntry left right leftHref rightHref =>
      simp only [perform]
      exact moves_sameEntry session left right leftHref rightHref
  | fetch href =>
      simp only [perform]
      exact moves_fetch session href
  | openGate gate facts =>
      simp only [perform]
      exact moves_release session gate _
  | failGate gate =>
      simp only [perform]
      exact moves_release session gate _
  | addAnchor name href =>
      have same : (session.addAnchor name href).page.store = session.page.store :=
        store_dropAnchor session name
      simp only [perform, same]
      exact .refl
  | dropAnchor name =>
      simp only [perform, store_dropAnchor]
      exact .refl
  | mount name anchor =>
      simp only [perform]
      exact moves_mount session name anchor
  | pollMount name waker =>
      simp only [perform]
      exact moves_pollMount session name waker
  | collectMount name =>
      simp only [perform]
      exact moves_collectMount session name
  | dropMount name =>
      simp only [perform]
      exact moves_dropMount session name
  | intoValue name =>
      simp only [perform]
      split <;> exact .refl
  | contains | size | calls | callsFor | identify | element | mountInfo | component
  | describeCache | describeMounter | describeMount =>
      rw [snd_perform_of_looks rfl]

end Session
end LinkFacts
