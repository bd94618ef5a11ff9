import LinkFacts.Proofs.Cache.Apart
import LinkFacts.Proofs.Session.Deadlines

/-!
# Different links do not interfere

In a session all links share caches, a provider and a page.  An operation that concerns one link
leaves all other links alone: their entries, the fetches that were made for them, whoever waits for
them, and what their subscriptions and mounts will give next.
-/

namespace LinkFacts

open Replay (Waker)
open Naming (put remove lookup_put lookup_remove)

/-! ## Invariants of gates -/

namespace Store

variable {before after : Store}

private theorem Move.ties (move : Move before after) (tied : before.Tied) : Ties before after := by
  cases move with
  | log | newCache => exact ties_of_phases rfl rfl
  | subscribe place => exact ties_modifyCell _ _ fun _ _ parked => .inl parked
  | unwatch watch => exact ties_modifyCell _ _ fun _ _ parked => .inl parked
  | blank => exact ties_addCell nofun
  | entry cache link => exact ties_entry cache link
  | poll watch waker => exact ties_poll tied watch waker
  | fetch link => exact ties_fetchOnce link
  | release gate state => exact ties_release gate state

private theorem Moves.ties (moves : Moves before after) (tied : before.Tied) :
    Ties before after := by
  induction moves with
  | refl => exact .refl before
  | tail _ move ih => exact ih.trans (move.ties (ih.tied tied))

end Store

namespace Page

variable {page : Page} {link : Link} {mount : Mount} {waker : Waker} {cache : Nat}

/-- The target of the element at a place, as long as it is there. -/
def href? (page : Page) (place : Nat) : Option String := (page.element? place).map Anchor.href

/-- Facts that are shown change no target. -/
theorem href?_presentFacts (page : Page) (place : Nat) (source : Source) :
    (page.presentFacts place source).href? = page.href? := by
  unfold presentFacts
  split
  · rfl
  · split
    · funext other
      simp only [href?, element?, List.getElem?_modify]
      by_cases same : place = other
      · subst same
        cases found : page.elements[place]? with
        | none => simp
        | some element =>
            obtain ⟨anchor, present⟩ := element
            cases present <;> simp [Anchor.present, Anchor.write]
      · cases found : page.elements[other]? <;> simp [same]
    · rfl

private theorem href?_poll (page : Page) (mount : Mount) (waker : Waker) :
    (page.poll mount waker).2.2.href? = page.href? := by
  unfold poll
  dsimp only
  split
  · rfl
  · unfold dispatch
    split
    · exact href?_presentFacts _ _ _
    · rfl
  · rfl

private theorem apart_dispatch {own : Option Waker} (page : Page) (mount : Mount)
    (source : Source) :
    Store.Apart link own page.store (page.dispatch mount source).store := by
  unfold dispatch presentFacts
  split
  · split
    · exact Store.apart_log nofun
    · split
      · exact .refl link own _
      · exact Store.apart_log nofun
  · exact Store.apart_log nofun

/-- A mount of a link is polled for this link. -/
theorem apart_poll (indexed : Store.Indexed page.store.phase? page.store.placeOf?)
    (separate : page.store.provider.Separate)
    (placed : page.store.placeOf? cache link = some mount.watch.place) (waker : Waker) :
    Store.Apart link (some waker) page.store (page.poll mount waker).2.2.store := by
  have polled := Store.apart_poll indexed separate placed waker
  unfold poll
  dsimp only
  split
  · exact polled
  · exact polled.trans
      (apart_dispatch { page with store := (page.store.poll mount.watch waker).2.2 } mount _)
  · exact polled

end Page

namespace Session

variable {session before middle after first : Session} {link other : Link} {own : Option Waker}
  {name : String} {operation : SessionOperation} {setup : SessionSetup}

/-- A subscription is one to the entry of a link. -/
def Watches (session : Session) (link : Link) (watch : Watch) : Prop :=
  ∃ cache, session.page.store.placeOf? cache link = some watch.place

/-- What a name stands for, if it stands for a subscription, is one to the entry of a link. -/
def WatchFor (session : Session) (link : Link) (name : String) : Prop :=
  ∃ watch, session.watches.lookup name = some watch ∧ session.Watches link watch

/-- A name stands for a mount of a link. -/
def MountFor (session : Session) (link : Link) (name : String) : Prop :=
  ∃ mount, session.mounts.lookup name = some mount ∧ session.Watches link mount.watch

/-- A name stands for a gate that holds up no other link. -/
def GateFor (session : Session) (link : Link) (name : String) : Prop :=
  ∃ gate, session.gates.lookup name = some gate ∧
    session.page.store.provider.isKnown = true ∧
    ∀ other, session.page.store.provider.gateOf? other = some gate → other = link

/-- An operation requests a link, or does something with a subscription, a mount or the gate of this
link.  A name that is used again must have stood for nothing, or for something of the link. -/
inductive Concerns (session : Session) (link : Link) : SessionOperation → Prop
  | watch {cache name href : String} (target : Link.ofTarget href = .ok link)
      (replaces : session.watches.lookup name = none ∨ session.WatchFor link name) :
    Concerns session link (.watch cache name href)
  | entry {cache href : String} (target : Link.ofTarget href = .ok link) :
    Concerns session link (.entry cache href)
  | sameEntry {left right leftHref rightHref : String} (first : Link.ofTarget leftHref = .ok link)
      (second : Link.ofTarget rightHref = .ok link) :
    Concerns session link (.sameEntry left right leftHref rightHref)
  | fetch {href : String} (target : Link.ofTarget href = .ok link) :
    Concerns session link (.fetch href)
  | poll {name : String} (held : session.WatchFor link name) (waker : Waker) :
    Concerns session link (.poll name waker)
  | value {name : String} (held : session.WatchFor link name) :
    Concerns session link (.value name)
  | drop {name : String} (held : session.WatchFor link name) :
    Concerns session link (.drop name)
  | mount {name anchor : String} {place : Nat} {element : Anchor}
      (named : session.anchors.lookup anchor = some place)
      (there : session.page.element? place = some element)
      (target : session.page.identify element = .ok link)
      (replaces : session.mounts.lookup name = none ∨ session.MountFor link name) :
    Concerns session link (.mount name anchor)
  | pollMount {name : String} (held : session.MountFor link name) (waker : Waker) :
    Concerns session link (.pollMount name waker)
  | collectMount {name : String} (held : session.MountFor link name) :
    Concerns session link (.collectMount name)
  | dropMount {name : String} (held : session.MountFor link name) :
    Concerns session link (.dropMount name)
  | openGate {name : String} (held : session.GateFor link name) (facts : Facts) :
    Concerns session link (.openGate name facts)
  | failGate {name : String} (held : session.GateFor link name) :
    Concerns session link (.failGate name)

end Session

/-- The waker that an operation hands to what it polls. -/
def SessionOperation.waker? : SessionOperation → Option Waker
  | .poll _ waker | .pollMount _ waker => some waker
  | .value _ | .collectMount _ => some .silent
  | _ => none

namespace Session

variable {session before middle after first : Session} {link other : Link} {own : Option Waker}
  {name : String} {operation : SessionOperation} {setup : SessionSetup}

/-- Something is done to a session for a link; the names of other links stand for what they stood
for. -/
structure Apart (link : Link) (own : Option Waker) (before after : Session) : Prop where
  store : Store.Apart link own before.page.store after.page.store
  watches : ∀ name watch, ¬ before.page.store.Spare link watch.place →
    before.watches.lookup name = some watch → after.watches.lookup name = some watch
  mounts : ∀ name mount, ¬ before.page.store.Spare link mount.watch.place →
    before.mounts.lookup name = some mount → after.mounts.lookup name = some mount
  anchors : after.anchors = before.anchors
  hrefs : after.page.href? = before.page.href?

theorem Apart.refl (session : Session) : Apart link own session session :=
  ⟨.refl link own _, fun _ _ _ found => found, fun _ _ _ found => found, rfl, rfl⟩

theorem Apart.trans (first : Apart link own before middle) (second : Apart link own middle after) :
    Apart link own before after where
  store := first.store.trans second.store
  watches name watch foreign found :=
    second.watches name watch (fun spare => foreign (spare.of_places first.store.places))
      (first.watches name watch foreign found)
  mounts name mount foreign found :=
    second.mounts name mount (fun spare => foreign (spare.of_places first.store.places))
      (first.mounts name mount foreign found)
  anchors := second.anchors.trans first.anchors
  hrefs := second.hrefs.trans first.hrefs

/-! ## Parts of operations -/

private theorem apart_withStore {store : Store}
    (apart : Store.Apart link own session.page.store store) :
    Apart link own session (session.withStore store) :=
  ⟨apart, fun _ _ _ found => found, fun _ _ _ found => found, rfl, rfl⟩

private theorem apart_page {page : Page}
    (apart : Store.Apart link own session.page.store page.store)
    (hrefs : page.href? = session.page.href?) :
    Apart link own session { session with page } :=
  ⟨apart, fun _ _ _ found => found, fun _ _ _ found => found, rfl, hrefs⟩

/-- What a name stands for, if it stands for a subscription, is one to no other link's entry. -/
def SpareWatch (session : Session) (link : Link) (name : String) : Prop :=
  ∀ watch, session.watches.lookup name = some watch → session.page.store.Spare link watch.place

/-- What a name stands for, if it stands for a mount, is one of no other link. -/
def SpareMount (session : Session) (link : Link) (name : String) : Prop :=
  ∀ mount, session.mounts.lookup name = some mount →
    session.page.store.Spare link mount.watch.place

/-- The name of a spare subscription may be given to another one. -/
theorem apart_watches {watches : List (String × Watch)} (spare : session.SpareWatch link name)
    (elsewhere : ∀ other, other ≠ name → watches.lookup other = session.watches.lookup other) :
    Apart link own session { session with watches } where
  store := .refl link own _
  watches other watch foreign found := by
    by_cases same : other = name
    · subst same
      exact absurd (spare watch found) foreign
    · exact (elsewhere other same).trans found
  mounts _ _ _ found := found
  anchors := rfl
  hrefs := rfl

private theorem apart_mounts {mounts : List (String × Mount)} (spare : session.SpareMount link name)
    (elsewhere : ∀ other, other ≠ name → mounts.lookup other = session.mounts.lookup other) :
    Apart link own session { session with mounts } where
  store := .refl link own _
  watches _ _ _ found := found
  mounts other mount foreign found := by
    by_cases same : other = name
    · subst same
      exact absurd (spare mount found) foreign
    · exact (elsewhere other same).trans found
  anchors := rfl
  hrefs := rfl

private theorem apart_putWatch (spare : session.SpareWatch link name) (watch : Watch) :
    Apart link own session { session with watches := put name watch session.watches } :=
  apart_watches spare fun other different => by rw [lookup_put, if_neg different]

private theorem apart_putMount (spare : session.SpareMount link name) (mount : Mount) :
    Apart link own session { session with mounts := put name mount session.mounts } :=
  apart_mounts spare fun other different => by rw [lookup_put, if_neg different]

private theorem apart_removeWatch (spare : session.SpareWatch link name) :
    Apart link own session { session with watches := remove name session.watches } :=
  apart_watches spare fun other different => by rw [lookup_remove, if_neg different]

private theorem apart_removeMount (spare : session.SpareMount link name) :
    Apart link own session { session with mounts := remove name session.mounts } :=
  apart_mounts spare fun other different => by rw [lookup_remove, if_neg different]

private theorem apart_dropWatch (spare : session.SpareWatch link name) :
    Apart link own session (session.dropWatch name) := by
  unfold dropWatch
  split
  · next watch found =>
    have freed : Apart link own session
        (session.withStore (session.page.store.unwatch watch)) :=
      apart_withStore (Store.apart_unwatch (spare watch found))
    have still : (session.withStore (session.page.store.unwatch watch)).SpareWatch link name :=
      fun other there => freed.store.spare (spare other there)
    exact freed.trans (apart_removeWatch still)
  · exact .refl session

private theorem apart_dropMount (spare : session.SpareMount link name) :
    Apart link own session (session.dropMount name) := by
  unfold dropMount
  split
  · next mount found =>
    have freed : Apart link own session { session with page := session.page.unmount mount } :=
      apart_page (Store.apart_unwatch (spare mount found)) rfl
    have still : { session with page := session.page.unmount mount }.SpareMount link name :=
      fun other there => freed.store.spare (spare other there)
    exact freed.trans (apart_removeMount still)
  · exact .refl session

private theorem spareWatch_dropWatch (session : Session) (name : String) :
    (session.dropWatch name).SpareWatch link name := by
  intro watch found
  unfold dropWatch at found
  split at found
  · simp only [lookup_remove, if_true] at found
    cases found
  · next missing => cases missing.symm.trans found

private theorem spareMount_dropMount (session : Session) (name : String) :
    (session.dropMount name).SpareMount link name := by
  intro mount found
  rw [lookup_dropMount, if_pos rfl] at found
  cases found

/-- Components and the names of gates are no business of any link. -/
theorem Apart.besides (apart : Apart link own before after)
    (components : List (String × Component)) (gates : List (String × Nat)) :
    Apart link own before { after with components, gates } :=
  ⟨apart.store, apart.watches, apart.mounts, apart.anchors, apart.hrefs⟩

private theorem apart_withLink {cache href : String} {action : Nat → Link → SessionAnswer × Session}
    (target : Link.ofTarget href = .ok link)
    (acts : ∀ place, session.caches.lookup cache = some place →
      Apart link own session (action place link).2) :
    Apart link own session (session.withLink cache href action).2 := by
  unfold withLink
  split
  · exact .refl session
  · next place found =>
    simp only [target]
    exact acts place found

/-! ## Operations -/

/-- The names of a session are in order, and so are the gates of its provider. -/
structure Ordered (session : Session) : Prop where
  sound : session.Sound
  separate : session.page.store.provider.Separate
  tied : session.page.store.Tied

private theorem Ordered.spare_of_watches (ordered : session.Ordered) {watch : Watch}
    (held : session.Watches link watch) : session.page.store.Spare link watch.place := by
  obtain ⟨cache, placed⟩ := held
  exact Store.spare_of_placed ordered.sound.indexed placed

private theorem Ordered.spareWatch (ordered : session.Ordered) (held : session.WatchFor link name) :
    session.SpareWatch link name := by
  intro watch found
  obtain ⟨other, named, watches⟩ := held
  cases named.symm.trans found
  exact ordered.spare_of_watches watches

private theorem Ordered.spareMount (ordered : session.Ordered) (held : session.MountFor link name) :
    session.SpareMount link name := by
  intro mount found
  obtain ⟨other, named, watches⟩ := held
  cases named.symm.trans found
  exact ordered.spare_of_watches watches

private theorem apart_watch (ordered : session.Ordered) {cache : Nat}
    (inside : cache < session.page.store.caches.length)
    (replaces : session.watches.lookup name = none ∨ session.WatchFor link name) :
    Apart link own session (session.watch name cache link).2 := by
  have spare : session.SpareWatch link name := by
    obtain missing | held := replaces
    · exact fun watch found => by cases missing.symm.trans found
    · exact ordered.spareWatch held
  have watched : Apart link own session
      (session.withStore (session.page.store.watch cache link).2) :=
    apart_withStore (Store.apart_watch ordered.sound.indexed inside)
  have still : (session.withStore (session.page.store.watch cache link).2).SpareWatch link name :=
    fun watch found => watched.store.spare (spare watch found)
  exact (watched.trans (apart_dropWatch still)).trans
    (apart_putWatch (spareWatch_dropWatch _ name) _)

private theorem apart_poll (ordered : session.Ordered) (held : session.WatchFor link name)
    (waker : Waker) : Apart link (some waker) session (session.poll name waker).2 := by
  have spare := ordered.spareWatch held
  obtain ⟨watch, named, cache, placed⟩ := held
  simp only [poll, named]
  have polled : Apart link (some waker) session
      (session.withStore (session.page.store.poll watch waker).2.2) :=
    apart_withStore (Store.apart_poll ordered.sound.indexed ordered.separate placed waker)
  have still : (session.withStore (session.page.store.poll watch waker).2.2).SpareWatch link name :=
    fun other found => polled.store.spare (spare other found)
  exact polled.trans (apart_putWatch still _)

/-- The subscription stays what it is when it is polled. -/
theorem spareWatch_poll (ordered : session.Ordered) (held : session.WatchFor link name)
    (waker : Waker) : (session.poll name waker).2.SpareWatch link name := by
  have apart := apart_poll ordered held waker
  obtain ⟨watch, named, watches⟩ := held
  have spare := apart.store.spare (ordered.spare_of_watches watches)
  intro other found
  simp only [poll, named, lookup_put, if_true] at found spare ⊢
  cases found
  rw [Store.place_poll]
  exact spare

private theorem apart_sameEntry (ordered : session.Ordered) {left right leftHref rightHref : String}
    (first : Link.ofTarget leftHref = .ok link) (second : Link.ofTarget rightHref = .ok link) :
    Apart link own session (session.sameEntry left right leftHref rightHref).2 := by
  refine apart_withLink first fun one known => apart_withLink second fun two other => ?_
  have step : Store.Step .nothing session.page.store (session.page.store.entry one link).2 :=
    Store.step_entry (ordered.sound.caches left one known)
  have inside := Nat.lt_of_lt_of_le (ordered.sound.caches right two other) step.width
  exact apart_withStore ((Store.apart_entry (ordered.sound.caches left one known)).trans
    (Store.apart_entry inside))

private theorem apart_entry (ordered : session.Ordered) {cache : Nat}
    (inside : cache < session.page.store.caches.length) :
    Apart link own session (session.entry cache link).2 := by
  rw [snd_entry ordered.sound inside]
  exact apart_withStore (Store.apart_entry inside)

private theorem apart_mount (ordered : session.Ordered) {anchor : String} {place : Nat}
    {element : Anchor} (named : session.anchors.lookup anchor = some place)
    (there : session.page.element? place = some element)
    (target : session.page.identify element = .ok link)
    (replaces : session.mounts.lookup name = none ∨ session.MountFor link name) :
    Apart link own session (session.mount name anchor).2 := by
  have spare : session.SpareMount link name := by
    obtain missing | held := replaces
    · exact fun mount found => by cases missing.symm.trans found
    · exact ordered.spareMount held
  simp only [mount, withElement, named, there, Page.mount, target]
  have mounted : Apart link own session { session with
      page := { session.page with store := (session.page.store.watch Page.cache link).2 } } :=
    apart_page (Store.apart_watch ordered.sound.indexed ordered.sound.home) rfl
  have still : Session.SpareMount { session with
      page := { session.page with store := (session.page.store.watch Page.cache link).2 } }
      link name :=
    fun other found => mounted.store.spare (spare other found)
  exact (mounted.trans (apart_dropMount still)).trans
    (apart_putMount (spareMount_dropMount _ name) _)

private theorem apart_pollMount (ordered : session.Ordered) (held : session.MountFor link name)
    (waker : Waker) : Apart link (some waker) session (session.pollMount name waker).2 := by
  have spare := ordered.spareMount held
  obtain ⟨mount, named, cache, placed⟩ := held
  simp only [pollMount, withMount, named]
  have polled : Apart link (some waker) session
      { session with page := (session.page.poll mount waker).2.2 } :=
    apart_page (Page.apart_poll ordered.sound.indexed ordered.separate placed waker)
      (Page.href?_poll _ mount waker)
  have still : { session with page := (session.page.poll mount waker).2.2 }.SpareMount link name :=
    fun other found => polled.store.spare (spare other found)
  have moved := polled.trans (apart_putMount still (session.page.poll mount waker).2.1)
  split
  · exact moved
  · exact moved
  · exact moved.besides _ _

private theorem apart_collectMount (ordered : session.Ordered) (held : session.MountFor link name) :
    Apart link (some .silent) session (session.collectMount name).2 := by
  have spare := ordered.spareMount held
  obtain ⟨mount, named, cache, placed⟩ := held
  have collected := Page.collect_eq (ordered.sound.mounts name mount named) (ordered.sound.calm _)
  simp only [collectMount, withMount, named, collected]
  have polled := Page.apart_poll ordered.sound.indexed ordered.separate placed .silent
  have dropped : Store.Apart link (some .silent) (session.page.poll mount .silent).2.2.store
      ((session.page.poll mount .silent).2.2.unmount (session.page.poll mount .silent).2.1).store :=
    Store.apart_unwatch (by
      rw [Page.place_poll]
      exact polled.spare (spare mount named))
  have moved : Apart link (some .silent) session { session with
      page := (session.page.poll mount .silent).2.2.unmount
        (session.page.poll mount .silent).2.1 } :=
    apart_page (polled.trans dropped) (Page.href?_poll _ mount .silent)
  have still : Session.SpareMount { session with
      page := (session.page.poll mount .silent).2.2.unmount
        (session.page.poll mount .silent).2.1 } link name :=
    fun other found => moved.store.spare (spare other found)
  exact moved.trans (apart_removeMount still)

private theorem apart_release (ordered : session.Ordered) (held : session.GateFor link name)
    (state : GateState) : Apart link own session (session.release name state).2 := by
  obtain ⟨gate, named, known, mine⟩ := held
  simp only [release, named]
  have released : Apart link own session
      (session.withStore (session.page.store.release gate state)) :=
    apart_withStore
      (Store.apart_release ordered.sound.indexed ordered.tied known mine state)
  exact released.besides _ _

private theorem apart_fetch (ordered : session.Ordered) {href : String}
    (target : Link.ofTarget href = .ok link) :
    Apart link own session (session.fetch href).2 := by
  simp only [fetch, target, Store.fetchOnce_snd]
  exact apart_withStore (Store.apart_provider (Provider.tends_begin ordered.separate link))

/-- An operation that concerns a link touches nothing of any other link. -/
theorem apart_perform (ordered : session.Ordered) (concerns : session.Concerns link operation) :
    Apart link operation.waker? session (session.perform operation).2 := by
  cases concerns with
  | watch target replaces =>
      simp only [perform]
      exact apart_withLink target fun place known =>
        apart_watch ordered (ordered.sound.caches _ place known) replaces
  | entry target =>
      simp only [perform]
      exact apart_withLink target fun place known =>
        apart_entry ordered (ordered.sound.caches _ place known)
  | sameEntry first second =>
      simp only [perform]
      exact apart_sameEntry ordered first second
  | fetch target =>
      simp only [perform]
      exact apart_fetch ordered target
  | poll held waker =>
      simp only [perform]
      exact apart_poll ordered held waker
  | value held =>
      simp only [perform, value_snd]
      exact (apart_poll ordered held .silent).trans
        (apart_dropWatch (spareWatch_poll ordered held .silent))
  | drop held =>
      simp only [perform]
      exact apart_dropWatch (ordered.spareWatch held)
  | mount named there target replaces =>
      simp only [perform]
      exact apart_mount ordered named there target replaces
  | pollMount held waker =>
      simp only [perform]
      exact apart_pollMount ordered held waker
  | collectMount held =>
      simp only [perform]
      exact apart_collectMount ordered held
  | dropMount held =>
      simp only [perform]
      exact apart_dropMount (ordered.spareMount held)
  | openGate held facts =>
      simp only [perform]
      exact apart_release ordered held _
  | failGate held =>
      simp only [perform]
      exact apart_release ordered held _

/-! ## Whole runs -/

private theorem Ordered.perform (ordered : session.Ordered) (operation : SessionOperation) :
    (session.perform operation).2.Ordered := by
  have ties : Store.Ties session.page.store (session.perform operation).2.page.store := by
    cases operation with
    | advance milliseconds => exact Store.ties_advance milliseconds
    | _ => exact (moves_perform fun _ same => by cases same).ties ordered.tied
  exact ⟨(follows_perform ordered.sound operation).sound ordered.sound,
    ordered.separate.of_gates ties.gates, ties.tied ordered.tied⟩

private theorem Ordered.run (ordered : session.Ordered) (operations : List SessionOperation) :
    (session.run operations).Ordered := by
  induction operations generalizing session with
  | nil => exact ordered
  | cons operation rest ih => exact ih (ordered.perform operation)

private theorem ordered_start (started : start setup = .ok first) : first.Ordered := by
  obtain ⟨sound, -⟩ := spec_start started ⟨""⟩
  obtain ⟨provider, gates, base, template, provides, rfl⟩ := start_cases started
  exact ⟨sound, separate_provide provides, fun place task parked => by cases parked⟩

/-! ## What the other links see -/

/-- A waker is kept by nobody but subscribers of a link. -/
def KeptOnlyFor (session : Session) (link : Link) (waker : Waker) : Prop :=
  ∀ place, session.page.store.Keeps place waker →
    ∃ cache, session.page.store.placeOf? cache link = some place

/-- An operation leaves everything as it is that has to do with a link. -/
structure Untouched (link : Link) (session : Session) (operation : SessionOperation) : Prop where
  /-- The entries of the link are where they were, and no entry appears. -/
  placed : ∀ cache, (session.perform operation).2.page.store.placeOf? cache link =
    session.page.store.placeOf? cache link
  /-- The entries are as far as they were, with the same fetch in flight and the same wakers. -/
  entries : ∀ cache place, session.page.store.placeOf? cache link = some place →
    (session.perform operation).2.page.store.cells[place]? = session.page.store.cells[place]?
  /-- Nothing was fetched for the link. -/
  fetches : (session.perform operation).2.page.store.fetched.count link =
    session.page.store.fetched.count link
  /-- The provider was not called for the link, if it keeps a list of its calls. -/
  calls : (session.perform operation).2.page.store.provider.calls?.map (·.count link) =
    session.page.store.provider.calls?.map (·.count link)
  /-- No subscription to the link is woken, and no waker that is kept only for the link. -/
  unwoken : ∃ news,
    (session.perform operation).2.page.store.journal = news ++ session.page.store.journal ∧
      (∀ cache place id waker, session.page.store.placeOf? cache link = some place →
        Note.woke place id waker ∉ news) ∧
      ∀ waker, session.KeptOnlyFor link waker → operation.waker? ≠ some waker →
        ∀ place id, Note.woke place id waker ∉ news
  /-- A subscription gives next what it would have given; of a provider of which nothing is known
  it has to be said that it says the same of the link. -/
  polled : ∀ cache name watch waker, session.watches.lookup name = some watch →
    session.page.store.placeOf? cache link = some watch.place →
    (session.page.store.provider.isKnown = true ∨
      (session.perform operation).2.answerNow? cache link = session.answerNow? cache link) →
    ((session.perform operation).2.perform (.poll name waker)).1 =
      (session.perform (.poll name waker)).1
  /-- So does a mount. -/
  mounted : ∀ cache name mount waker, session.mounts.lookup name = some mount →
    session.page.store.placeOf? cache link = some mount.watch.place →
    (session.page.store.provider.isKnown = true ∨
      (session.perform operation).2.answerNow? cache link = session.answerNow? cache link) →
    ((session.perform operation).2.perform (.pollMount name waker)).1 =
      (session.perform (.pollMount name waker)).1

/-- What a poll of a mount answers, by what the poll of its subscription gives. -/
theorem fst_pollMount {mount : Mount} (found : session.mounts.lookup name = some mount)
    (waker : Waker) : (session.perform (.pollMount name waker)).1 =
      match (session.page.store.poll mount.watch waker).1 with
      | .pending => .pending
      | .ended => .ended
      | .item source => .componentItem
          ⟨source.facts, session.page.href? mount.element,
            (session.anchors.filter (·.2 = mount.element)).map (·.1)⟩ := by
  have given := Page.fst_poll session.page mount waker
  have hrefs := Page.href?_poll session.page mount waker
  simp only [perform, pollMount, withMount, found]
  rw [given]
  cases (session.page.store.poll mount.watch waker).1 with
  | pending | ended => rfl
  | item source =>
      rw [← hrefs]
      rfl

section Others

variable {cache : Nat} {watch : Watch}

private theorem Apart.fst_poll (apart : Apart link own session after) (ordered : session.Ordered)
    (different : other ≠ link) (placed : session.page.store.placeOf? cache other = some watch.place)
    (alike : session.page.store.provider.isKnown = true ∨
      after.answerNow? cache other = session.answerNow? cache other) (waker : Waker) :
    (after.page.store.poll watch waker).1 = (session.page.store.poll watch waker).1 := by
  obtain ⟨phase, found, about⟩ := ordered.sound.indexed.placed cache other _ placed
  have phases : after.page.store.phase? watch.place = session.page.store.phase? watch.place :=
    congrArg (·.map Replay.Cell.phase) (apart.store.cell different placed found)
  have kept : after.page.store.placeOf? cache other = some watch.place :=
    (apart.store.places cache other different).trans placed
  refine Store.fst_poll_congr phases found (fun driven => ?_) apart.store.timing ?_ waker
  · exact ordered.sound.calm _ (driven ▸ found)
  · obtain known | same := alike
    · refine apart.store.says? known different about fun task parked => ?_
      exact ordered.tied _ task (parked ▸ found)
    · rw [answerNow?, answerNow?, Store.entry?_of_placed kept, Store.entry?_of_placed placed,
        phases, found] at same
      exact same

private theorem foreign_of_placed (different : other ≠ link)
    (placed : session.page.store.placeOf? cache other = some watch.place) :
    ¬ session.page.store.Spare link watch.place :=
  fun spare => different (spare cache other placed)

/-- What is done for one link leaves another link untouched. -/
theorem untouched_of_apart (ordered : session.Ordered) (different : other ≠ link)
    (apart : Apart link operation.waker? session (session.perform operation).2) :
    session.Untouched other operation := by
  refine ⟨?_, ?_, ?_, ?_, ?_, ?_, ?_⟩
  · exact fun cache => apart.store.places cache other different
  · intro cache place placed
    obtain ⟨phase, found, -⟩ := ordered.sound.indexed.placed cache other place placed
    exact apart.store.cell different placed found
  · exact apart.store.fetched other different
  · exact apart.store.provider.calls other different
  · obtain ⟨news, grown, wakes⟩ := apart.store.journal
    refine ⟨news, grown, fun cache place id waker placed woken => ?_,
      fun waker only foreign place id woken => ?_⟩
    · exact different ((wakes place id waker woken).1 cache other placed)
    · obtain ⟨spare, keeps | mine⟩ := wakes place id waker woken
      · obtain ⟨cache, placed⟩ := only place keeps
        exact different (spare cache other placed)
      · exact foreign mine
  · intro cache name watch waker named placed alike
    have kept := apart.watches name watch (foreign_of_placed different placed) named
    have same := apart.fst_poll ordered different placed alike waker
    simp only [perform, poll, named] at kept same ⊢
    simp only [kept, same]
  · intro cache name mount waker named placed alike
    have kept := apart.mounts name mount (foreign_of_placed different placed) named
    rw [fst_pollMount kept, fst_pollMount named, apart.hrefs, apart.anchors,
      apart.fst_poll ordered different placed alike waker]

end Others

/-- An operation that concerns one link leaves every other link untouched. -/
theorem links_apart (started : start setup = .ok first) (operations : List SessionOperation)
    (different : other ≠ link) (concerns : (first.run operations).Concerns link operation) :
    (first.run operations).Untouched other operation := by
  have ordered := (ordered_start started).run operations
  exact untouched_of_apart ordered different (apart_perform ordered concerns)

/-- A provider that holds two links up, each at a gate of its own. -/
def twoGatesSetup : SessionSetup :=
  ⟨.scripts [("https://x/", .gated "g"), ("https://y/", .gated "h")], none, some "", none⟩

/-- The session that starts with this provider. -/
def twoGatesSession : Session :=
  ⟨⟨.start (.scripted ⟨[(⟨"https://y/"⟩, .gated 1), (⟨"https://x/"⟩, .gated 0)],
      [⟨.shut, false⟩, ⟨.shut, false⟩], []⟩) none, [], ⟨[]⟩, none⟩,
    [(firstCache, Page.cache)], [], [], [], [], [("h", 1), ("g", 0)]⟩

/-- Both links have a subscriber who waits. -/
def bothWait : List SessionOperation :=
  [.watch "c" "s" "https://x/", .watch "c" "t" "https://y/", .poll "s" (.named "v"),
    .poll "t" (.named "w")]

/-- The facts of one link arrive. -/
def firstArrives : SessionOperation := .openGate "g" (Facts.ofList [("stars", "5")])

theorem waiter_of_other_link_sleeps :
    start twoGatesSetup = .ok twoGatesSession ∧ (⟨"https://y/"⟩ : Link) ≠ ⟨"https://x/"⟩ ∧
      (twoGatesSession.run bothWait).Concerns ⟨"https://x/"⟩ firstArrives ∧
      (twoGatesSession.run bothWait).Untouched ⟨"https://y/"⟩ firstArrives ∧
      ((twoGatesSession.run bothWait).perform firstArrives).2.page.store.journal =
        .woke 0 0 (.named "v") :: (twoGatesSession.run bothWait).page.store.journal := by
  have started : start twoGatesSetup = .ok twoGatesSession := by cbv
  have different : (⟨"https://y/"⟩ : Link) ≠ ⟨"https://x/"⟩ := by decide
  have ordered := (ordered_start started).run bothWait
  have named : (twoGatesSession.run bothWait).gates.lookup "g" = some 0 := by cbv
  have known : (twoGatesSession.run bothWait).page.store.provider.isKnown = true := by cbv
  have gated : (twoGatesSession.run bothWait).page.store.provider.gateOf? ⟨"https://x/"⟩ =
      some 0 := by cbv
  have held : (twoGatesSession.run bothWait).GateFor ⟨"https://x/"⟩ "g" :=
    ⟨0, named, known, fun other same => ordered.separate other _ 0 same gated⟩
  have concerns : (twoGatesSession.run bothWait).Concerns ⟨"https://x/"⟩ firstArrives :=
    .openGate held _
  have woken : ((twoGatesSession.run bothWait).perform firstArrives).2.page.store.journal =
      .woke 0 0 (.named "v") :: (twoGatesSession.run bothWait).page.store.journal := by cbv
  exact ⟨started, different, concerns, links_apart started bothWait different concerns, woken⟩

end Session
end LinkFacts
