import LinkFacts.Proofs.Cache.Ending
import LinkFacts.Proofs.Component.Writing

/-!
# Mounts

A mount waits for the entry of its element's link, or for nothing if the element has no link.  Its
polls give what polls of a subscription give, and it writes to its element when it gives facts.
-/

namespace LinkFacts

open Replay (Cell Waker)
open Store (Demand Steps Indexed)

/-- What polling gives once something was made of the value. -/
def Poll.map {α β : Type} (make : α → β) : Poll α → Poll β
  | pending => .pending
  | item value => .item (make value)
  | ended => .ended

/-- Polling gave a value. -/
def Poll.isItem {α : Type} : Poll α → Bool
  | item _ => true
  | _ => false

namespace Store

variable {store : Store} {watch : Watch}

/-- A poll that gives anything ends the subscription. -/
theorem done_poll_iff (holds : store.Holds watch) (calm : store.phase? watch.place ≠ some .driven)
    (waker : Waker) :
    (store.poll watch waker).2.1.done = false ↔ (store.poll watch waker).1 = .pending := by
  cases ends : watch.done with
  | true => simp [poll_of_done ends, ends]
  | false =>
      obtain ⟨phase, found, -⟩ := holds
      obtain ⟨later, -, gives⟩ := gives_poll ends found (fun driven => calm (driven ▸ found)) waker
      rw [gives.ends, gives.answers]
      rcases store.verdict? phase with _ | _ | source <;> simp [answerOf]

end Store

namespace Page

variable {page after : Page} {mount : Mount} {waker : Waker} {demand : Demand}

/-- A mount is bound to the entry of its element's link and open until it is over, or it is bound to
nothing and closed. -/
inductive Fits (page : Page) (mount : Mount) : Prop
  | bound {link : Link} (named : page.link? mount.element = some link)
      (placed : page.store.placeOf? cache link = some mount.watch.place)
      (opened : mount.dispatch = if mount.watch.done then .closed else ⟨some mount.element⟩)
  | loose (inside : mount.element < page.elements.length)
      (unnamed : page.link? mount.element = none)
      (finished : page.store.phase? mount.watch.place = some .completed)
      (closed : mount.dispatch = .closed)

private theorem lt_of_link? {place : Nat} {link : Link} (named : page.link? place = some link) :
    place < page.elements.length := by
  obtain ⟨element, there, -⟩ := Option.bind_eq_some_iff.mp named
  exact (List.getElem?_eq_some_iff.mp there).1

theorem Fits.later {requests : List (Nat × Link)} {written : Nat → List Mutation}
    (fits : page.Fits mount) (turns : Turns requests written page after)
    (steps : Steps demand page.store after.store) : after.Fits mount := by
  cases fits with
  | bound named placed opened =>
      exact .bound ((turns.links _ (lt_of_link? named)).trans named) (steps.fixed placed) opened
  | loose inside unnamed finished closed =>
      obtain ⟨later, reached, leads⟩ := steps.leads finished
      have settled : Store.Leads (Cell.settledPhase none) later := leads
      have same : later = .completed := settled.of_settled
      exact .loose (Nat.lt_of_lt_of_le inside turns.size) ((turns.links _ inside).trans unnamed)
        (same ▸ reached) closed

/-! ## Polling a mount -/

/-- A mount gives what its subscription gives. -/
theorem fst_poll (page : Page) (mount : Mount) (waker : Waker) : (page.poll mount waker).1 =
    (page.store.poll mount.watch waker).1.map fun source => ⟨mount.element, source⟩ := by
  unfold poll
  dsimp only
  cases (page.store.poll mount.watch waker).1 <;> rfl

private theorem element_poll (page : Page) (mount : Mount) (waker : Waker) :
    (page.poll mount waker).2.1.element = mount.element := by
  unfold poll
  dsimp only
  split <;> rfl

/-- A mount is closed by the poll that gives anything. -/
theorem dispatch_poll (page : Page) (mount : Mount) (waker : Waker) :
    (page.poll mount waker).2.1.dispatch =
      match (page.store.poll mount.watch waker).1 with
      | .pending => mount.dispatch
      | _ => .closed := by
  unfold poll
  dsimp only
  cases (page.store.poll mount.watch waker).1 <;> rfl

/-- A mount that is over stays so. -/
theorem poll_of_done (done : mount.watch.done = true) (waker : Waker) :
    page.poll mount waker = (.ended, { mount with dispatch := .closed }, page) := by
  simp only [poll, Store.poll_of_done done]
  rfl

/-- The only mounts that give facts are open ones that are bound to the link of their element. -/
theorem Fits.of_item {source : Source} (fits : page.Fits mount)
    (holds : page.store.Holds mount.watch)
    (calm : page.store.phase? mount.watch.place ≠ some .driven)
    (item : (page.store.poll mount.watch waker).1 = .item source) :
    ∃ link, page.link? mount.element = some link ∧
      page.store.placeOf? cache link = some mount.watch.place ∧
      mount.dispatch = ⟨some mount.element⟩ := by
  cases fits with
  | bound named placed opened =>
      rw [(Store.poll_item holds calm item).1] at opened
      exact ⟨_, named, placed, opened⟩
  | loose inside unnamed finished closed =>
      rw [(Store.poll_completed finished waker).1] at item
      cases item

theorem poll_of_item {source : Source} (opened : mount.dispatch = ⟨some mount.element⟩)
    (item : (page.store.poll mount.watch waker).1 = .item source) :
    (page.poll mount waker).2.2 =
      { page with store := (page.store.poll mount.watch waker).2.2 }.presentFacts
        mount.element source := by
  simp only [poll, item, dispatch, opened, Dispatch.take]

/-- Facts that cannot be shown change no element. -/
theorem elements_presentFacts {place : Nat} {source : Source}
    (unshown : page.element? place = none ∨
      ∃ fault, Render.render page.template source.facts = .error fault) :
    (page.presentFacts place source).elements = page.elements := by
  unfold presentFacts
  split
  · rfl
  · next anchor there =>
    obtain gone | ⟨fault, failed⟩ := unshown
    · cases gone.symm.trans there
    · rw [failed]
      rfl

/-- The facts of its link are written to the element of a mount when the mount gives them. -/
theorem turns_poll (fits : page.Fits mount) (holds : page.store.Holds mount.watch)
    (calm : page.store.phase? mount.watch.place ≠ some .driven) (waker : Waker) :
    Turns [] (fun place => if place = mount.element ∧ (page.poll mount waker).1.isItem then
        { page with store := (page.poll mount waker).2.2.store }.block place else [])
      page (page.poll mount waker).2.2 := by
  have moved : Turns [] blank page { page with store := (page.store.poll mount.watch waker).2.2 } :=
    turns_of_caches (Store.caches_poll _ _ waker)
  rw [fst_poll]
  cases polled : (page.store.poll mount.watch waker).1 with
  | pending =>
      have same : (page.poll mount waker).2.2 =
          { page with store := (page.store.poll mount.watch waker).2.2 } := by
        simp only [poll, polled]
      rw [same]
      exact moved.congr fun place => by simp [Poll.map, Poll.isItem, blank]
  | ended =>
      have same : (page.poll mount waker).2.2 =
          { page with store := (page.store.poll mount.watch waker).2.2 } := by
        simp only [poll, polled]
      rw [same]
      exact moved.congr fun place => by simp [Poll.map, Poll.isItem, blank]
  | item source =>
      obtain ⟨link, named, placed, opened⟩ := fits.of_item holds calm polled
      obtain ⟨-, -, resolved⟩ := Store.poll_item holds calm polled
      have quiet := quiet_poll page mount waker
      have block : { page with store := (page.poll mount waker).2.2.store }.block mount.element =
          page.writes mount.element source := by
        refine block_of_resolved named ?_ ((congrFun quiet.phases _).trans resolved)
        rw [quiet.places]
        exact (Store.step_poll page.store mount.watch waker).fixed placed
      have written := moved.after_blank
        (turns_presentFacts { page with store := (page.store.poll mount.watch waker).2.2 }
          mount.element source)
      rw [← poll_of_item opened polled] at written
      refine written.congr fun place => ?_
      by_cases same : place = mount.element
      · subst same
        simp only [Poll.map, Poll.isItem, and_self, if_true, block]
        rfl
      · simp [same]

theorem Fits.poll (fits : page.Fits mount) (holds : page.store.Holds mount.watch)
    (calm : page.store.phase? mount.watch.place ≠ some .driven) (waker : Waker) :
    (page.poll mount waker).2.2.Fits (page.poll mount waker).2.1 := by
  have still := fits.later (turns_poll fits holds calm waker) (steps_poll page mount waker)
  cases still with
  | bound named placed opened =>
      refine .bound (by rw [element_poll]; exact named) (by rw [place_poll]; exact placed) ?_
      have ends := Store.done_poll_iff holds calm waker
      rw [dispatch_poll, watch_poll, element_poll]
      cases polled : (page.store.poll mount.watch waker).1 with
      | pending =>
          have live : mount.watch.done = false := by
            refine Bool.eq_false_iff.mpr fun done => ?_
            rw [Store.poll_of_done done] at polled
            cases polled
          simpa [ends.mpr polled, live] using opened
      | item source | ended =>
          have finished : (page.store.poll mount.watch waker).2.1.done = true := by
            refine Bool.not_eq_false _ ▸ fun live => ?_
            cases polled.symm.trans (ends.mp live)
          rw [finished]
          rfl
  | loose inside unnamed finished closed =>
      refine .loose (by rw [element_poll]; exact inside) (by rw [element_poll]; exact unnamed)
        (by rw [place_poll]; exact finished) ?_
      rw [dispatch_poll]
      split
      · exact closed
      · rfl

/-- A closed mount gives nothing any more, and nothing happens to it. -/
theorem Fits.poll_of_closed (fits : page.Fits mount) (closed : mount.dispatch = .closed)
    (waker : Waker) : (page.poll mount waker).1 = .ended ∧
      (page.poll mount waker).2.1.dispatch = .closed ∧
      (page.poll mount waker).2.2.elements = page.elements ∧
      (page.poll mount waker).2.2.store.caches = page.store.caches ∧
      (page.poll mount waker).2.2.store.provider = page.store.provider ∧
      (page.poll mount waker).2.2.store.fetched = page.store.fetched := by
  cases fits with
  | bound named placed opened =>
      have done : mount.watch.done = true := by
        by_contra live
        rw [closed, if_neg live] at opened
        cases opened
      rw [poll_of_done done]
      exact ⟨rfl, rfl, rfl, rfl, rfl, rfl⟩
  | loose inside unnamed finished closed =>
      obtain ⟨ended, -, provider, fetched⟩ := Store.poll_completed finished waker
      have caches := Store.caches_poll page.store mount.watch waker
      simp only [Page.poll, ended]
      exact ⟨trivial, rfl, trivial, caches, provider, fetched⟩

/-! ## Collecting a mount -/

/-- To collect a mount is to poll it once and to let go of it: after a value it has nothing more. -/
theorem collect_eq (holds : page.store.Holds mount.watch)
    (calm : page.store.phase? mount.watch.place ≠ some .driven) : page.collect mount =
      (match (page.poll mount .silent).1 with
        | .pending => none
        | .ended => some []
        | .item component => some [component],
      (page.poll mount .silent).2.2.unmount (page.poll mount .silent).2.1) := by
  unfold collect
  dsimp only
  cases polled : (page.poll mount .silent).1 with
  | pending => rfl
  | ended => rfl
  | item component =>
      have finished : (page.poll mount .silent).2.1.watch.done = true := by
        refine Bool.not_eq_false _ ▸ fun live => ?_
        rw [watch_poll, Store.done_poll_iff holds calm] at live
        rw [fst_poll, live] at polled
        cases polled
      rw [poll_of_done finished]
      rfl

theorem turns_unmount (page : Page) (mount : Mount) : Turns [] blank page (page.unmount mount) :=
  turns_of_caches rfl

/-! ## Making a mount -/

/-- The links that are requested when the facts of an anchor's link are mounted. -/
def requestsOf (page : Page) (anchor : Anchor) : List (Nat × Link) :=
  match page.identify anchor with
  | .ok link => [(cache, link)]
  | .error _ => []

theorem mount_of_error {anchor : Anchor} {fault : Link.Fault}
    (identified : page.identify anchor = .error fault) (place : Nat) :
    page.mount place anchor = page.mountNothing place := by
  simp only [mount, identified]

private theorem turns_mountNothing (page : Page) (place : Nat) :
    Turns [] blank page (page.mountNothing place).2 :=
  turns_of_caches rfl

theorem turns_mount (inside : cache < page.store.caches.length) (place : Nat) (anchor : Anchor) :
    Turns (page.requestsOf anchor) blank page (page.mount place anchor).2 := by
  cases identified : page.identify anchor with
  | error fault =>
      rw [mount_of_error identified]
      simp only [requestsOf, identified]
      exact turns_mountNothing page place
  | ok link =>
      simp only [mount, requestsOf, identified]
      exact turns_store (Store.files_watch inside)

/-- A mount without a link leaves the caches and the provider alone. -/
theorem mountNothing_spec (page : Page) (place : Nat) :
    (page.mountNothing place).2.store.caches = page.store.caches ∧
      (page.mountNothing place).2.store.provider = page.store.provider ∧
      (page.mountNothing place).2.store.fetched = page.store.fetched :=
  ⟨rfl, rfl, rfl⟩

private theorem over_mountNothing (page : Page) (place : Nat) :
    (page.mountNothing place).2.store.phase? (page.mountNothing place).1.watch.place =
      some .completed := by
  have watched : Store.Quiet ((page.store.log .noLink).addCell (.ofPhase .completed))
      (page.mountNothing place).2.store := Store.quiet_subscribe _
  rw [watched.phases, Store.phase?_addCell]
  exact Function.update_self ..

theorem fits_mount (inside : cache < page.store.caches.length) {place : Nat} {anchor : Anchor}
    (there : page.element? place = some anchor) :
    (page.mount place anchor).2.Fits (page.mount place anchor).1 := by
  have turns := turns_mount inside place anchor
  obtain ⟨element, found, same⟩ : ∃ element, page.elements[place]? = some element ∧
      element.anchor = anchor := by
    unfold element? at there
    split at there
    · next found =>
      cases there
      exact ⟨_, found, rfl⟩
    · cases there
  have present := (List.getElem?_eq_some_iff.mp found).1
  have named : page.link? place = (page.identify anchor).toOption := by
    simp only [link?, found, Option.bind_some, same]
  cases identified : page.identify anchor with
  | error fault =>
      rw [mount_of_error identified]
      have turns := turns_mountNothing page place
      rw [identified, ← turns.links place present] at named
      exact .loose (Nat.lt_of_lt_of_le present turns.size) named (over_mountNothing page place) rfl
  | ok link =>
      rw [identified, ← turns.links place present] at named
      revert named
      simp only [mount, identified]
      exact fun named => .bound named (Store.placeOf?_watch inside) rfl

end Page
end LinkFacts
