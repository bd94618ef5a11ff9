import LinkFacts.Cache.Store
import LinkFacts.Component.Anchor
import LinkFacts.Component.Dispatch
import LinkFacts.Render.Renderer

/-!
# Pages

A page has link elements onto which facts are mounted.  A mount watches the link of its element;
when the facts arrive it renders them into the element, raises the flag of the element, and gives a
component that ties the facts to the element.  That happens at most once for each mount.
-/

namespace LinkFacts

open Replay (Waker Cell)

/-- An element of a page. -/
structure Element where
  /-- The anchor. -/
  anchor : Anchor
  /-- The page still has the element. -/
  present : Bool

/-- A page whose links share one cache. -/
structure Page where
  /-- The caches; the page uses the first of them. -/
  store : Store
  /-- All elements that there ever were. -/
  elements : List Element
  /-- The template that facts are rendered through. -/
  template : Template
  /-- The address that relative links are resolved against. -/
  base : Option Address

/-- The facts of an element's link on their way to the element. -/
structure Mount where
  /-- The subscription to the facts. -/
  watch : Watch
  /-- The place of the element. -/
  element : Nat
  /-- The effect on the element, which is named by its place. -/
  dispatch : Dispatch Nat

/-- Facts tied to the element that they were mounted onto. -/
structure Component where
  /-- The place of the element. -/
  element : Nat
  /-- The facts. -/
  source : Source

namespace Page

/-- The cache that a page uses. -/
def cache : Nat := 0

/-- Adds an element; its place is the old number of elements. -/
def addElement (page : Page) (href : String) : Page :=
  { page with elements := page.elements ++ [⟨Anchor.ofHref href, true⟩] }

/-- Takes an element away. -/
def removeElement (page : Page) (place : Nat) : Page :=
  { page with elements := page.elements.modify place fun element =>
    { element with present := false } }

/-- The element at a place, as long as it is there. -/
def element? (page : Page) (place : Nat) : Option Anchor :=
  match page.elements[place]? with
  | some ⟨anchor, true⟩ => some anchor
  | _ => none

/-- The link of an anchor. -/
def identify (page : Page) (anchor : Anchor) : Except Link.Fault Link :=
  Link.resolve page.base anchor.href

/-- Logs an event. -/
def log (page : Page) (event : LogEvent) : Page := { page with store := page.store.log event }

/-- A mount that has nothing to wait for. -/
def mountNothing (page : Page) (place : Nat) : Mount × Page :=
  let noted := page.store.log .noLink
  let empty := noted.addCell (.ofPhase .completed)
  let watched := empty.subscribe noted.cells.length
  (⟨watched.1, place, .closed⟩, { page with store := watched.2 })

/-- Mounts the facts of an anchor's link onto the element at a place. -/
def mount (page : Page) (place : Nat) (anchor : Anchor) : Mount × Page :=
  match page.identify anchor with
  | .error _ => page.mountNothing place
  | .ok link =>
    let watched := page.store.watch cache link
    (⟨watched.1, place, ⟨some place⟩⟩, { page with store := watched.2 })

/-- Renders facts into the element at a place. -/
def presentFacts (page : Page) (place : Nat) (source : Source) : Page :=
  match page.element? place with
  | none => page.log .elementGone
  | some anchor =>
    match Render.render page.template source.facts with
    | .ok markup =>
      { page with elements := page.elements.modify place fun element =>
        { element with anchor := element.anchor.present markup } }
    | .error _ => page.log (.notRendered anchor.href)

/-- Hands facts to the effect of a mount. -/
def dispatch (page : Page) (mount : Mount) (source : Source) : Page :=
  match mount.dispatch.take.1 with
  | some place => page.presentFacts place source
  | none => page.log .alreadyDispatched

/-- Polls a mount. -/
def poll (page : Page) (mount : Mount) (waker : Waker) : Poll Component × Mount × Page :=
  let polled := page.store.poll mount.watch waker
  let moved := { page with store := polled.2.2 }
  let watching := { mount with watch := polled.2.1 }
  match polled.1 with
  | .pending => (.pending, watching, moved)
  | .item source =>
    (.item ⟨mount.element, source⟩, { watching with dispatch := mount.dispatch.take.2 },
      moved.dispatch mount source)
  | .ended => (.ended, { watching with dispatch := mount.dispatch.close }, moved)

/-- Lets go of a mount. -/
def unmount (page : Page) (mount : Mount) : Page :=
  { page with store := page.store.unwatch mount.watch }

/-- Polls a mount until it ends or has to wait, collects its components, and lets go of it; the
collection is missing if the mount has to wait.  A mount gives one component at most. -/
def collect (page : Page) (mount : Mount) : Option (List Component) × Page :=
  let first := page.poll mount .silent
  match first.1 with
  | .pending => (none, first.2.2.unmount first.2.1)
  | .ended => (some [], first.2.2.unmount first.2.1)
  | .item component =>
    let second := first.2.2.poll first.2.1 .silent
    (match second.1 with
      | .pending => none
      | .ended => some [component]
      | .item other => some [component, other], second.2.2.unmount second.2.1)

end Page
end LinkFacts
