import LinkFacts.Session.Basic

/-!
# Running sessions

Starting a session and running its operations, each of which is done before the next one begins.
-/

namespace LinkFacts

open Replay (Waker Stage Cell)
open Naming

namespace Session

/-- Scripts a provider line by line; a name that is used again abandons its earlier gate. -/
def script (scripted : Scripted) (gates : List (String × Nat)) :
    List (String × ScriptLine) → Except SessionFault (Scripted × List (String × Nat))
  | [] => .ok (scripted, gates)
  | (target, line) :: rest =>
    match Link.ofTarget target with
    | .error _ => .error (.badScript target)
    | .ok link =>
      match line with
      | .facts facts => script (scripted.withScript link (.facts facts)) gates rest
      | .failure => script (scripted.withScript link .failure) gates rest
      | .gated name =>
        let place := scripted.gates.length
        let gated := scripted.withGate link
        let freed :=
          match gates.lookup name with
          | some earlier => gated.release earlier .abandoned
          | none => gated
        script freed (put name place gates) rest

/-- The provider of a session and its gates. -/
def provide (source : SessionSource) : Except SessionFault (Provider × List (String × Nat)) :=
  match source with
  | .fixture document =>
    match Fixture.ofJson document with
    | .ok fixture => .ok (.fixture fixture, [])
    | .error failure => .error (.fixture failure)
  | .scripts lines =>
    match script .empty [] lines with
    | .ok (scripted, gates) => .ok (.scripted scripted, gates)
    | .error fault => .error fault
  | .oracle name answers => .ok (.oracle ⟨name, answers, 0⟩, [])

/-- The base of a session. -/
def readBase (base : Option String) : Except SessionFault (Option Address) :=
  match base with
  | none => .ok none
  | some text =>
    match Address.ofText text with
    | .ok address => .ok (some address)
    | .error fault => .error (.badBase fault)

/-- The name of the cache that a session starts with. -/
def firstCache : String := "c"

/-- Starts a session. -/
def start (setup : SessionSetup) : Except SessionFault Session := do
  let (provider, gates) ← provide setup.source
  let base ← readBase setup.base
  match Render.compile (setup.template.getD Render.standardText) with
  | .error fault => .error (.badTemplate fault)
  | .ok template =>
    .ok
      { page := ⟨.start provider setup.timeout, [], template, base⟩
        caches := [(firstCache, Page.cache)]
        watches := []
        anchors := []
        mounts := []
        components := []
        gates }

/-- Changes the store. -/
def withStore (session : Session) (store : Store) : Session :=
  { session with page := { session.page with store } }

/-- What can be seen of a component. -/
def viewComponent (session : Session) (component : Component) : ComponentView :=
  { facts := component.source.facts
    element := (session.page.element? component.element).map Anchor.href
    isFor := (session.anchors.filter (·.2 = component.element)).map (·.1) }

/-- Does something with a cache and a link. -/
def withLink (session : Session) (cache href : String)
    (action : Nat → Link → SessionAnswer × Session) : SessionAnswer × Session :=
  match session.caches.lookup cache with
  | none => (.missing, session)
  | some place =>
    match Link.ofTarget href with
    | .error fault => (.failed (.ofLink fault), session)
    | .ok link => action place link

/-- Lets go of the subscription with a name. -/
def dropWatch (session : Session) (name : String) : Session :=
  match session.watches.lookup name with
  | some watch =>
    { session.withStore (session.page.store.unwatch watch) with
      watches := remove name session.watches }
  | none => session

/-- Lets go of the mount with a name. -/
def dropMount (session : Session) (name : String) : Session :=
  match session.mounts.lookup name with
  | some mount =>
    { session with
      page := session.page.unmount mount
      mounts := remove name session.mounts }
  | none => session

/-- Takes the element with a name away. -/
def dropAnchor (session : Session) (name : String) : Session :=
  match session.anchors.lookup name with
  | some place =>
    { session with
      page := session.page.removeElement place
      anchors := remove name session.anchors }
  | none => session

/-- Subscribes to a link under a name. -/
def watch (session : Session) (name : String) (cache : Nat) (link : Link) :
    SessionAnswer × Session :=
  let watched := session.page.store.watch cache link
  let freed := (session.withStore watched.2).dropWatch name
  (.ok, { freed with watches := put name watched.1 freed.watches })

/-- The answer to a poll of a subscription. -/
def pollAnswer : Poll Source → SessionAnswer
  | .pending => .pending
  | .item source => .item source.facts
  | .ended => .ended

/-- Polls the subscription with a name. -/
def poll (session : Session) (name : String) (waker : Waker) : SessionAnswer × Session :=
  match session.watches.lookup name with
  | none => (.missing, session)
  | some watch =>
    let polled := session.page.store.poll watch waker
    (pollAnswer polled.1,
      { session.withStore polled.2.2 with watches := put name polled.2.1 session.watches })

/-- Asks the subscription with a name for its value and uses it up. -/
def value (session : Session) (name : String) : SessionAnswer × Session :=
  match session.poll name .silent with
  | (.item facts, after) => (.value (some facts), after.dropWatch name)
  | (.ended, after) => (.value none, after.dropWatch name)
  | (answer, after) => (answer, after.dropWatch name)

/-- Looks at the entry of a link. -/
def entry (session : Session) (cache : Nat) (link : Link) : SessionAnswer × Session :=
  let found := session.page.store.entry cache link
  match found.2.cells[found.1]? with
  | some cell => (.entry cell.stage (cell.peek.map Source.facts), session.withStore found.2)
  | none => (.missing, session)

/-- Two targets have one entry. -/
def sameEntry (session : Session) (left right leftHref rightHref : String) :
    SessionAnswer × Session :=
  session.withLink left leftHref fun first leftLink =>
    session.withLink right rightHref fun second rightLink =>
      let found := session.page.store.entry first leftLink
      let other := found.2.entry second rightLink
      (.flag (found.1 == other.1), session.withStore other.2)

/-- How often the provider was called, if that is counted. -/
def calls (session : Session) : Option Nat :=
  match session.page.store.provider with
  | .scripted scripted => some scripted.calls.length
  | _ => none

/-- How often a target was fetched, if that is counted. -/
def callsFor (session : Session) (href : String) : SessionAnswer :=
  match session.page.store.provider with
  | .scripted scripted =>
    match Link.ofTarget href with
    | .ok link => .calls (some (scripted.callsFor link))
    | .error _ => .badTarget href
  | _ => .calls none

/-- Fetches without a cache, once. -/
def fetch (session : Session) (href : String) : SessionAnswer × Session :=
  match Link.ofTarget href with
  | .error fault => (.failed (.ofLink fault), session)
  | .ok link =>
    let fetched := session.page.store.fetchOnce link
    (match fetched.1 with
      | none => .pending
      | some (.ok facts) => .fetched facts
      | some (.error failure) => .failed failure, session.withStore fetched.2)

/-- Uses up the gate with a name. -/
def release (session : Session) (name : String) (state : GateState) : SessionAnswer × Session :=
  match session.gates.lookup name with
  | none => (.missing, session)
  | some gate =>
    (.ok, { session.withStore (session.page.store.release gate state) with
      gates := remove name session.gates })

/-- Adds an element under a name. -/
def addAnchor (session : Session) (name href : String) : Session :=
  let freed := session.dropAnchor name
  { freed with
    page := freed.page.addElement href
    anchors := put name freed.page.elements.length freed.anchors }

/-- Does something with the element that has a name. -/
def withElement (session : Session) (name : String)
    (action : Nat → Anchor → SessionAnswer × Session) : SessionAnswer × Session :=
  match session.anchors.lookup name with
  | none => (.missing, session)
  | some place =>
    match session.page.element? place with
    | some anchor => action place anchor
    | none => (.missing, session)

/-- Mounts the facts of an element's link under a name. -/
def mount (session : Session) (name anchor : String) : SessionAnswer × Session :=
  session.withElement anchor fun place anchor =>
    let mounted := session.page.mount place anchor
    let freed := { session with page := mounted.2 }.dropMount name
    (.ok, { freed with mounts := put name mounted.1 freed.mounts })

/-- Does something with the mount that has a name. -/
def withMount (session : Session) (name : String) (action : Mount → SessionAnswer × Session) :
    SessionAnswer × Session :=
  match session.mounts.lookup name with
  | none => (.missing, session)
  | some mount => action mount

/-- Polls the mount with a name; its component is remembered under the name. -/
def pollMount (session : Session) (name : String) (waker : Waker) : SessionAnswer × Session :=
  session.withMount name fun mount =>
    let polled := session.page.poll mount waker
    let moved := { session with page := polled.2.2, mounts := put name polled.2.1 session.mounts }
    match polled.1 with
    | .pending => (.pending, moved)
    | .ended => (.ended, moved)
    | .item component =>
      (.componentItem (moved.viewComponent component),
        { moved with components := put name component moved.components })

/-- Polls the mount with a name to its end and uses it up. -/
def collectMount (session : Session) (name : String) : SessionAnswer × Session :=
  session.withMount name fun mount =>
    let collected := session.page.collect mount
    let moved := { session with page := collected.2, mounts := remove name session.mounts }
    (match collected.1 with
      | none => .pending
      | some components => .components (components.map moved.viewComponent), moved)

/-- Looks at a mount. -/
def mountInfo (session : Session) (mount : Mount) : SessionAnswer :=
  .mount mount.dispatch.isClosed ((session.page.element? mount.element).map Anchor.href)
    (if mount.watch.done then 0 else 1)

/-- Runs an operation. -/
def perform (session : Session) (operation : SessionOperation) : SessionAnswer × Session :=
  match operation with
  | .cloneCache cache target =>
    match session.caches.lookup cache with
    | some place => (.ok, { session with caches := put target place session.caches })
    | none => (.missing, session)
  | .newCache target =>
    let store := session.page.store
    (.ok, { session.withStore { store with caches := store.caches ++ [[]] } with
      caches := put target store.caches.length session.caches })
  | .watch cache name href => session.withLink cache href (session.watch name)
  | .poll name waker => session.poll name waker
  | .value name => session.value name
  | .drop name => (.flag (session.watches.lookup name).isSome, session.dropWatch name)
  | .entry cache href => session.withLink cache href session.entry
  | .sameEntry left right leftHref rightHref => session.sameEntry left right leftHref rightHref
  | .contains cache href =>
    session.withLink cache href fun place link =>
      (.flag (session.page.store.placeOf? place link).isSome, session)
  | .size cache =>
    match session.caches.lookup cache with
    | some place =>
      (.size ((session.page.store.caches[place]?).map List.length |>.getD 0), session)
    | none => (.missing, session)
  | .calls => (.calls session.calls, session)
  | .callsFor href => (session.callsFor href, session)
  | .fetch href => session.fetch href
  | .openGate gate facts => session.release gate (.opened facts)
  | .failGate gate => session.release gate .abandoned
  | .advance milliseconds =>
    (.ok, session.withStore (session.page.store.advance milliseconds))
  | .addAnchor name href => (.ok, session.addAnchor name href)
  | .dropAnchor name => (.flag (session.anchors.lookup name).isSome, session.dropAnchor name)
  | .identify name =>
    session.withElement name fun _ anchor =>
      match session.page.identify anchor with
      | .ok link => (.link link, session)
      | .error fault => (.failed (.ofLink fault), session)
  | .element name => session.withElement name fun _ anchor => (.element anchor, session)
  | .mount name anchor => session.mount name anchor
  | .pollMount name waker => session.pollMount name waker
  | .collectMount name => session.collectMount name
  | .mountInfo name => session.withMount name fun mount => (session.mountInfo mount, session)
  | .dropMount name => (.flag (session.mounts.lookup name).isSome, session.dropMount name)
  | .component name =>
    match session.components.lookup name with
    | some component => (.component (session.viewComponent component), session)
    | none => (.missing, session)
  | .intoValue name =>
    match session.components.lookup name with
    | some component =>
      (.intoValue component.source.facts,
        { session with components := remove name session.components })
    | none => (.missing, session)
  | .describeCache cache =>
    match session.caches.lookup cache with
    | some place => (.text (Describe.cache session.page.store place), session)
    | none => (.missing, session)
  | .describeMounter => (.text (Describe.mounter session.page), session)
  | .describeMount name =>
    session.withMount name fun mount => (.text (Describe.mount mount), session)

end Session

/-- What can be noticed of one operation of a session. -/
structure SessionReport where
  /-- The answer. -/
  answer : SessionAnswer
  /-- How often named wakers were woken. -/
  wakes : List (String × Nat)
  /-- The lines that were logged, the earliest first. -/
  log : List LogEvent

/-- The named waker that a note tells to be woken. -/
def Note.wokenName? : Note → Option String
  | .woke _ _ (.named name) => some name
  | _ => none

/-- The line that a note tells to be logged. -/
def Note.event? : Note → Option LogEvent
  | .logged event => some event
  | _ => none

/-- Runs an operation and reports on it. -/
def Session.report (session : Session) (operation : SessionOperation) : SessionReport × Session :=
  let done := session.perform operation
  let before := session.page.store.journal
  let after := done.2.page.store.journal
  let notes := (after.take (after.length - before.length)).reverse
  ({ answer := done.1
     wakes := tally (notes.filterMap Note.wokenName?)
     log := notes.filterMap Note.event? }, done.2)

/-- The wording of a script for a target that is no link. -/
def badTargetMessage (target : String) : String := "MockFetcher: invalid link " ++ target

namespace LogEvent

/-- How urgent an event is. -/
def level : LogEvent → String
  | creating _ => "TRACE"
  | fetching _ => "DEBUG"
  | resolved _ => "DEBUG"
  | nothing => "DEBUG"
  | unavailable _ => "WARN"
  | noLink => "WARN"
  | elementGone => "DEBUG"
  | notRendered _ => "WARN"
  | alreadyDispatched => "TRACE"

/-- The wording of an event. -/
def message : LogEvent → String
  | creating _ => "Creating cache entry"
  | fetching _ => "Fetching repository facts"
  | resolved _ => "Repository facts resolved"
  | nothing => "Repository facts empty; nothing to show"
  | unavailable _ => "Repository facts unavailable"
  | noLink => "Not a repository link; nothing to mount"
  | elementGone => "Element went away before its facts arrived"
  | notRendered _ => "Failed to render repository facts"
  | alreadyDispatched => "Side effects already dispatched"

/-- What an event is about. -/
def fields : LogEvent → List (String × String)
  | creating link => [("link", link.text)]
  | resolved count => [("facts", toString count)]
  | unavailable retryable => [("retryable", if retryable then "true" else "false")]
  | notRendered href => [("href", href)]
  | _ => []

end LogEvent
end LinkFacts
