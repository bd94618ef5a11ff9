import LinkFacts.Naming
import LinkFacts.Session.Describe

/-!
# Sessions

A page with its caches, whose parts have names.  Operations ask for facts, poll for them, open the
gates that hold fetches up, let time pass, and look at what has happened.
-/

namespace LinkFacts

open Replay (Waker Stage Cell)
open Naming

/-- How a scripted provider answers a target. -/
inductive ScriptLine where
  | facts (facts : Facts)
  | failure
  /-- The answer is held up by a gate with a name. -/
  | gated (gate : String)

/-- Where the facts of a session come from. -/
inductive SessionSource where
  /-- A fixture document. -/
  | fixture (document : String)
  /-- Targets and their answers. -/
  | scripts (lines : List (String × ScriptLine))
  /-- Any provider, of which the answers to polls are known. -/
  | oracle (name : String) (answers : Nat → Option Fetched)

/-- What a session is started with. -/
structure SessionSetup where
  /-- Where the facts come from. -/
  source : SessionSource
  /-- The base of relative links. -/
  base : Option String
  /-- The template, unless it is the standard one. -/
  template : Option String
  /-- After how many milliseconds a fetch is given up. -/
  timeout : Option Nat

/-- Why a session cannot be started. -/
inductive SessionFault where
  /-- The fixture document is refused. -/
  | fixture (failure : Failure)
  /-- A script is for a target that is no link. -/
  | badScript (target : String)
  /-- The base is no address. -/
  | badBase (fault : Address.Fault)
  /-- The template is none. -/
  | badTemplate (fault : Render.Fault)

/-- A page whose parts have names. -/
structure Session where
  /-- The page. -/
  page : Page
  /-- The caches, by name. -/
  caches : List (String × Nat)
  /-- The subscriptions, by name. -/
  watches : List (String × Watch)
  /-- The places of elements, by name. -/
  anchors : List (String × Nat)
  /-- The mounts, by name. -/
  mounts : List (String × Mount)
  /-- The components that mounts gave, by the name of the mount. -/
  components : List (String × Component)
  /-- The gates that have not been used up, by name. -/
  gates : List (String × Nat)

/-- An operation of a session. -/
inductive SessionOperation where
  | cloneCache (cache target : String)
  | newCache (target : String)
  | watch (cache subscription href : String)
  | poll (subscription : String) (waker : Waker)
  /-- Polls a subscription once for its value and uses it up. -/
  | value (subscription : String)
  | drop (subscription : String)
  | entry (cache href : String)
  /-- Two targets have one entry. -/
  | sameEntry (left right leftHref rightHref : String)
  | contains (cache href : String)
  | size (cache : String)
  | calls
  | callsFor (href : String)
  /-- Fetches without a cache. -/
  | fetch (href : String)
  | openGate (gate : String) (facts : Facts)
  | failGate (gate : String)
  | advance (milliseconds : Nat)
  | addAnchor (anchor href : String)
  | dropAnchor (anchor : String)
  | identify (anchor : String)
  | element (anchor : String)
  | mount (mount anchor : String)
  | pollMount (mount : String) (waker : Waker)
  /-- Polls a mount to its end and uses it up. -/
  | collectMount (mount : String)
  | mountInfo (mount : String)
  | dropMount (mount : String)
  | component (mount : String)
  /-- Uses a component up. -/
  | intoValue (mount : String)
  | describeCache (cache : String)
  | describeMounter
  | describeMount (mount : String)

/-- What can be seen of a component. -/
structure ComponentView where
  /-- The facts. -/
  facts : Facts
  /-- The target of the element, as long as the element is there. -/
  element : Option String
  /-- The names of the anchors that the component was made for. -/
  isFor : List String

/-- What an operation of a session answers. -/
inductive SessionAnswer where
  | ok
  /-- The name stands for nothing. -/
  | missing
  | flag (value : Bool)
  | text (value : String)
  | failed (failure : Failure)
  | pending
  | ended
  | item (facts : Facts)
  /-- The value of a subscription that was used up. -/
  | value (facts : Option Facts)
  | entry (stage : Stage) (value : Option Facts)
  | size (count : Nat)
  /-- A number of calls, if calls are counted. -/
  | calls (count : Option Nat)
  | fetched (facts : Facts)
  | link (link : Link)
  | element (anchor : Anchor)
  | component (view : ComponentView)
  | componentItem (view : ComponentView)
  | components (views : List ComponentView)
  | mount (closed : Bool) (element : Option String) (greatest : Nat)
  /-- The facts of a component that was used up. -/
  | intoValue (facts : Facts)
  /-- Calls were asked for with a target that is no link. -/
  | badTarget (target : String)

end LinkFacts
