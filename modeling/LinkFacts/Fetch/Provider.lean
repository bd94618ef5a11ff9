import LinkFacts.Fetch.Fixture

/-!
# Providers

Where facts come from: a fixture, or a script that answers each link with facts, with a failure,
or only when a gate is opened.  A gate serves the first fetch that comes to it and no other.  Any
other provider is an oracle: all that is known of it is what its fetches say when they are polled.
-/

namespace LinkFacts

/-- What is behind a gate. -/
inductive GateState where
  /-- The gate is shut. -/
  | shut
  /-- The gate was opened with facts. -/
  | opened (facts : Facts)
  /-- The gate will never be opened. -/
  | abandoned

/-- A gate that holds a fetch up. -/
structure Gate where
  /-- What is behind it. -/
  state : GateState
  /-- A fetch has come to it. -/
  taken : Bool

/-- How a link is answered. -/
inductive Script where
  /-- With facts. -/
  | facts (facts : Facts)
  /-- With a failure. -/
  | failure
  /-- With what is behind the gate at a place. -/
  | gated (gate : Nat)

/-- A provider that answers by script and keeps a list of its calls. -/
structure Scripted where
  /-- The answers, by link. -/
  scripts : List (Link × Script)
  /-- All gates. -/
  gates : List Gate
  /-- The links that were fetched, the latest first. -/
  calls : List Link

/-- The outcome of a fetch. -/
abbrev Fetched := Except Failure Facts

/-- What a fetch comes to when it is first polled. -/
inductive Begun where
  /-- It is over. -/
  | answered (answer : Fetched)
  /-- It waits at a gate. -/
  | waits (gate : Nat)

namespace Scripted

/-- A provider that knows nothing. -/
def empty : Scripted := ⟨[], [], []⟩

/-- Sets the answer of a link in place of an earlier one. -/
def withScript (scripted : Scripted) (link : Link) (script : Script) : Scripted :=
  { scripted with scripts := (link, script) :: scripted.scripts.filter (·.1 ≠ link) }

/-- Puts a new gate before a link; its place is the old number of gates. -/
def withGate (scripted : Scripted) (link : Link) : Scripted :=
  { scripted.withScript link (.gated scripted.gates.length) with
    gates := scripted.gates ++ [⟨.shut, false⟩] }

/-- What a fetch finds that waits at a gate. -/
def answer? (scripted : Scripted) (gate : Nat) : Option Fetched :=
  match scripted.gates[gate]? with
  | some ⟨.opened facts, _⟩ => some (.ok facts)
  | some ⟨.abandoned, _⟩ => some (.error ⟨.network, some .canceled⟩)
  | _ => none

/-- A failure of the network with nothing below it. -/
def refusal : Fetched := .error (.ofProblem .network)

/-- Comes to a gate: the first fetch takes its place, any other is refused. -/
def approach (scripted : Scripted) (gate : Nat) : Begun × Scripted :=
  match scripted.gates[gate]? with
  | some ⟨state, false⟩ =>
    let taken := { scripted with gates := scripted.gates.set gate ⟨state, true⟩ }
    match scripted.answer? gate with
    | some answer => (.answered answer, taken)
    | none => (.waits gate, taken)
  | _ => (.answered refusal, scripted)

/-- Begins a fetch. -/
def begin (scripted : Scripted) (link : Link) : Begun × Scripted :=
  let called := { scripted with calls := link :: scripted.calls }
  match scripted.scripts.lookup link with
  | none => (.answered (.error (.notFound link)), called)
  | some (.facts facts) => (.answered (.ok facts), called)
  | some .failure => (.answered refusal, called)
  | some (.gated gate) => called.approach gate

/-- Settles what is behind a gate, unless that has happened. -/
def release (scripted : Scripted) (gate : Nat) (state : GateState) : Scripted :=
  match scripted.gates[gate]? with
  | some ⟨.shut, taken⟩ => { scripted with gates := scripted.gates.set gate ⟨state, taken⟩ }
  | _ => scripted

/-- How often a link was fetched. -/
def callsFor (scripted : Scripted) (link : Link) : Nat := scripted.calls.count link

end Scripted

/-- A provider of which nothing is known but what its fetches say when they are polled. -/
structure Oracle where
  /-- What the provider is called. -/
  name : String
  /-- What the polls say, by their number: nothing as long as a fetch has to wait. -/
  answers : Nat → Option Fetched
  /-- How many polls there were. -/
  polls : Nat

namespace Oracle

/-- What the next poll says. -/
def answer? (oracle : Oracle) : Option Fetched := oracle.answers oracle.polls

/-- The oracle after one more poll. -/
def polled (oracle : Oracle) : Oracle := { oracle with polls := oracle.polls + 1 }

/-- Begins a fetch; there is only one gate at which fetches wait. -/
def begin (oracle : Oracle) : Begun × Oracle :=
  (match oracle.answer? with
    | some answer => .answered answer
    | none => .waits 0, oracle.polled)

end Oracle

/-- Where facts come from. -/
inductive Provider where
  /-- A fixture. -/
  | fixture (fixture : Fixture)
  /-- A script. -/
  | scripted (scripted : Scripted)
  /-- Anything else. -/
  | oracle (oracle : Oracle)

namespace Provider

/-- What the provider is called. -/
def name : Provider → String
  | fixture document => document.name
  | scripted _ => "mock"
  | oracle unknown => unknown.name

/-- Begins a fetch. -/
def begin (provider : Provider) (link : Link) : Begun × Provider :=
  match provider with
  | fixture document => (.answered (document.fetch link), provider)
  | scripted script =>
    let begun := script.begin link
    (begun.1, .scripted begun.2)
  | oracle unknown =>
    let begun := unknown.begin
    (begun.1, .oracle begun.2)

/-- What a fetch finds that waits at a gate. -/
def answer? (provider : Provider) (gate : Nat) : Option Fetched :=
  match provider with
  | fixture _ => none
  | scripted script => script.answer? gate
  | oracle unknown => unknown.answer?

/-- The provider after a fetch that waits was polled again. -/
def polled : Provider → Provider
  | oracle unknown => .oracle unknown.polled
  | known => known

/-- Settles what is behind a gate. -/
def release (provider : Provider) (gate : Nat) (state : GateState) : Provider :=
  match provider with
  | scripted script => .scripted (script.release gate state)
  | other => other

end Provider
end LinkFacts
