import Mathlib.Algebra.BigOperators.Finprod
import LinkFacts.Proofs.Fetch.Gates

/-!
# Gates serve one fetch

A desk is a scripted provider with the fetches that were started from it.  A fetch that was started
does nothing until it is polled; the first fetch of a link to be polled takes its place at the gate of
the link and keeps it, so that every other fetch of the link is refused, whatever becomes of the first.
-/

namespace LinkFacts

/-- What a fetch finds behind a gate. -/
def GateState.answer? : GateState → Option Fetched
  | shut => none
  | opened facts => some (.ok facts)
  | abandoned => some (.error ⟨.network, some .canceled⟩)

namespace Scripted

variable {scripted : Scripted} {link : Link} {gate : Nat} {state : GateState} {taken : Bool}

private theorem answer?_of_found (found : scripted.gates[gate]? = some ⟨state, taken⟩) :
    scripted.answer? gate = state.answer? := by
  cases state <;> simp only [answer?, found, GateState.answer?]

/-- The first fetch that comes to a gate takes it. -/
theorem begin_of_free (script : scripted.scripts.lookup link = some (.gated gate))
    (found : scripted.gates[gate]? = some ⟨state, false⟩) :
    scripted.begin link = ((state.answer?.map Begun.answered).getD (.waits gate),
      { scripted with
        gates := scripted.gates.set gate ⟨state, true⟩
        calls := link :: scripted.calls }) := by
  have answer := answer?_of_found found
  simp only [begin, script, approach, found]
  cases state <;> simp_all [answer?, GateState.answer?]

/-- Any later fetch is refused, and the gate stays as it is. -/
theorem begin_of_taken (script : scripted.scripts.lookup link = some (.gated gate))
    (found : scripted.gates[gate]? = some ⟨state, true⟩) :
    scripted.begin link =
      (.answered refusal, { scripted with calls := link :: scripted.calls }) := by
  simp only [begin, script, approach, found]

/-- What is behind a gate stays there. -/
theorem gates_release_self (found : scripted.gates[gate]? = some ⟨state, taken⟩)
    (next : GateState) : (scripted.release gate next).gates[gate]? =
      some ⟨match state with | .shut => next | _ => state, taken⟩ := by
  have inside := (List.getElem?_eq_some_iff.mp found).1
  cases state <;> simp only [release, found, List.getElem?_set_self inside]

private theorem lookup_withScript_of_ne {other : Link} (different : link ≠ other)
    (script : Script) :
    (scripted.withScript other script).scripts.lookup link = scripted.scripts.lookup link := by
  rw [withScript, Naming.lookup_cons_ite, if_neg different, Naming.lookup_filter_ne,
    if_neg different]

private theorem length_gates_begin (scripted : Scripted) (link : Link) :
    (scripted.begin link).2.gates.length = scripted.gates.length := by
  unfold begin
  dsimp only
  split
  · rfl
  · rfl
  · rfl
  · unfold approach
    split
    · dsimp only
      split <;> simp
    · rfl

end Scripted

namespace Session

private theorem Apportioned.begin {scripted : Scripted} (apportioned : Apportioned scripted)
    (link : Link) : Apportioned (scripted.begin link).2 := by
  have same := Scripted.gateOf?_of_scripts (scripted.scripts_begin link)
  refine ⟨fun other gate held => ?_, Provider.Separate.of_gates apportioned.separate same⟩
  rw [Scripted.length_gates_begin]
  exact apportioned.inside other gate (same ▸ held)

end Session

/-! ## Desks -/

/-- How far a fetch has come. -/
inductive Progress where
  /-- It was started, but not polled yet. -/
  | fresh
  /-- It waits at a gate. -/
  | waits (gate : Nat)
  /-- It was answered, or it was let go of. -/
  | ended
  deriving DecidableEq, Repr

/-- What a fetch is told that was begun. -/
def Begun.answer? : Begun → Option Fetched
  | answered answer => some answer
  | waits _ => none

/-- How far a fetch has come that was begun. -/
def Begun.progress : Begun → Progress
  | answered _ => .ended
  | waits gate => .waits gate

/-- A fetch that was started. -/
structure Errand where
  /-- The link that is fetched. -/
  link : Link
  /-- How far the fetch has come. -/
  progress : Progress

/-- What can be done to a desk.  Fetches and gates have the numbers in which they were made. -/
inductive Deed where
  | withFacts (link : Link) (facts : Facts)
  | withFailure (link : Link)
  | withGate (link : Link)
  | start (link : Link)
  | poll (errand : Nat)
  | drop (errand : Nat)
  | openGate (gate : Nat) (facts : Facts)
  /-- The gate is made to fail, or let go of unopened. -/
  | failGate (gate : Nat)

namespace Deed

/-- The link that is given an answer in place of an earlier one. -/
def scripts? : Deed → Option Link
  | withFacts link _ => some link
  | withFailure link => some link
  | withGate link => some link
  | _ => none

/-- What a gate is made to hold. -/
def settles? (gate : Nat) : Deed → Option GateState
  | openGate other facts => if other = gate then some (.opened facts) else none
  | failGate other => if other = gate then some .abandoned else none
  | _ => none

/-- What the first of some deeds puts behind a gate that puts anything there. -/
def settled? (gate : Nat) (deeds : List Deed) : Option GateState := deeds.findSome? (·.settles? gate)

private theorem settled?_concat (gate : Nat) (deeds : List Deed) (deed : Deed) :
    settled? gate (deeds ++ [deed]) = (settled? gate deeds).or (deed.settles? gate) := by
  rw [settled?, List.findSome?_append, List.findSome?_singleton, settled?]

end Deed

/-- A scripted provider with the fetches that were started from it. -/
structure Desk where
  /-- The provider. -/
  scripted : Scripted
  /-- All fetches, by their numbers. -/
  errands : List Errand
  /-- The numbers of the fetches that were polled, one for each poll, the earliest first. -/
  polls : List Nat

namespace Desk

/-- Nothing has happened. -/
def empty : Desk := ⟨.empty, [], []⟩

/-- Changes the provider. -/
def withScripted (desk : Desk) (scripted : Scripted) : Desk := { desk with scripted }

/-- A fetch was polled and has come some way. -/
def polled (desk : Desk) (number : Nat) (errand : Errand) : Desk :=
  { desk with errands := desk.errands.set number errand, polls := desk.polls ++ [number] }

/-- Polls a fetch; one that is over cannot be polled. -/
def poll (desk : Desk) (number : Nat) : Option Fetched × Desk :=
  match desk.errands[number]? with
  | some ⟨link, .fresh⟩ =>
    let begun := desk.scripted.begin link
    (begun.1.answer?,
      (desk.withScripted begun.2).polled number ⟨link, begun.1.progress⟩)
  | some ⟨link, .waits gate⟩ =>
    let answer := desk.scripted.answer? gate
    (answer, desk.polled number ⟨link, if answer.isSome then .ended else .waits gate⟩)
  | _ => (none, desk)

/-- Does a deed. -/
def perform (desk : Desk) : Deed → Desk
  | .withFacts link facts => desk.withScripted (desk.scripted.withScript link (.facts facts))
  | .withFailure link => desk.withScripted (desk.scripted.withScript link .failure)
  | .withGate link => desk.withScripted (desk.scripted.withGate link)
  | .start link => { desk with errands := desk.errands ++ [⟨link, .fresh⟩] }
  | .poll number => (desk.poll number).2
  | .drop number =>
    { desk with errands := desk.errands.modify number fun errand => { errand with progress := .ended } }
  | .openGate gate facts => desk.withScripted (desk.scripted.release gate (.opened facts))
  | .failGate gate => desk.withScripted (desk.scripted.release gate .abandoned)

/-- Does deeds, one after the other. -/
def run (deeds : List Deed) : Desk := deeds.foldl perform empty

private theorem run_concat (deeds : List Deed) (deed : Deed) :
    run (deeds ++ [deed]) = (run deeds).perform deed := List.foldl_concat ..

/-- The link of a fetch. -/
def link? (desk : Desk) (number : Nat) : Option Link := (desk.errands[number]?).map Errand.link

/-- The first fetch of a link that was polled. -/
def first? (desk : Desk) (link : Link) : Option Nat :=
  desk.polls.find? fun number => desk.link? number = some link

variable {desk : Desk} {number : Nat} {link other : Link} {gate : Nat} {state : GateState}

/-! ## Fetches that were polled -/

/-- What is there of a desk in every state. -/
structure Sound (desk : Desk) : Prop where
  /-- No gate serves two links, and every gate of a link is there. -/
  apportioned : Session.Apportioned desk.scripted
  started : ∀ number ∈ desk.polls, number < desk.errands.length
  fresh : ∀ number link, desk.errands[number]? = some ⟨link, .fresh⟩ → number ∉ desk.polls
  waits : ∀ number link gate, desk.errands[number]? = some ⟨link, .waits gate⟩ →
    number ∈ desk.polls
  /-- The provider is called with the first poll of a fetch and never again. -/
  called : desk.scripted.calls.length = desk.polls.toFinset.card

private theorem link?_polled {errand : Errand} (started : number < desk.errands.length)
    (same : desk.link? number = some errand.link) :
    (desk.polled number errand).link? = desk.link? := by
  funext place
  by_cases here : number = place
  · subst here
    rw [same]
    simp [link?, polled, started]
  · simp [link?, polled, here]

/-- The first fetch of a link is certain as soon as one of its fetches was polled. -/
theorem first?_polled {errand : Errand} (started : number < desk.errands.length)
    (same : desk.link? number = some errand.link) (link : Link) :
    (desk.polled number errand).first? link =
      (desk.first? link).or (if errand.link = link then some number else none) := by
  unfold first?
  rw [link?_polled started same]
  simp only [polled, List.find?_append, List.find?_singleton, same, Option.some.injEq,
    decide_eq_true_eq]

/-- Starting another fetch does not change which one was the first. -/
theorem first?_start (started : ∀ number ∈ desk.polls, number < desk.errands.length)
    (errand : Errand) (link : Link) :
    { desk with errands := desk.errands ++ [errand] }.first? link = desk.first? link := by
  unfold first?
  rw [← List.head?_filter, ← List.head?_filter]
  congr 1
  refine List.filter_congr fun number member => ?_
  simp [link?, List.getElem?_append_left (started number member)]

private theorem link?_drop (desk : Desk) (number : Nat) :
    (desk.perform (.drop number)).link? = desk.link? := by
  funext place
  by_cases here : number = place
  · subst here
    simp [link?, perform, Function.comp_def]
  · simp [link?, perform, here]

private theorem first?_drop (desk : Desk) (number : Nat) (link : Link) :
    (desk.perform (.drop number)).first? link = desk.first? link := by
  unfold first?
  rw [link?_drop]
  rfl

/-! ## Every state is sound -/

/-- What is known of a desk after a poll: nothing has changed if the fetch was over. -/
theorem poll_cases (desk : Desk) (number : Nat) :
    (∃ link, desk.errands[number]? = some ⟨link, .fresh⟩ ∧
      desk.poll number = ((desk.scripted.begin link).1.answer?,
        (desk.withScripted (desk.scripted.begin link).2).polled number
          ⟨link, (desk.scripted.begin link).1.progress⟩)) ∨
    (∃ link gate, desk.errands[number]? = some ⟨link, .waits gate⟩ ∧
      desk.poll number = (desk.scripted.answer? gate, desk.polled number
        ⟨link, if (desk.scripted.answer? gate).isSome then .ended else .waits gate⟩)) ∨
    desk.poll number = (none, desk) := by
  unfold poll
  split
  · next link found => exact .inl ⟨link, found, rfl⟩
  · next link gate found => exact .inr (.inl ⟨link, gate, found, rfl⟩)
  · exact .inr (.inr rfl)

/-- What a fetch was before another one, or the same, was polled. -/
theorem errand_of_polled {errand : Errand} {place : Nat} {progress : Progress}
    (found : (desk.polled number errand).errands[place]? = some ⟨link, progress⟩) :
    place = number ∧ errand = ⟨link, progress⟩ ∨
      place ≠ number ∧ desk.errands[place]? = some ⟨link, progress⟩ := by
  by_cases here : place = number
  · subst here
    obtain ⟨_, same⟩ := List.getElem?_eq_some_iff.mp found
    exact .inl ⟨rfl, by simpa [polled] using same⟩
  · exact .inr ⟨here, by simpa [polled, Ne.symm here] using found⟩

/-- What a fetch was before another one was started. -/
theorem errand_of_start {place : Nat} {progress : Progress}
    (found : (desk.perform (.start other)).errands[place]? = some ⟨link, progress⟩) :
    desk.errands[place]? = some ⟨link, progress⟩ ∨
      place = desk.errands.length ∧ link = other ∧ progress = .fresh := by
  simp only [perform, List.getElem?_append, List.getElem?_singleton] at found
  split at found
  · exact .inl found
  · split at found
    · cases found
      exact .inr ⟨by omega, rfl, rfl⟩
    · cases found

/-- What a fetch was before another one, or the same, was let go of. -/
theorem errand_of_drop {place : Nat} {progress : Progress}
    (found : (desk.perform (.drop number)).errands[place]? = some ⟨link, progress⟩) :
    progress = .ended ∨ desk.errands[place]? = some ⟨link, progress⟩ := by
  simp only [perform, List.getElem?_modify] at found
  split at found
  · obtain ⟨errand, -, same⟩ := Option.map_eq_some_iff.mp found
    cases same
    exact .inl rfl
  · exact .inr (by simpa using found)

namespace Sound

private theorem empty : Sound Desk.empty where
  apportioned := ⟨(fun _ _ held => nomatch held), fun _ _ _ held => nomatch held⟩
  started _ member := nomatch member
  fresh _ _ found := nomatch found
  waits _ _ _ found := nomatch found
  called := rfl

private theorem withScripted (sound : Sound desk) {scripted : Scripted}
    (apportioned : Session.Apportioned scripted) (called : scripted.calls = desk.scripted.calls) :
    Sound (desk.withScripted scripted) where
  apportioned := apportioned
  started := sound.started
  fresh := sound.fresh
  waits := sound.waits
  called := (congrArg List.length called).trans sound.called

/-- A fetch was polled, and the provider was called if this was for the first time. -/
theorem polled (sound : Sound desk) {scripted : Scripted} {errand : Errand}
    (started : number < desk.errands.length) (apportioned : Session.Apportioned scripted)
    (calls : scripted.calls.length =
      if number ∈ desk.polls then desk.scripted.calls.length else desk.scripted.calls.length + 1)
    (stale : errand.progress ≠ .fresh) :
    Sound ((desk.withScripted scripted).polled number errand) where
  apportioned := apportioned
  started place member := by
    simp only [Desk.polled, Desk.withScripted, List.length_set]
    rcases List.mem_append.mp member with earlier | now
    · exact sound.started place earlier
    · exact List.mem_singleton.mp now ▸ started
  fresh place link found := by
    rcases errand_of_polled found with ⟨-, rfl⟩ | ⟨apart, earlier⟩
    · exact absurd rfl stale
    · simpa [Desk.polled, Desk.withScripted, apart] using sound.fresh place link earlier
  waits place link gate found := by
    rcases errand_of_polled found with ⟨rfl, -⟩ | ⟨-, earlier⟩
    · exact List.mem_append_right _ (List.mem_singleton_self _)
    · exact List.mem_append_left _ (sound.waits place link gate earlier)
  called := by
    simp only [Desk.polled, Desk.withScripted, List.toFinset_append, calls]
    split
    · next again => simp [again, sound.called]
    · next first => simp [first, sound.called]

private theorem perform (sound : Sound desk) (deed : Deed) : Sound (desk.perform deed) := by
  cases deed with
  | withFacts link facts => exact sound.withScripted (sound.apportioned.withScript link rfl) rfl
  | withFailure link => exact sound.withScripted (sound.apportioned.withScript link rfl) rfl
  | withGate link => exact sound.withScripted (sound.apportioned.withGate link) rfl
  | openGate gate facts =>
      exact sound.withScripted (sound.apportioned.release ..) (Scripted.calls_release ..)
  | failGate gate =>
      exact sound.withScripted (sound.apportioned.release ..) (Scripted.calls_release ..)
  | start link =>
      constructor
      · exact sound.apportioned
      · intro number member
        simpa [Desk.perform] using Nat.lt_succ_of_lt (sound.started number member)
      · intro number other found member
        rcases errand_of_start found with earlier | ⟨last, -⟩
        · exact sound.fresh number other earlier member
        · exact absurd (sound.started number member) (last ▸ Nat.lt_irrefl _)
      · intro number other gate found
        rcases errand_of_start found with earlier | ⟨-, -, ⟨⟩⟩
        exact sound.waits number other gate earlier
      · exact sound.called
  | drop number =>
      constructor
      · exact sound.apportioned
      · intro place member
        simpa [Desk.perform] using sound.started place member
      · intro place link found
        rcases errand_of_drop found with ⟨⟨⟩⟩ | earlier
        exact sound.fresh place link earlier
      · intro place link gate found
        rcases errand_of_drop found with ⟨⟨⟩⟩ | earlier
        exact sound.waits place link gate earlier
      · exact sound.called
  | poll number =>
      change Sound (desk.poll number).2
      rcases desk.poll_cases number with ⟨link, found, done⟩ | ⟨link, gate, found, done⟩ | done <;>
        rw [done]
      · have started := (List.getElem?_eq_some_iff.mp found).1
        refine sound.polled started (sound.apportioned.begin link) ?_ ?_
        · rw [if_neg (sound.fresh number link found), Scripted.calls_begin, List.length_cons]
        · cases (desk.scripted.begin link).1 <;> simp [Begun.progress]
      · have started := (List.getElem?_eq_some_iff.mp found).1
        refine sound.polled started sound.apportioned ?_ ?_
        · rw [if_pos (sound.waits number link gate found)]
        · split <;> simp
      · exact sound

end Sound

private theorem sound_run (deeds : List Deed) : Sound (run deeds) := by
  induction deeds using List.reverseRecOn with
  | nil => exact .empty
  | append_singleton deeds deed ih =>
      rw [run_concat]
      exact ih.perform deed

/-! ## The fetches of one link -/

/-- A link is held up at a gate, at which the first fetch of the link has its place. -/
structure Serves (link : Link) (gate : Nat) (settled : Option GateState) (desk : Desk) : Prop where
  script : desk.scripted.scripts.lookup link = some (.gated gate)
  found : desk.scripted.gates[gate]? =
    some ⟨settled.getD .shut, (desk.first? link).isSome⟩
  settled_ne : settled ≠ some .shut
  /-- Whoever waits is the first. -/
  waits : ∀ number spot, desk.errands[number]? = some ⟨link, .waits spot⟩ →
    spot = gate ∧ desk.first? link = some number

/-- A fetch of a link was started and is not over. -/
def Open (desk : Desk) (number : Nat) (link : Link) : Prop :=
  ∃ progress, desk.errands[number]? = some ⟨link, progress⟩ ∧ progress ≠ .ended

namespace Serves

variable {settled : Option GateState}

/-- The gate answers the first fetch that is polled, and every other one is refused. -/
theorem fst_poll (serves : Serves link gate settled desk) (sound : Sound desk)
    (goes : desk.Open number link) :
    (desk.poll number).1 =
      if desk.first? link = none ∨ desk.first? link = some number then
        (settled.getD .shut).answer?
      else some Scripted.refusal := by
  obtain ⟨progress, found, going⟩ := goes
  have gated := serves.found
  cases progress with
  | ended => exact absurd rfl going
  | waits spot =>
      obtain ⟨rfl, first⟩ := serves.waits number spot found
      simp only [poll, found, first, or_true, if_true]
      exact Scripted.answer?_of_found gated
  | fresh =>
      simp only [poll, found]
      cases first : desk.first? link with
      | none =>
          rw [first] at gated
          rw [Scripted.begin_of_free serves.script gated, if_pos (.inl rfl)]
          cases (settled.getD .shut).answer? <;> rfl
      | some other =>
          rw [first] at gated
          have apart : other ≠ number := by
            rintro rfl
            exact sound.fresh other link found (List.mem_of_find?_eq_some first)
          rw [Scripted.begin_of_taken serves.script gated, if_neg (by simpa using apart)]
          rfl

/-- Another link is given an answer. -/
theorem rescript (serves : Serves link gate settled desk) (different : some other ≠ some link)
    (script : Script) {scripted : Scripted}
    (scripts : scripted.scripts = (desk.scripted.withScript other script).scripts)
    (found : scripted.gates[gate]? = desk.scripted.gates[gate]?) :
    Serves link gate settled (desk.withScripted scripted) where
  script := by
    have apart : link ≠ other := fun same => different (congrArg some same.symm)
    rw [Desk.withScripted, scripts, Scripted.lookup_withScript_of_ne apart]
    exact serves.script
  found := found.trans serves.found
  settled_ne := serves.settled_ne
  waits := serves.waits

/-- A gate that is settled stays as it is. -/
theorem release (serves : Serves link gate settled desk) (spot : Nat) {next : GateState}
    (opens : next ≠ .shut) : Serves link gate (settled.or (if spot = gate then some next else none))
      (desk.withScripted (desk.scripted.release spot next)) where
  script := by
    rw [Desk.withScripted, Scripted.scripts_release]
    exact serves.script
  found := by
    have gated := serves.found
    change (desk.scripted.release spot next).gates[gate]? = some ⟨_, (desk.first? link).isSome⟩
    by_cases here : spot = gate
    · subst here
      have never := serves.settled_ne
      rw [Scripted.gates_release_self gated]
      rcases settled with _ | _ | _ | _ <;> simp_all
    · rw [Scripted.gates_release _ here, gated, if_neg here, Option.or_none]
  settled_ne := by
    have never := serves.settled_ne
    cases settled with
    | none => split <;> simp [opens]
    | some state => exact never
  waits := serves.waits

/-- A fetch was polled; the gate is taken now if it was taken before or the fetch is one of the
link, and a fetch of the link only waits if it is the first. -/
theorem polled (serves : Serves link gate settled desk) {scripted : Scripted} {progress : Progress}
    (found : desk.link? number = some other)
    (scripts : scripted.scripts = desk.scripted.scripts)
    (gated : scripted.gates[gate]? = some ⟨settled.getD .shut,
      ((desk.first? link).or (if other = link then some number else none)).isSome⟩)
    (waits : ∀ spot, other = link → progress = .waits spot →
      spot = gate ∧ (desk.first? link).or (some number) = some number) :
    Serves link gate settled ((desk.withScripted scripted).polled number ⟨other, progress⟩) := by
  have started : number < (desk.withScripted scripted).errands.length := by
    obtain ⟨errand, there, -⟩ := Option.map_eq_some_iff.mp found
    exact (List.getElem?_eq_some_iff.mp there).1
  have asked : (desk.withScripted scripted).link? number =
      some (Errand.mk other progress).link := found
  have first : ((desk.withScripted scripted).polled number ⟨other, progress⟩).first? link =
      (desk.first? link).or (if other = link then some number else none) :=
    first?_polled started asked link
  constructor
  · exact (congrArg (List.lookup link) scripts).trans serves.script
  · rw [first]
    exact gated
  · exact serves.settled_ne
  · intro place spot there
    rw [first]
    rcases errand_of_polled there with ⟨rfl, same⟩ | ⟨-, earlier⟩
    · cases same
      rw [if_pos rfl]
      exact waits spot rfl rfl
    · obtain ⟨here, one⟩ := serves.waits place spot earlier
      refine ⟨here, ?_⟩
      rw [one, Option.some_or]

/-- The first fetch of the link that is polled takes the gate. -/
theorem poll (serves : Serves link gate settled desk) (sound : Sound desk) (number : Nat) :
    Serves link gate settled (desk.poll number).2 := by
  have gated := serves.found
  rcases desk.poll_cases number with ⟨other, found, done⟩ | ⟨other, spot, found, done⟩ | done <;>
    rw [done]
  · have held : desk.link? number = some other := by simp [link?, found]
    have scripts := desk.scripted.scripts_begin other
    by_cases own : other = link
    · subst own
      have inside := (List.getElem?_eq_some_iff.mp gated).1
      cases first : desk.first? other with
      | none =>
          rw [first] at gated
          have begun := Scripted.begin_of_free serves.script gated
          refine serves.polled held scripts ?_ fun spot _ waiting => ⟨?_, by rw [first]; rfl⟩
          · simp [begun, first, inside]
          · rw [begun] at waiting
            cases answer : (settled.getD .shut).answer? with
            | none =>
                rw [answer] at waiting
                cases waiting
                rfl
            | some told =>
                rw [answer] at waiting
                cases waiting
      | some one =>
          rw [first] at gated
          have begun := Scripted.begin_of_taken serves.script gated
          refine serves.polled held scripts ?_ fun spot _ waiting => ?_
          · simp [begun, first, gated]
          · rw [begun] at waiting
            cases waiting
    · have foreign : desk.scripted.gateOf? other ≠ some gate := fun same =>
        own (sound.apportioned.separate other link gate same (by
          simp [Provider.gateOf?, Scripted.gateOf?, serves.script, Script.gate?]))
      refine serves.polled held scripts ?_ fun _ same => absurd same own
      rw [Scripted.gates_begin _ _ foreign, if_neg own, Option.or_none, gated]
  · have first (own : other = link) : spot = gate ∧ desk.first? link = some number :=
      serves.waits number spot (own ▸ found)
    refine serves.polled (by simp [link?, found]) rfl ?_ ?_
    · split
      · next own =>
        rw [gated, (first own).2]
        rfl
      · rw [gated, Option.or_none]
    · intro _ own waiting
      split at waiting
      · cases waiting
      · cases waiting
        exact ⟨(first own).1, by rw [(first own).2]; rfl⟩
  · exact serves

private theorem perform (serves : Serves link gate settled desk) (sound : Sound desk) {deed : Deed}
    (current : deed.scripts? ≠ some link) :
    Serves link gate (settled.or (deed.settles? gate)) (desk.perform deed) := by
  have inside := (List.getElem?_eq_some_iff.mp serves.found).1
  have keeps {changed : Desk} (silent : deed.settles? gate = none)
      (served : Serves link gate settled changed) :
      Serves link gate (settled.or (deed.settles? gate)) changed := by
    rw [silent, Option.or_none]
    exact served
  cases deed with
  | withFacts other facts => exact keeps rfl (serves.rescript current (.facts facts) rfl rfl)
  | withFailure other => exact keeps rfl (serves.rescript current .failure rfl rfl)
  | withGate other =>
      exact keeps rfl (serves.rescript current (.gated desk.scripted.gates.length) rfl
        (List.getElem?_append_left inside))
  | openGate spot facts => exact serves.release spot (by simp)
  | failGate spot => exact serves.release spot (by simp)
  | poll number => exact keeps rfl (serves.poll sound number)
  | start other =>
      have same := first?_start sound.started ⟨other, .fresh⟩ link
      refine keeps rfl ⟨serves.script, ?_, serves.settled_ne, ?_⟩
      · exact same ▸ serves.found
      · intro number spot found
        rcases errand_of_start found with earlier | ⟨-, -, ⟨⟩⟩
        exact (serves.waits number spot earlier).imp_right same.trans
  | drop number =>
      have same := desk.first?_drop number link
      refine keeps rfl ⟨serves.script, ?_, serves.settled_ne, ?_⟩
      · exact same ▸ serves.found
      · intro place spot found
        rcases errand_of_drop found with ⟨⟨⟩⟩ | earlier
        exact (serves.waits place spot earlier).imp_right same.trans

end Serves

private theorem link?_poll (desk : Desk) (number : Nat) :
    (desk.poll number).2.link? = desk.link? := by
  rcases desk.poll_cases number with ⟨link, found, done⟩ | ⟨link, gate, found, done⟩ | done <;>
    rw [done]
  · have there : number < (desk.withScripted (desk.scripted.begin link).2).errands.length :=
      (List.getElem?_eq_some_iff.mp found).1
    exact link?_polled there (by simp [link?, withScripted, found])
  · exact link?_polled (List.getElem?_eq_some_iff.mp found).1 (by simp [link?, found])

/-- Nothing but starting a fetch makes one. -/
theorem start_of_link? {deeds : List Deed} (found : (run deeds).link? number = some link) :
    .start link ∈ deeds := by
  induction deeds using List.reverseRecOn with
  | nil => cases found
  | append_singleton deeds deed ih =>
      rw [run_concat] at found
      rw [List.mem_append, List.mem_singleton]
      cases deed with
      | start other =>
          obtain ⟨⟨_, progress⟩, there, rfl⟩ := Option.map_eq_some_iff.mp found
          rcases errand_of_start there with earlier | ⟨-, rfl, -⟩
          · exact .inl (ih (by simp [link?, earlier]))
          · exact .inr rfl
      | poll other =>
          change (Desk.poll _ other).2.link? number = some link at found
          rw [link?_poll] at found
          exact .inl (ih found)
      | drop other =>
          rw [link?_drop] at found
          exact .inl (ih found)
      | _ => exact .inl (ih found)

/-- A new gate serves a link of which no fetch was started. -/
theorem serves_withGate (fresh : ∀ number, desk.link? number ≠ some link) :
    Serves link desk.scripted.gates.length none (desk.perform (.withGate link)) where
  script := by simp [perform, withScripted, Scripted.withGate, Scripted.withScript]
  found := by
    have nobody : (desk.perform (.withGate link)).first? link = none :=
      List.find?_eq_none.mpr fun number _ => decide_eq_true_iff.not.mpr (fresh number)
    rw [nobody]
    simp [perform, withScripted, Scripted.withGate]
  settled_ne := by simp
  waits number spot found := absurd (by
    have there : desk.errands[number]? = some ⟨link, .waits spot⟩ := found
    simp [link?, there]) (fresh number)

/-! ## The result -/

/-- Fetches of a link are held up at a gate, which was made after the deeds `before`, and what is
behind it was settled by the deeds `after`.  The gate came before all fetches of the link, and the link
was not given another answer since. -/
structure Gated (link : Link) (before after deeds : List Deed) : Prop where
  deeds : deeds = before ++ .withGate link :: after
  early : .start link ∉ before
  current : ∀ deed ∈ after, deed.scripts? ≠ some link

private theorem Gated.serves {deeds before after : List Deed}
    (gated : Gated link before after deeds) :
    Serves link (run before).scripted.gates.length
      (Deed.settled? (run before).scripted.gates.length after) (run deeds) := by
  obtain ⟨rfl, early, current⟩ := gated
  induction after using List.reverseRecOn with
  | nil =>
      rw [run_concat]
      exact serves_withGate fun number found => early (start_of_link? found)
  | append_singleton after deed ih =>
      have earlier := ih fun other member => current other (List.mem_append_left _ member)
      have sound := sound_run (before ++ .withGate link :: after)
      have now := earlier.perform sound (current deed (by simp))
      rw [Deed.settled?_concat, ← List.cons_append, ← List.append_assoc, run_concat]
      exact now

/-- What is behind a gate that was made after the deeds `before`, once the deeds `after` were done. -/
def behind (before after : List Deed) : GateState :=
  (Deed.settled? (run before).scripted.gates.length after).getD .shut

/-- What is true of the fetches of a desk and of the calls to its provider. -/
structure ServesOnce (deeds : List Deed) : Prop where
  /-- The first fetch of a gated link that is polled is answered by what is behind the gate: with the
  facts with which it was opened, with a failure of the network if it will never be opened, and not at
  all as long as it is shut. -/
  first : ∀ link before after, Gated link before after deeds → ∀ number,
    (run deeds).Open number link → (∀ other, (run deeds).first? link = some other → other = number) →
      ((run deeds).poll number).1 = (behind before after).answer?
  /-- Every other fetch of the link fails, whatever has become of the first one. -/
  others : ∀ link before after, Gated link before after deeds → ∀ number other,
    (run deeds).Open number link → (run deeds).first? link = some other → other ≠ number →
      ((run deeds).poll number).1 = some (.error (.ofProblem .network))
  /-- The provider is called once for each fetch that was polled. -/
  called : (run deeds).scripted.calls.length = (run deeds).polls.toFinset.card
  /-- Every call is for one link. -/
  summed : ∑ᶠ link, (run deeds).scripted.callsFor link = (run deeds).scripted.calls.length

private theorem finsum_callsFor (scripted : Scripted) :
    ∑ᶠ link, scripted.callsFor link = scripted.calls.length := by
  rw [finsum_eq_sum_of_support_subset (s := scripted.calls.toFinset)]
  · exact List.sum_toFinset_count_eq_length scripted.calls
  · intro link counted
    simpa [Scripted.callsFor, List.count_eq_zero] using counted

/-- A gate serves one fetch of its link, the first that is polled, and no other fetch of the link ever
succeeds; and the provider knows how many fetches were polled. -/
theorem serves_once (deeds : List Deed) : ServesOnce deeds where
  first link before after gated number goes alone := by
    rw [gated.serves.fst_poll (sound_run deeds) goes, if_pos]
    · rfl
    · cases first : (run deeds).first? link with
      | none => exact .inl rfl
      | some other => exact .inr (congrArg some (alone other first))
  others link before after gated number other goes first apart := by
    rw [gated.serves.fst_poll (sound_run deeds) goes, if_neg]
    · rfl
    · simp [first, apart]
  called := (sound_run deeds).called
  summed := finsum_callsFor _

/-- A fetch that was let go of keeps its place at the gate, and whoever comes next is refused. -/
example (facts : Facts) : ((run [.withGate ⟨"https://x/"⟩, .start ⟨"https://x/"⟩,
    .start ⟨"https://x/"⟩, .poll 1, .drop 1, .openGate 0 facts]).poll 0).1 =
      some Scripted.refusal := rfl

end Desk
end LinkFacts
