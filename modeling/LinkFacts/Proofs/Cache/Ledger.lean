import Mathlib.Data.Set.Card
import LinkFacts.Proofs.Cache.Operations

/-!
# The ledger of fetches

The computations of the links, the index that finds them, and the list of fetches fit together:
there are as many fetches of a link as there are caches in which its computation was started.
-/

namespace LinkFacts

open Replay (Cell Phase Stage Waker)

namespace Store

variable {store before after : Store} {demand : Demand}

/-- The phases in which the computation of a link can be found. -/
def About (link : Link) : FetchPhase → Prop
  | .idle other => other = link
  | .parked task => task.link = link
  | .driven => False
  | .resolved _ => True
  | .completed => True

/-- The index finds for each link of each cache a computation of its own, and every computation
that has not been started is in the index. -/
structure Indexed (phases : Nat → Option FetchPhase) (places : Nat → Link → Option Nat) :
    Prop where
  placed : ∀ cache link place, places cache link = some place →
    ∃ phase, phases place = some phase ∧ About link phase
  distinct : ∀ place cache link other key, places cache link = some place →
    places other key = some place → cache = other ∧ link = key
  owned : ∀ place link, phases place = some (.idle link) →
    ∃ cache, places cache link = some place
  calm : ∀ place, phases place ≠ some .driven

/-- What a computation can have become when it is looked at again. -/
inductive Leads : FetchPhase → FetchPhase → Prop
  | same (phase) : Leads phase phase
  | started (link gate deadline) : Leads (.idle link) (.parked ⟨link, gate, deadline⟩)
  | answered (link outcome) : Leads (.idle link) (Cell.settledPhase outcome)
  | ended (task outcome) : Leads (.parked task) (Cell.settledPhase outcome)

/-- A computation in this phase is no longer idle. -/
def started (phase : FetchPhase) : Bool := (Cell.ofPhase phase).stage ≠ .idle

/-- How far the computation of a link's entry in a cache has come. -/
def entry? (store : Store) (cache : Nat) (link : Link) : Option FetchPhase :=
  (store.placeOf? cache link).bind store.phase?

/-- The entry of a link in a cache, if there is one, is no longer idle. -/
def begun (store : Store) (cache : Nat) (link : Link) : Bool :=
  (store.entry? cache link).any started

section Phases

variable {earlier middle later : FetchPhase} {link : Link} {news : List Link}

private theorem about_settledPhase (outcome : Option Source) :
    About link (Cell.settledPhase outcome) := by
  cases outcome <;> trivial

private theorem Goes.about (goes : Goes earlier news later) (about : About link earlier) :
    About link later := by
  cases goes with
  | waits other gate deadline => exact about
  | answered other outcome => exact about_settledPhase outcome
  | still task => exact about
  | ended task outcome => exact about_settledPhase outcome

private theorem Goes.leads (goes : Goes earlier news later) : Leads earlier later := by
  cases goes with
  | waits other gate deadline => exact .started other gate deadline
  | answered other outcome => exact .answered other outcome
  | still task => exact .same _
  | ended task outcome => exact .ended task outcome

theorem Leads.of_settled {outcome : Option Source}
    (leads : Leads (Cell.settledPhase outcome) later) : later = Cell.settledPhase outcome := by
  cases outcome <;> cases leads <;> rfl

theorem Leads.trans (first : Leads earlier middle) (second : Leads middle later) :
    Leads earlier later := by
  cases first with
  | same => exact second
  | answered other outcome => exact second.of_settled ▸ .answered other outcome
  | ended task outcome => exact second.of_settled ▸ .ended task outcome
  | started other gate deadline =>
      cases second with
      | same => exact .started other gate deadline
      | ended task outcome => exact .answered other outcome

/-- A computation once started is not idle again. -/
theorem Leads.idle (leads : Leads earlier (.idle link)) : earlier = .idle link := by
  generalize reached : Phase.idle link = phase at leads
  cases leads with
  | same => rfl
  | started => cases reached
  | answered other outcome | ended other outcome => cases outcome <;> cases reached

end Phases

section Index

variable {phases : Nat → Option FetchPhase} {places : Nat → Link → Option Nat}

/-- A computation of the index may be moved on. -/
theorem Indexed.goes {place : Nat} {earlier later : FetchPhase} {news : List Link}
    (indexed : Indexed phases places) (found : phases place = some earlier)
    (goes : Goes earlier news later) :
    Indexed (Function.update phases place (some later)) places where
  placed cache link other named := by
    obtain ⟨phase, there, about⟩ := indexed.placed cache link other named
    rw [Function.update_apply]
    split
    · next same =>
      subst same
      cases found.symm.trans there
      exact ⟨later, rfl, goes.about about⟩
    · exact ⟨phase, there, about⟩
  distinct := indexed.distinct
  owned other link idle := by
    rw [Function.update_apply] at idle
    split at idle
    · next same =>
      subst same
      cases Option.some.inj idle
      exact indexed.owned other link (found.trans (congrArg some goes.leads.idle))
    · exact indexed.owned other link idle
  calm other driven := by
    rw [Function.update_apply] at driven
    split at driven
    · cases goes with
      | answered _ outcome | ended _ outcome => cases outcome <;> cases driven
      | waits | still => cases driven
    · exact indexed.calm other driven

/-- The index may get the computation of another link. -/
theorem Indexed.create {place cache : Nat} {link : Link} {after : Nat → Link → Option Nat}
    (indexed : Indexed phases places) (free : phases place = none)
    (named : ∀ other key, after other key =
      if other = cache ∧ key = link then some place else places other key)
    (missing : places cache link = none) :
    Indexed (Function.update phases place (some (.idle link))) after := by
  have unplaced (other : Nat) (key : Link) : places other key ≠ some place := by
    intro held
    obtain ⟨phase, there, -⟩ := indexed.placed other key place held
    cases free.symm.trans there
  constructor
  · intro other key spot held
    rw [named] at held
    split at held
    · next same =>
      obtain ⟨rfl, rfl⟩ := same
      cases held
      exact ⟨_, Function.update_self .., rfl⟩
    · have elsewhere : spot ≠ place := by
        rintro rfl
        exact unplaced other key held
      rw [Function.update_of_ne elsewhere]
      exact indexed.placed other key spot held
  · intro spot other key third word first second
    rw [named] at first second
    split at first <;> split at second
    · next one two => exact ⟨one.1.trans two.1.symm, one.2.trans two.2.symm⟩
    · cases first
      exact absurd second (unplaced third word)
    · cases second
      exact absurd first (unplaced other key)
    · exact indexed.distinct spot other key third word first second
  · intro spot key idle
    rw [Function.update_apply] at idle
    split at idle
    · next same =>
      cases idle
      exact ⟨cache, by rw [named, if_pos ⟨rfl, rfl⟩, same]⟩
    · obtain ⟨other, held⟩ := indexed.owned spot key idle
      refine ⟨other, ?_⟩
      rw [named, if_neg]
      · exact held
      · rintro ⟨rfl, rfl⟩
        cases missing.symm.trans held
  · intro spot driven
    rw [Function.update_apply] at driven
    split at driven
    · cases driven
    · exact indexed.calm spot driven

/-- A computation that is over may appear outside the index. -/
theorem Indexed.blank {place : Nat} (indexed : Indexed phases places)
    (free : phases place = none) :
    Indexed (Function.update phases place (some .completed)) places where
  placed cache link spot held := by
    obtain ⟨phase, there, about⟩ := indexed.placed cache link spot held
    have other : spot ≠ place := by
      rintro rfl
      cases free.symm.trans there
    exact ⟨phase, (Function.update_of_ne other ..).trans there, about⟩
  distinct := indexed.distinct
  owned spot link idle := by
    rw [Function.update_apply] at idle
    split at idle
    · cases idle
    · exact indexed.owned spot link idle
  calm spot driven := by
    rw [Function.update_apply] at driven
    split at driven
    · cases driven
    · exact indexed.calm spot driven

theorem Step.indexed (step : Step demand before after)
    (indexed : Indexed before.phase? before.placeOf?) : Indexed after.phase? after.placeOf? := by
  cases step with
  | quiet quiet =>
      rw [quiet.phases, quiet.places]
      exact indexed
  | called here phases places =>
      rw [phases, places]
      exact indexed
  | blank free sets =>
      rw [sets.phases, sets.places]
      exact indexed.blank free
  | create free missing phases places =>
      rw [phases]
      exact indexed.create free places missing
  | polled here found goes sets =>
      rw [sets.phases, sets.places]
      exact indexed.goes found goes

end Index

/-! ## What a step does to one computation -/

section Step

variable {place : Nat} {phase : FetchPhase} {cache : Nat} {link : Link}

/-- A computation stays as it is unless it is polled, and only then may the polling step fetch. -/
theorem Step.effect (step : Step demand before after) (found : before.phase? place = some phase) :
    (after.phase? place = some phase ∧
        (demand = .poll place → after.fetched = before.fetched)) ∨
      demand = .poll place ∧ ∃ news later, Goes phase news later ∧
        after.phase? place = some later ∧ after.fetched = news ++ before.fetched := by
  have occupied {spot : Nat} (free : before.phase? spot = none) : place ≠ spot := by
    rintro rfl
    cases free.symm.trans found
  cases step with
  | quiet quiet => exact .inl ⟨by rw [quiet.phases, found], fun _ => quiet.grows.fetched⟩
  | called here phases places fetched => exact .inl ⟨by rw [phases, found], fun _ => fetched⟩
  | blank free sets =>
      refine .inl ⟨?_, fun _ => sets.grows.fetched⟩
      rw [sets.phases, Function.update_of_ne (occupied free), found]
  | create free missing phases places grows =>
      refine .inl ⟨?_, fun _ => grows.fetched⟩
      rw [phases, Function.update_of_ne (occupied free), found]
  | @polled spot earlier later news here there goes sets =>
      by_cases same : place = spot
      · subst same
        cases found.symm.trans there
        exact .inr ⟨here, news, later, goes, sets.found, sets.grows.fetched⟩
      · refine .inl ⟨?_, fun polls => ?_⟩
        · rw [sets.phases, Function.update_of_ne same, found]
        · cases polls.symm.trans here
          exact absurd rfl same

private theorem Step.leads (step : Step demand before after)
    (found : before.phase? place = some phase) :
    ∃ later, after.phase? place = some later ∧ Leads phase later := by
  obtain ⟨kept, -⟩ | ⟨-, news, later, goes, reached, -⟩ := step.effect found
  · exact ⟨phase, kept, .same phase⟩
  · exact ⟨later, reached, goes.leads⟩

theorem Step.fixed (step : Step demand before after)
    (held : before.placeOf? cache link = some place) :
    after.placeOf? cache link = some place := by
  cases step with
  | quiet quiet => rw [quiet.places, held]
  | called here phases places => rw [places, held]
  | blank free sets => rw [sets.places, held]
  | polled here found goes sets => rw [sets.places, held]
  | create free missing phases places =>
      rw [places, if_neg]
      · exact held
      · rintro ⟨rfl, rfl⟩
        cases missing.symm.trans held

/-- The place of a new entry was free. -/
theorem Step.entered (step : Step demand before after)
    (held : after.placeOf? cache link = some place)
    (found : before.phase? place = some phase) : before.placeOf? cache link = some place := by
  cases step with
  | quiet quiet => rw [← quiet.places, held]
  | called here phases places => rw [← places, held]
  | blank free sets => rw [← sets.places, held]
  | polled here there goes sets => rw [← sets.places, held]
  | create free missing phases places =>
      rw [places] at held
      split at held
      · cases held
        cases free.symm.trans found
      · exact held

theorem Step.width (step : Step demand before after) :
    before.caches.length ≤ after.caches.length := by
  cases step with
  | quiet quiet => exact quiet.grows.width
  | called here phases places fetched width => exact width
  | blank free sets => exact sets.grows.width
  | create free missing phases places grows => exact grows.width
  | polled here found goes sets => exact sets.grows.width

/-- Without a poll nothing is fetched. -/
theorem Step.lazy (step : Step demand before after) (calm : ∀ place, demand ≠ .poll place) :
    after.fetched = before.fetched := by
  cases step with
  | quiet quiet => exact quiet.grows.fetched
  | called here phases places fetched => exact fetched
  | blank free sets => exact sets.grows.fetched
  | create free missing phases places grows => exact grows.fetched
  | polled here => exact absurd here (calm _)

/-- Whatever is fetched for the caches is a call of the provider. -/
theorem Step.grows (step : Step demand before after) (own : ∀ link, demand ≠ .fetch link) :
    ∃ news, Grows news before after := by
  cases step with
  | quiet quiet => exact ⟨_, quiet.grows⟩
  | called here => exact absurd here (own _)
  | blank free sets => exact ⟨_, sets.grows⟩
  | create free missing phases places grows => exact ⟨_, grows⟩
  | polled here found goes sets => exact ⟨_, sets.grows⟩

end Step

/-! ## Fetches and entries -/

section Count

variable {place : Nat} {phase : FetchPhase} {cache : Nat} {link : Link}

theorem entry?_of_placed (held : store.placeOf? cache link = some place) :
    store.entry? cache link = store.phase? place := by
  unfold entry?
  rw [held, Option.bind_some]

private theorem entry?_of_missing (missing : store.placeOf? cache link = none) :
    store.entry? cache link = none := by
  unfold entry?
  rw [missing, Option.bind_none]

theorem begun_of_held (held : store.placeOf? cache link = some place)
    (found : store.phase? place = some phase) : store.begun cache link = started phase := by
  simp [begun, entry?, held, found]

theorem begun_of_missing (missing : store.placeOf? cache link = none) :
    store.begun cache link = false := by
  simp [begun, entry?, missing]

theorem started_settledPhase (outcome : Option Source) :
    started (Cell.settledPhase outcome) = true := by
  cases outcome <;> rfl

/-- An entry that is not polled stays as it is, or appears and is idle. -/
theorem Step.entry_of_ne (step : Step demand before after)
    (indexed : Indexed before.phase? before.placeOf?)
    (other : ∀ place, demand = .poll place → before.placeOf? cache link ≠ some place) :
    after.entry? cache link = before.entry? cache link ∨
      before.entry? cache link = none ∧ ∃ key, after.entry? cache link = some (.idle key) := by
  cases held : before.placeOf? cache link with
  | some place =>
      obtain ⟨phase, found, -⟩ := indexed.placed cache link place held
      obtain ⟨kept, -⟩ | ⟨polls, -⟩ := step.effect found
      · exact .inl (by rw [entry?_of_placed held, entry?_of_placed (step.fixed held), kept, found])
      · exact absurd held (other place polls)
  | none =>
      have missing : before.entry? cache link = none := entry?_of_missing held
      have still (same : after.placeOf? = before.placeOf?) : after.entry? cache link = none :=
        entry?_of_missing (same ▸ held)
      cases step with
      | quiet quiet => exact .inl ((still quiet.places).trans missing.symm)
      | called here phases places => exact .inl ((still places).trans missing.symm)
      | blank free sets => exact .inl ((still sets.places).trans missing.symm)
      | polled here found goes sets => exact .inl ((still sets.places).trans missing.symm)
      | @create spot owner key free absent phases places =>
          by_cases same : cache = owner ∧ link = key
          · have placed : after.placeOf? cache link = some spot := by rw [places, if_pos same]
            exact .inr ⟨missing, key, by rw [entry?_of_placed placed, phases, Function.update_self]⟩
          · have absent : after.placeOf? cache link = none := by rw [places, if_neg same, held]
            exact .inl ((entry?_of_missing absent).trans missing.symm)

private theorem begun_of_entry (entry : after.entry? cache link = before.entry? cache link ∨
      before.entry? cache link = none ∧ ∃ key, after.entry? cache link = some (.idle key)) :
    after.begun cache link = before.begun cache link := by
  unfold begun
  obtain same | ⟨missing, key, idle⟩ := entry
  · rw [same]
  · rw [missing, idle]
    rfl

/-- An entry that is not polled stays idle or started. -/
theorem Step.begun_of_ne (step : Step demand before after)
    (indexed : Indexed before.phase? before.placeOf?)
    (other : ∀ place, demand = .poll place → before.placeOf? cache link ≠ some place) :
    after.begun cache link = before.begun cache link :=
  begun_of_entry (step.entry_of_ne indexed other)

/-- When an entry is polled its link is fetched just in case the entry is started by that. -/
theorem Step.count (step : Step (.poll place) before after)
    (indexed : Indexed before.phase? before.placeOf?)
    (held : before.placeOf? cache link = some place) :
    after.fetched.count link + (before.begun cache link).toNat =
      before.fetched.count link + (after.begun cache link).toNat := by
  obtain ⟨phase, found, about⟩ := indexed.placed cache link place held
  rw [begun_of_held held found]
  obtain ⟨kept, same⟩ | ⟨-, news, later, goes, reached, grown⟩ := step.effect found
  · rw [begun_of_held (step.fixed held) kept, same rfl]
  · rw [begun_of_held (step.fixed held) reached, grown]
    cases goes with
    | waits other =>
        cases about
        simp [started, Cell.stage, Cell.ofPhase]
    | answered other outcome =>
        cases about
        rw [started_settledPhase]
        simp [started, Cell.stage, Cell.ofPhase]
    | still task => rfl
    | ended task outcome =>
        rw [started_settledPhase]
        rfl

/-- A fetch of a link has a polled entry of the link. -/
theorem Step.count_of_ne (step : Step demand before after)
    (indexed : Indexed before.phase? before.placeOf?)
    (other : ∀ cache place, demand = .poll place → before.placeOf? cache link ≠ some place) :
    after.fetched.count link = before.fetched.count link := by
  cases step with
  | quiet quiet => rw [quiet.grows.fetched]; rfl
  | called here phases places fetched => rw [fetched]
  | blank free sets => rw [sets.grows.fetched]; rfl
  | create free missing phases places grows => rw [grows.fetched]; rfl
  | @polled place earlier later news here found goes sets =>
      rw [sets.grows.fetched]
      cases goes with
      | waits key | answered key =>
          obtain ⟨cache, held⟩ := indexed.owned place key found
          have different : key ≠ link := by
            rintro rfl
            exact other cache place here held
          simp [different]
      | still | ended => rfl

/-- The caches in which the entry of a link is no longer idle. -/
def beginners (store : Store) (link : Link) : Set Nat := {cache | store.begun cache link = true}

/-- There are as many fetches of each link as entries of it that are no longer idle. -/
def Tallied (store : Store) : Prop :=
  ∀ link, (store.beginners link).encard = store.fetched.count link

private theorem beginners_congr (same : ∀ cache, after.begun cache link = before.begun cache link) :
    after.beginners link = before.beginners link := by
  unfold beginners
  simp only [same]

private theorem beginners_insert (others : ∀ other, other ≠ cache →
    after.begun other link = before.begun other link) (first : after.begun cache link = true) :
    after.beginners link = insert cache (before.beginners link) := by
  ext other
  by_cases here : other = cache
  · simp [here, beginners, first]
  · simp [here, beginners, others other here]

private theorem Step.tallied (step : Step demand before after)
    (indexed : Indexed before.phase? before.placeOf?) (tallied : before.Tallied) :
    after.Tallied := by
  intro link
  by_cases polled : ∃ place owner, demand = .poll place ∧ before.placeOf? owner link = some place
  · obtain ⟨place, owner, rfl, held⟩ := polled
    have counted := step.count indexed held
    have others (cache : Nat) (different : cache ≠ owner) :
        after.begun cache link = before.begun cache link := by
      refine step.begun_of_ne indexed fun spot polls there => ?_
      cases polls
      exact different (indexed.distinct place cache link owner link there held).1
    by_cases same : after.begun owner link = before.begun owner link
    · have all (cache : Nat) : after.begun cache link = before.begun cache link := by
        by_cases here : cache = owner
        · rw [here, same]
        · exact others cache here
      rw [same] at counted
      rw [beginners_congr all, tallied link, Nat.add_right_cancel counted]
    · obtain ⟨news, grows⟩ := step.grows (by simp)
      have more : before.fetched.count link ≤ after.fetched.count link := by
        rw [grows.fetched, List.count_append]
        exact Nat.le_add_left ..
      cases first : after.begun owner link <;> cases earlier : before.begun owner link <;>
        simp only [first, earlier, Bool.toNat_true, Bool.toNat_false] at counted same
      · exact absurd trivial same
      · omega
      · have fresh : owner ∉ before.beginners link := by simp [beginners, earlier]
        rw [beginners_insert others first, Set.encard_insert_of_notMem fresh, tallied link,
          show after.fetched.count link = before.fetched.count link + 1 from counted]
        rfl
      · exact absurd trivial same
  · have other (cache place : Nat) (polls : demand = .poll place) :
        before.placeOf? cache link ≠ some place := fun held => polled ⟨place, cache, polls, held⟩
    rw [beginners_congr fun cache => step.begun_of_ne indexed (other cache), tallied link,
      step.count_of_ne indexed other]

end Count

/-! ## What a row of steps does -/

section Steps

variable {place : Nat} {phase : FetchPhase} {cache : Nat} {link : Link}

theorem Steps.indexed (steps : Steps demand before after)
    (indexed : Indexed before.phase? before.placeOf?) : Indexed after.phase? after.placeOf? := by
  induction steps with
  | refl => exact indexed
  | tail _ step ih => exact step.indexed ih

theorem Steps.tallied (steps : Steps demand before after)
    (indexed : Indexed before.phase? before.placeOf?) (tallied : before.Tallied) :
    after.Tallied := by
  induction steps with
  | refl => exact tallied
  | tail steps step ih => exact step.tallied (Steps.indexed steps indexed) ih

theorem Steps.leads (steps : Steps demand before after) (found : before.phase? place = some phase) :
    ∃ later, after.phase? place = some later ∧ Leads phase later := by
  induction steps with
  | refl => exact ⟨phase, found, .same phase⟩
  | tail _ step ih =>
      obtain ⟨middle, reached, first⟩ := ih
      obtain ⟨later, there, second⟩ := step.leads reached
      exact ⟨later, there, first.trans second⟩

theorem Steps.fixed (steps : Steps demand before after)
    (held : before.placeOf? cache link = some place) :
    after.placeOf? cache link = some place := by
  induction steps with
  | refl => exact held
  | tail _ step ih => exact step.fixed ih

private theorem Steps.entered (steps : Steps demand before after)
    (held : after.placeOf? cache link = some place)
    (found : before.phase? place = some phase) : before.placeOf? cache link = some place := by
  induction steps with
  | refl => exact held
  | tail steps step ih =>
      obtain ⟨middle, there, -⟩ := Steps.leads steps found
      exact ih (step.entered held there)

theorem Steps.entry (steps : Steps demand before after)
    (found : before.entry? cache link = some phase) :
    ∃ later, after.entry? cache link = some later ∧ Leads phase later := by
  obtain ⟨place, held, there⟩ := Option.bind_eq_some_iff.mp found
  obtain ⟨later, reached, leads⟩ := steps.leads there
  exact ⟨later, Option.bind_eq_some_iff.mpr ⟨place, steps.fixed held, reached⟩, leads⟩

theorem Steps.width (steps : Steps demand before after) :
    before.caches.length ≤ after.caches.length := by
  induction steps with
  | refl => exact Nat.le_refl _
  | tail _ step ih => exact Nat.le_trans ih step.width

theorem Steps.lazy (steps : Steps demand before after) (calm : ∀ place, demand ≠ .poll place) :
    after.fetched = before.fetched := by
  induction steps with
  | refl => rfl
  | tail _ step ih => rw [step.lazy calm, ih]

theorem Steps.grows (steps : Steps demand before after) (own : ∀ link, demand ≠ .fetch link) :
    ∃ news, Grows news before after := by
  induction steps with
  | refl => exact ⟨[], .refl before⟩
  | tail _ step ih =>
      obtain ⟨news, first⟩ := ih
      obtain ⟨more, second⟩ := step.grows own
      exact ⟨more ++ news, first.trans second⟩

theorem Steps.entry_of_ne (steps : Steps demand before after)
    (indexed : Indexed before.phase? before.placeOf?)
    (serves : ∀ place, demand = .poll place → ∃ phase, before.phase? place = some phase)
    (other : ∀ place, demand = .poll place → before.placeOf? cache link ≠ some place) :
    after.entry? cache link = before.entry? cache link ∨
      before.entry? cache link = none ∧ ∃ key, after.entry? cache link = some (.idle key) := by
  induction steps with
  | refl => exact .inl rfl
  | tail steps step ih =>
      have unpolled (place : Nat) (polls : demand = .poll place) :
          _ ≠ some place := fun held => by
        obtain ⟨phase, found⟩ := serves place polls
        exact other place polls (Steps.entered steps held found)
      obtain same | ⟨missing, key, idle⟩ := step.entry_of_ne (Steps.indexed steps indexed) unpolled
      · rw [same]
        exact ih
      · obtain same | ⟨-, earlier, there⟩ := ih
        · exact .inr ⟨same ▸ missing, key, idle⟩
        · cases missing.symm.trans there

theorem Steps.begun_of_ne (steps : Steps demand before after)
    (indexed : Indexed before.phase? before.placeOf?)
    (serves : ∀ place, demand = .poll place → ∃ phase, before.phase? place = some phase)
    (other : ∀ place, demand = .poll place → before.placeOf? cache link ≠ some place) :
    after.begun cache link = before.begun cache link :=
  begun_of_entry (Steps.entry_of_ne steps indexed serves other)

/-- When an entry is polled its link is fetched just in case the entry is started by that. -/
theorem Steps.count (steps : Steps (.poll place) before after)
    (indexed : Indexed before.phase? before.placeOf?)
    (held : before.placeOf? cache link = some place) :
    after.fetched.count link + (before.begun cache link).toNat =
      before.fetched.count link + (after.begun cache link).toNat := by
  induction steps with
  | refl => rfl
  | tail steps step ih =>
      have counted := step.count (Steps.indexed steps indexed) (Steps.fixed steps held)
      omega

end Steps

end Store
end LinkFacts
