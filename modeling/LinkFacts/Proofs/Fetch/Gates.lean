import LinkFacts.Proofs.Cache.Operations
import LinkFacts.Session.Run

/-!
# Gates and links

A scripted provider holds the fetches of a link up at one gate at most, and no gate serves two
links.  So what a provider does for one link changes nothing of what it says of other links.
-/

namespace LinkFacts

/-- The gate that an answer waits for. -/
def Script.gate? : Script → Option Nat
  | gated gate => some gate
  | _ => none

namespace Scripted

variable {scripted before after : Scripted} {link other : Link} {gate : Nat}

/-- The gate that holds the fetches of a link up, if there is one. -/
def gateOf? (scripted : Scripted) (link : Link) : Option Nat :=
  (scripted.scripts.lookup link).bind Script.gate?

/-- The answers are the same, and so are the gates of all links but one. -/
structure Spares (link : Link) (before after : Scripted) : Prop where
  scripts : after.scripts = before.scripts
  gates : ∀ other gate, other ≠ link → before.gateOf? other = some gate →
    after.gates[gate]? = before.gates[gate]?

theorem gateOf?_of_scripts (same : after.scripts = before.scripts) :
    after.gateOf? = before.gateOf? := by
  funext link
  simp only [gateOf?, same]

private theorem gateOf?_withScript (scripted : Scripted) (link : Link) (script : Script)
    (other : Link) :
    (scripted.withScript link script).gateOf? other =
      if other = link then script.gate? else scripted.gateOf? other := by
  unfold gateOf? withScript
  rw [Naming.lookup_cons_ite]
  split
  · rfl
  · next different => rw [Naming.lookup_filter_ne, if_neg different]

theorem scripts_begin (scripted : Scripted) (link : Link) :
    (scripted.begin link).2.scripts = scripted.scripts := by
  unfold begin
  dsimp only
  split
  · rfl
  · rfl
  · rfl
  · unfold approach
    split
    · dsimp only
      split <;> rfl
    · rfl

theorem scripts_release (scripted : Scripted) (gate : Nat) (state : GateState) :
    (scripted.release gate state).scripts = scripted.scripts := by
  unfold release
  split <;> rfl

/-- A fetch may take the gate of its own link and no other one. -/
theorem gates_begin (scripted : Scripted) (link : Link) {spot : Nat}
    (foreign : scripted.gateOf? link ≠ some spot) :
    (scripted.begin link).2.gates[spot]? = scripted.gates[spot]? := by
  unfold begin
  dsimp only
  split
  · rfl
  · rfl
  · rfl
  · next gate found =>
    have elsewhere : gate ≠ spot := by
      rintro rfl
      exact foreign (by simp [gateOf?, found, Script.gate?])
    unfold approach
    split
    · dsimp only
      split <;> simp [elsewhere]
    · rfl

theorem gates_release (scripted : Scripted) {spot : Nat} (other : gate ≠ spot)
    (state : GateState) : (scripted.release gate state).gates[spot]? = scripted.gates[spot]? := by
  unfold release
  split
  · simp [other]
  · rfl

private theorem length_gates_release (scripted : Scripted) (gate : Nat) (state : GateState) :
    (scripted.release gate state).gates.length = scripted.gates.length := by
  unfold release
  split <;> simp

/-- What a fetch comes to is a matter of the answer of its link and of the gate there. -/
theorem Spares.begin_fst (spares : Spares link before after) (different : other ≠ link) :
    (after.begin other).1 = (before.begin other).1 := by
  unfold begin
  rw [spares.scripts]
  dsimp only
  split
  · rfl
  · rfl
  · rfl
  · next gate found =>
    have held : before.gateOf? other = some gate := by simp [gateOf?, found, Script.gate?]
    simp only [approach, Scripted.answer?, spares.gates other gate different held]
    split
    · split <;> rfl
    · rfl

private theorem Spares.answer? (spares : Spares link before after) (different : other ≠ link)
    (held : before.gateOf? other = some gate) : after.answer? gate = before.answer? gate := by
  simp only [Scripted.answer?, spares.gates other gate different held]

end Scripted

namespace Provider

variable {provider before middle after : Provider} {link other : Link} {gate : Nat}

/-- The gate that holds the fetches of a link up, as far as this is known. -/
def gateOf? : Provider → Link → Option Nat
  | scripted script => script.gateOf?
  | _ => fun _ => none

/-- It is known how the provider comes to its answers. -/
def isKnown : Provider → Bool
  | oracle _ => false
  | _ => true

/-- No gate serves two links. -/
def Separate (provider : Provider) : Prop :=
  ∀ link other gate, provider.gateOf? link = some gate → provider.gateOf? other = some gate →
    link = other

/-- A provider does something for one link, and will say the same of all other links. -/
structure Tends (link : Link) (before after : Provider) : Prop where
  known : after.isKnown = before.isKnown
  gates : after.gateOf? = before.gateOf?
  calls : ∀ other, other ≠ link →
    after.calls?.map (·.count other) = before.calls?.map (·.count other)
  begins : before.isKnown = true → ∀ other, other ≠ link →
    (after.begin other).1 = (before.begin other).1
  answers : before.isKnown = true → ∀ other gate, other ≠ link →
    before.gateOf? other = some gate → after.answer? gate = before.answer? gate

theorem Tends.refl (link : Link) (provider : Provider) : Tends link provider provider :=
  ⟨rfl, rfl, fun _ _ => rfl, fun _ _ _ => rfl, fun _ _ _ _ _ => rfl⟩

theorem Tends.trans (first : Tends link before middle) (second : Tends link middle after) :
    Tends link before after where
  known := second.known.trans first.known
  gates := second.gates.trans first.gates
  calls other different := (second.calls other different).trans (first.calls other different)
  begins known other different :=
    (second.begins (first.known.trans known) other different).trans
      (first.begins known other different)
  answers known other gate different held :=
    (second.answers (first.known.trans known) other gate different (first.gates ▸ held)).trans
      (first.answers known other gate different held)

theorem Separate.of_gates (separate : before.Separate) (same : after.gateOf? = before.gateOf?) :
    after.Separate := by
  intro link other gate first second
  rw [same] at first second
  exact separate link other gate first second

theorem gateOf?_begin (provider : Provider) (link : Link) :
    (provider.begin link).2.gateOf? = provider.gateOf? := by
  cases provider with
  | fixture document => rfl
  | scripted script => exact Scripted.gateOf?_of_scripts (script.scripts_begin link)
  | oracle unknown => rfl

theorem gateOf?_polled (provider : Provider) : provider.polled.gateOf? = provider.gateOf? := by
  cases provider <;> rfl

theorem gateOf?_release (provider : Provider) (gate : Nat) (state : GateState) :
    (provider.release gate state).gateOf? = provider.gateOf? := by
  cases provider with
  | fixture document => rfl
  | scripted script => exact Scripted.gateOf?_of_scripts (script.scripts_release gate state)
  | oracle unknown => rfl

theorem isKnown_begin (provider : Provider) (link : Link) :
    (provider.begin link).2.isKnown = provider.isKnown := by
  cases provider <;> rfl

theorem isKnown_polled (provider : Provider) : provider.polled.isKnown = provider.isKnown := by
  cases provider <;> rfl

theorem isKnown_release (provider : Provider) (gate : Nat) (state : GateState) :
    (provider.release gate state).isKnown = provider.isKnown := by
  cases provider <;> rfl

/-- A fetch that is begun waits, if it does, at the gate of its link. -/
theorem gateOf?_of_waits (known : provider.isKnown = true)
    (waits : (provider.begin link).1 = .waits gate) : provider.gateOf? link = some gate := by
  cases provider with
  | fixture document => cases waits
  | oracle unknown => cases known
  | scripted script =>
      simp only [begin, Scripted.begin] at waits
      simp only [gateOf?, Scripted.gateOf?]
      split at waits
      · cases waits
      · cases waits
      · cases waits
      · next spot found =>
        simp only [Scripted.approach] at waits
        split at waits
        · split at waits
          · cases waits
          · cases waits
            simp [found, Script.gate?]
        · cases waits

/-- A scripted provider that spares the other links does something for one link. -/
theorem tends_of_spares {earlier later : Scripted} (spares : Scripted.Spares link earlier later)
    (calls : ∀ other, other ≠ link → later.calls.count other = earlier.calls.count other) :
    Tends link (.scripted earlier) (.scripted later) where
  known := rfl
  gates := Scripted.gateOf?_of_scripts spares.scripts
  calls other different := congrArg some (calls other different)
  begins _ _ different := spares.begin_fst different
  answers _ _ _ different held := spares.answer? different held

/-- Where it is not known how a provider comes to its answers, there is less to say. -/
theorem tends_of_oracle {earlier later : Oracle} :
    Tends link (.oracle earlier) (.oracle later) where
  known := rfl
  gates := rfl
  calls _ _ := rfl
  begins known := nomatch known
  answers known := nomatch known

theorem tends_begin (separate : provider.Separate) (link : Link) :
    Tends link provider (provider.begin link).2 := by
  cases provider with
  | fixture document => exact .refl link _
  | oracle unknown => exact tends_of_oracle
  | scripted script =>
      refine tends_of_spares ⟨script.scripts_begin link, fun other gate different held => ?_⟩
        fun other different => ?_
      · refine script.gates_begin link fun own => ?_
        exact different (separate other link gate held own)
      · rw [script.calls_begin, List.count_cons_of_ne different.symm]

theorem tends_polled (link : Link) (provider : Provider) : Tends link provider provider.polled := by
  cases provider with
  | fixture document => exact .refl link _
  | scripted script => exact .refl link _
  | oracle unknown => exact tends_of_oracle

/-- The gate of a link may be settled. -/
theorem tends_release (own : ∀ other, provider.gateOf? other = some gate → other = link)
    (state : GateState) : Tends link provider (provider.release gate state) := by
  cases provider with
  | fixture document => exact .refl link _
  | oracle unknown => exact tends_of_oracle
  | scripted script =>
      refine tends_of_spares
        ⟨script.scripts_release gate state, fun other spot different held => ?_⟩
        fun other _ => by rw [script.calls_release]
      refine script.gates_release (fun same => ?_) state
      exact different (own other (same ▸ held))

end Provider

/-! ## Scripts keep gates apart -/

namespace Session

/-- No gate serves two links, and every gate of a link is there. -/
structure Apportioned (scripted : Scripted) : Prop where
  inside : ∀ link gate, scripted.gateOf? link = some gate → gate < scripted.gates.length
  separate : (Provider.scripted scripted).Separate

variable {scripted : Scripted} {link : Link}

theorem Apportioned.withScript (apportioned : Apportioned scripted) (link : Link)
    {script : Script} (ungated : script.gate? = none) :
    Apportioned (scripted.withScript link script) := by
  have earlier {other : Link} {gate : Nat}
      (held : (scripted.withScript link script).gateOf? other = some gate) :
      scripted.gateOf? other = some gate := by
    rw [Scripted.gateOf?_withScript] at held
    split at held
    · cases ungated.symm.trans held
    · exact held
  exact ⟨fun other gate held => apportioned.inside other gate (earlier held),
    fun other third gate first second =>
      apportioned.separate other third gate (earlier first) (earlier second)⟩

/-- A new gate serves the link that it is put before, and no other one. -/
theorem Apportioned.withGate (apportioned : Apportioned scripted) (link : Link) :
    Apportioned (scripted.withGate link) := by
  have held_iff (other : Link) : (scripted.withGate link).gateOf? other =
      if other = link then some scripted.gates.length else scripted.gateOf? other :=
    scripted.gateOf?_withScript link (.gated scripted.gates.length) other
  constructor
  · intro other gate held
    rw [held_iff] at held
    simp only [Scripted.withGate, List.length_append, List.length_singleton]
    split at held
    · cases held
      exact Nat.lt_succ_self _
    · exact Nat.lt_succ_of_lt (apportioned.inside other gate held)
  · intro other third gate first second
    have fresh {any : Link} (held : scripted.gateOf? any = some scripted.gates.length) : False :=
      Nat.lt_irrefl _ (apportioned.inside any _ held)
    change (scripted.withGate link).gateOf? other = some gate at first
    change (scripted.withGate link).gateOf? third = some gate at second
    rw [held_iff] at first second
    split at first <;> split at second
    · next one two => exact one.trans two.symm
    · cases first
      exact (fresh second).elim
    · cases second
      exact (fresh first).elim
    · exact apportioned.separate other third gate first second

theorem Apportioned.release (apportioned : Apportioned scripted) (gate : Nat)
    (state : GateState) : Apportioned (scripted.release gate state) := by
  have same := Scripted.gateOf?_of_scripts (scripted.scripts_release gate state)
  constructor
  · intro link spot held
    rw [same] at held
    rw [Scripted.length_gates_release]
    exact apportioned.inside link spot held
  · exact apportioned.separate.of_gates same

private theorem apportioned_script {lines : List (String × ScriptLine)} {later : Scripted}
    {gates names : List (String × Nat)} (apportioned : Apportioned scripted)
    (scripts : script scripted gates lines = .ok (later, names)) : Apportioned later := by
  induction lines generalizing scripted gates with
  | nil =>
      cases scripts
      exact apportioned
  | cons line rest ih =>
      obtain ⟨target, answer⟩ := line
      simp only [script] at scripts
      split at scripts
      · cases scripts
      · next link found =>
        split at scripts
        · exact ih (apportioned.withScript link rfl) scripts
        · exact ih (apportioned.withScript link rfl) scripts
        · refine ih ?_ scripts
          split
          · exact (apportioned.withGate link).release _ _
          · exact apportioned.withGate link

/-- The provider of a session keeps the gates of its links apart. -/
theorem separate_provide {source : SessionSource} {provider : Provider}
    {gates : List (String × Nat)} (provides : provide source = .ok (provider, gates)) :
    provider.Separate := by
  unfold provide at provides
  split at provides
  · split at provides
    · cases provides
      exact nofun
    · cases provides
  · split at provides
    · next scripted names scripts =>
      cases provides
      have nobody : Apportioned .empty := ⟨nofun, nofun⟩
      exact (apportioned_script nobody scripts).separate
    · cases provides
  · cases provides
    exact nofun

end Session
end LinkFacts
