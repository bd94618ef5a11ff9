import Mathlib
import LinkFacts.Proofs.Component.Mounting
import LinkFacts.Proofs.Render.Standard
import LinkFacts.Command.Run

/-!
# What the program prints

The program prints one line for each target, which tells whether the facts of the target's link are
shown, and with which markup.  No line depends on the other targets.
-/

namespace LinkFacts
namespace Command

open Replay (Cell Phase Waker)
open Settings (Configuration Surroundings)
open Store (Demand Step Steps Indexed)

/-- The markup of the facts that a fixture has for the link of a target, unless there are none. -/
def shown? (fixture : Fixture) (template : Template) (base : Option Address) (href : String) :
    Option String :=
  match Link.resolve base href with
  | .error _ => none
  | .ok link =>
    match fixture.entries.lookup link with
    | none => none
    | some facts => if facts.isEmpty then none else (Render.render template facts).toOption

/-- The line of a target. -/
def line (fixture : Fixture) (template : Template) (base : Option Address) (href : String) :
    String :=
  match shown? fixture template base href with
  | some markup => href ++ "\t" ++ "done" ++ "\t" ++ markup ++ "\n"
  | none => href ++ "\t" ++ "-" ++ "\t" ++ "" ++ "\n"

/-- The links of the targets that have one. -/
def linksOf (base : Option Address) (hrefs : List String) : List Link :=
  hrefs.filterMap fun href => (Link.resolve base href).toOption

/-- The lines of all targets, and the number of different links. -/
def listing (fixture : Fixture) (template : Template) (base : Option Address)
    (hrefs : List String) : String :=
  String.join (hrefs.map (line fixture template base)) ++
    (toString (linksOf base hrefs).toFinset.card ++ " distinct link(s) requested\n")

/-- Everything that a run needs can be read. -/
structure Prepared (surroundings : Surroundings) (arguments : Arguments)
    (configuration : Configuration) (fixture : Fixture) (template : Template) : Prop where
  loads : Settings.load surroundings arguments.config = .ok configuration
  reads : ∃ path, fixturesPath? arguments configuration = some path ∧
    Fixture.ofFile surroundings.reader path = .ok fixture
  compiles : Render.compile (configuration.template.getD Render.standardText) = .ok template

variable {fixture : Fixture} {template : Template} {base : Option Address} {page : Page}
  {mount : Mount} {href : String} {hrefs shown : List String} {mounts : List Mount}

private theorem toOption_eq_some_iff {ε α : Type} {result : Except ε α} {value : α} :
    result.toOption = some value ↔ result = .ok value := by
  cases result <;> simp [Except.toOption]

/-- The value of the entry of a link. -/
def valueOf (fixture : Fixture) (link : Link) : Option Source := Store.sourceOf (fixture.fetch link)

private theorem shown?_of_error {fault : Link.Fault}
    (unresolved : Link.resolve base href = .error fault) :
    shown? fixture template base href = none := by
  simp only [shown?, unresolved]

private theorem shown?_of_ok {link : Link} (resolved : Link.resolve base href = .ok link) :
    shown? fixture template base href = (valueOf fixture link).bind fun source =>
      (Render.render template source.facts).toOption := by
  simp only [shown?, resolved, valueOf, Fixture.fetch]
  cases fixture.entries.lookup link with
  | none => rfl
  | some facts =>
      by_cases empty : facts.isEmpty
      · simp [Store.sourceOf, Source.ofFacts?, empty]
      · simp [Store.sourceOf, Source.ofFacts?, empty]

/-! ## Elements -/

/-- The element of a target before anything is shown. -/
def blankElement (href : String) : Element := ⟨.ofHref href, true⟩

/-- The element of a target in the end. -/
def element (fixture : Fixture) (template : Template) (base : Option Address) (href : String) :
    Element :=
  match shown? fixture template base href with
  | some markup => ⟨(Anchor.ofHref href).present markup, true⟩
  | none => blankElement href

private theorem anchorLine_element :
    anchorLine (element fixture template base href).anchor = line fixture template base href := by
  unfold element line
  cases shown? fixture template base href <;> rfl

/-! ## Stores that are served by a fixture -/

/-- The store of a page takes facts from a fixture, and every entry is idle or holds what the
fixture has for its link. -/
structure Serves (fixture : Fixture) (store : Store) : Prop where
  provider : store.provider = .fixture fixture
  home : Page.cache < store.caches.length
  indexed : Indexed store.phase? store.placeOf?
  prompt : ∀ link phase, store.entry? Page.cache link = some phase →
    phase = .idle link ∨ phase = Cell.settledPhase (valueOf fixture link)

section Serves

variable {store after : Store} {link : Link}

/-- A poll of an entry has its outcome at once. -/
theorem Serves.verdict (serves : Serves fixture store) {phase : FetchPhase}
    (found : store.entry? Page.cache link = some phase) :
    store.verdict? phase = some (valueOf fixture link) := by
  obtain rfl | rfl := serves.prompt link phase found
  · simp only [Store.verdict?, Store.ending?, Store.says?, serves.provider]
    rfl
  · exact Store.verdict?_settledPhase _

/-- New entries are idle, and an entry that is polled gets what the fixture has for its link. -/
theorem Serves.steps {demand : Demand} (serves : Serves fixture store)
    (steps : Steps demand store after) (provider : after.provider = store.provider)
    (there : ∀ place, demand = .poll place → ∃ phase, store.phase? place = some phase)
    (settles : ∀ place link, demand = .poll place →
      store.placeOf? Page.cache link = some place →
        after.phase? place = some (Cell.settledPhase (valueOf fixture link))) :
    Serves fixture after where
  provider := provider.trans serves.provider
  home := Nat.lt_of_lt_of_le serves.home steps.width
  indexed := steps.indexed serves.indexed
  prompt link phase found := by
    by_cases polled : ∃ place, demand = .poll place ∧ store.placeOf? Page.cache link = some place
    · obtain ⟨place, asks, held⟩ := polled
      rw [Store.entry?_of_placed (steps.fixed held), settles place link asks held] at found
      exact .inr (Option.some.inj found).symm
    · obtain same | ⟨-, key, idle⟩ := steps.entry_of_ne serves.indexed there
        fun place asks held => polled ⟨place, asks, held⟩
      · exact serves.prompt link phase (same ▸ found)
      · obtain ⟨place, held, idling⟩ := Option.bind_eq_some_iff.mp idle
        obtain ⟨reached, beside, about⟩ :=
          (steps.indexed serves.indexed).placed Page.cache link place held
        cases idling.symm.trans beside
        cases about
        exact .inl (Option.some.inj (found.symm.trans idle))

end Serves

/-! ## Mounting -/

/-- A mount that was not polled yet. -/
structure Ready (page : Page) (mount : Mount) : Prop where
  fits : page.Fits mount
  holds : page.store.Holds mount.watch
  live : mount.watch.done = false

private theorem Ready.later {after : Page} {demand : Demand} {requests : List (Nat × Link)}
    {written : Nat → List Mutation} (ready : Ready page mount)
    (turns : page.Turns requests written after) (steps : Steps demand page.store after.store) :
    Ready after mount :=
  ⟨ready.fits.later turns steps, ready.holds.steps steps, ready.live⟩

/-- A mount of a target's element was made on a page that has changed little. -/
theorem mount_spec (page : Page) (place : Nat) (anchor : Anchor) :
    (page.mount place anchor).1.element = place ∧ (page.mount place anchor).1.watch.done = false ∧
      (page.mount place anchor).2.elements = page.elements ∧
      (page.mount place anchor).2.base = page.base ∧
      (page.mount place anchor).2.store.provider = page.store.provider := by
  cases identified : page.identify anchor with
  | error fault =>
      rw [Page.mount_of_error identified]
      exact ⟨rfl, rfl, rfl, rfl, rfl⟩
  | ok link =>
      have provider : (page.store.watch Page.cache link).2.provider = page.store.provider := by
        unfold Store.watch Store.subscribe Store.entry
        split <;> rfl
      simp only [Page.mount, identified]
      exact ⟨trivial, rfl, trivial, trivial, provider⟩

private theorem element?_addElement (page : Page) (href : String) :
    (page.addElement href).element? page.elements.length = some (.ofHref href) := by
  simp [Page.element?, Page.addElement]

/-- What mounts of the elements of targets leave behind. -/
structure Mounts (page : Page) (hrefs : List String) (mounts : List Mount) (after : Page) :
    Prop where
  turns : page.Turns ((linksOf page.base hrefs).map fun link => (Page.cache, link)) Page.blank after
  steps : Steps .nothing page.store after.store
  provider : after.store.provider = page.store.provider
  base : after.base = page.base
  elements : after.elements = page.elements ++ hrefs.map blankElement
  places : mounts.map Mount.element = List.range' page.elements.length hrefs.length
  ready : ∀ mount ∈ mounts, Ready after mount

private theorem requestsOf_ofHref (page : Page) (href : String) :
    page.requestsOf (.ofHref href) =
      (linksOf page.base [href]).map fun link => (Page.cache, link) := by
  unfold Page.requestsOf Page.identify linksOf Anchor.ofHref
  rw [List.filterMap_cons]
  cases Link.resolve page.base href <;> rfl

private theorem mounts_mount (home : Page.cache < page.store.caches.length)
    (indexed : Indexed page.store.phase? page.store.placeOf?) (href : String) :
    Mounts page [href] [((page.addElement href).mount page.elements.length (.ofHref href)).1]
      ((page.addElement href).mount page.elements.length (.ofHref href)).2 := by
  have known : Page.cache < (page.addElement href).store.caches.length := home
  have ordered :
      Indexed (page.addElement href).store.phase? (page.addElement href).store.placeOf? := indexed
  have stepped : Steps .nothing (page.addElement href).store _ ∧ _ :=
    Page.steps_mount known ordered page.elements.length (.ofHref href)
  have fits := Page.fits_mount known (element?_addElement page href)
  have turns := (Page.turns_addElement page href).after_blank
    (Page.turns_mount known page.elements.length (.ofHref href))
  rw [requestsOf_ofHref] at turns
  obtain ⟨placed, live, elements, base, provider⟩ :=
    mount_spec (page.addElement href) page.elements.length (.ofHref href)
  generalize (page.addElement href).mount page.elements.length (.ofHref href) = mounted
    at stepped fits turns placed live elements base provider ⊢
  refine ⟨turns, stepped.1, provider, base, elements, ?_, fun mount there => ?_⟩
  · rw [List.map_singleton, placed]
    rfl
  · cases List.mem_singleton.mp there
    exact ⟨fits, stepped.2, live⟩

private theorem Mounts.append {middle after : Page} {more : List String} {others : List Mount}
    (first : Mounts page hrefs mounts middle) (second : Mounts middle more others after) :
    Mounts page (hrefs ++ more) (mounts ++ others) after where
  turns := by
    have both := first.turns.trans second.turns
    rw [first.base, ← List.map_append, linksOf, linksOf, ← List.filterMap_append] at both
    exact both
  steps := first.steps.trans second.steps
  provider := second.provider.trans first.provider
  base := second.base.trans first.base
  elements := by rw [second.elements, first.elements, List.append_assoc, List.map_append]
  places := by
    have length : middle.elements.length = page.elements.length + hrefs.length := by
      rw [first.elements, List.length_append, List.length_map]
    rw [List.map_append, first.places, second.places, length, List.length_append,
      List.range'_append_1]
  ready mount there := by
    obtain earlier | later := List.mem_append.mp there
    · exact (first.ready mount earlier).later second.turns second.steps
    · exact second.ready mount later

private theorem mounts_mountAll (home : Page.cache < page.store.caches.length)
    (indexed : Indexed page.store.phase? page.store.placeOf?) (hrefs : List String) :
    Mounts page hrefs (mountAll page hrefs).1 (mountAll page hrefs).2 := by
  induction hrefs generalizing page with
  | nil => exact ⟨.refl _, .refl, rfl, rfl, (List.append_nil _).symm, rfl, nofun⟩
  | cons href rest ih =>
      have first := mounts_mount home indexed href
      simp only [mountAll]
      generalize (page.addElement href).mount page.elements.length (.ofHref href) = mounted
        at first ⊢
      exact first.append (ih (Nat.lt_of_lt_of_le home first.steps.width)
        (first.steps.indexed indexed))

/-! ## Collecting -/

private theorem provider_await (store : Store) (watch : Watch) (task : FetchTask) :
    (store.await watch task).2.2.provider = store.provider := by
  unfold Store.await
  split <;> rfl

/-- Polls do nothing to a fixture. -/
theorem provider_poll {store : Store} (fixed : store.provider = .fixture fixture) (watch : Watch)
    (waker : Waker) : (store.poll watch waker).2.2.provider = store.provider := by
  have asked (link : Link) : (store.provider.begin link).2 = store.provider := by rw [fixed]; rfl
  have polled : store.provider.polled = store.provider := by rw [fixed]; rfl
  unfold Store.poll
  split
  · rfl
  · split
    · rfl
    · dsimp only
      split
      · rfl
      · rfl
      · unfold Store.begin
        dsimp only
        split
        · exact asked _
        · exact (provider_await ..).trans (asked _)
      · unfold Store.resume
        dsimp only
        split
        · exact polled
        · exact (provider_await ..).trans polled

/-- What a mount writes changes neither the provider nor the base address of its page. -/
theorem poll_keeps (page : Page) (mount : Mount) (waker : Waker) :
    (page.poll mount waker).2.2.store.provider =
        (page.store.poll mount.watch waker).2.2.provider ∧
      (page.poll mount waker).2.2.base = page.base := by
  unfold Page.poll
  dsimp only
  split
  · exact ⟨rfl, rfl⟩
  · unfold Page.dispatch Page.presentFacts
    split
    · split
      · exact ⟨rfl, rfl⟩
      · split <;> exact ⟨rfl, rfl⟩
    · exact ⟨rfl, rfl⟩
  · exact ⟨rfl, rfl⟩

private theorem Serves.calm {store : Store} (serves : Serves fixture store) (place : Nat) :
    store.phase? place ≠ some .driven := serves.indexed.calm place

private theorem Serves.poll (serves : Serves fixture page.store) (ready : Ready page mount)
    (waker : Waker) : Serves fixture (page.poll mount waker).2.2.store := by
  obtain ⟨phase, found, -⟩ := ready.holds
  refine serves.steps (Page.steps_poll page mount waker) ?_ ?_ ?_
  · rw [(poll_keeps page mount waker).1, provider_poll serves.provider]
  · intro place asks
    cases asks
    exact ⟨phase, found⟩
  · intro place link asks held
    cases asks
    obtain ⟨later, reached, leaves, -⟩ := Store.poll_leaves ready.holds found
      (fun driven => serves.calm _ (driven ▸ found)) waker
    rw [serves.verdict ((Store.entry?_of_placed held).trans found)] at leaves
    cases leaves
    rw [(Page.quiet_poll page mount waker).phases]
    exact reached

/-- A mount of a link gives what the fixture has for the link. -/
theorem Serves.given {link : Link} (serves : Serves fixture page.store) (ready : Ready page mount)
    (held : page.store.placeOf? Page.cache link = some mount.watch.place) (waker : Waker) :
    (page.store.poll mount.watch waker).1 = Store.answerOf (some (valueOf fixture link)) := by
  obtain ⟨phase, found, -⟩ := ready.holds
  obtain ⟨later, -, gives⟩ := Store.gives_poll ready.live found
    (fun driven => serves.calm _ (driven ▸ found)) waker
  rw [gives.answers, serves.verdict ((Store.entry?_of_placed held).trans found)]

/-- What is left of a mount of a target once it was polled. -/
structure Collected (fixture : Fixture) (page : Page) (mount : Mount) (href : String)
    (polled : Poll Component × Mount × Page) : Prop where
  ends : polled.1 ≠ .pending
  elements : polled.2.2.elements =
    page.elements.set mount.element (element fixture page.template page.base href)

private theorem elements_presentFacts_ok {place : Nat} {source : Source} {markup : String}
    {anchor : Anchor} (there : page.element? place = some anchor)
    (rendered : Render.render page.template source.facts = .ok markup) :
    (page.presentFacts place source).elements = page.elements.modify place fun element =>
      { element with anchor := element.anchor.present markup } := by
  simp only [Page.presentFacts, there, rendered]

private theorem modify_eq_set {elements : List Element} {place : Nat} {old : Element}
    (there : elements[place]? = some old) (change : Element → Element) :
    elements.modify place change = elements.set place (change old) := by
  rw [List.modify_eq_set_getElem?, there]
  rfl

/-- A mount shows the facts of the target's link, and has nothing to wait for. -/
theorem collected_poll (serves : Serves fixture page.store) (ready : Ready page mount)
    (there : page.elements[mount.element]? = some (blankElement href)) (waker : Waker) :
    Collected fixture page mount href (page.poll mount waker) := by
  have linked : page.link? mount.element = (Link.resolve page.base href).toOption := by
    simp only [Page.link?, there, Option.bind_some]
    rfl
  -- a poll that shows nothing leaves the element as it was
  have unchanged (ends : (page.poll mount waker).1 ≠ .pending)
      (same : (page.poll mount waker).2.2.elements = page.elements)
      (nothing : shown? fixture page.template page.base href = none) :
      Collected fixture page mount href (page.poll mount waker) := by
    refine ⟨ends, ?_⟩
    obtain ⟨inside, old⟩ := List.getElem?_eq_some_iff.mp there
    rw [same, element, nothing, ← old, List.set_getElem_self]
  cases ready.fits with
  | loose inside unnamed finished closed =>
      obtain ⟨ended, -, elements, -⟩ := ready.fits.poll_of_closed closed waker
      refine unchanged (by simp [ended]) elements ?_
      rw [unnamed] at linked
      cases resolved : Link.resolve page.base href with
      | error fault => exact shown?_of_error resolved
      | ok link =>
          rw [resolved] at linked
          cases linked
  | @bound link named placed opened =>
      have resolved : Link.resolve page.base href = .ok link := by
        rw [named] at linked
        exact toOption_eq_some_iff.mp linked.symm
      have given := serves.given ready placed waker
      have shows : shown? fixture page.template page.base href = _ := shown?_of_ok resolved
      have first := Page.fst_poll page mount waker
      cases value : valueOf fixture link with
      | none =>
          rw [value] at given shows
          rw [given] at first
          refine unchanged (by simp [first, Store.answerOf, Poll.map]) ?_ shows
          simp only [Page.poll, given, Store.answerOf]
      | some source =>
          rw [value] at given shows
          rw [given] at first
          rw [ready.live] at opened
          have ends : (page.poll mount waker).1 ≠ .pending := by
            simp [first, Store.answerOf, Poll.map]
          have moved := Page.poll_of_item opened given
          cases rendered : Render.render page.template source.facts with
          | error fault =>
              rw [Option.bind_some, rendered] at shows
              refine unchanged ends ?_ shows
              rw [moved]
              exact Page.elements_presentFacts (.inr ⟨fault, rendered⟩)
          | ok markup =>
              rw [Option.bind_some, rendered] at shows
              have present : ({ page with store := (page.store.poll mount.watch waker).2.2 } :
                  Page).element? mount.element = some (.ofHref href) := by
                simp only [Page.element?, there, blankElement]
              refine ⟨ends, ?_⟩
              rw [moved, elements_presentFacts_ok present rendered, modify_eq_set there, element,
                shows]
              rfl

/-- What is left of a mount of a target that was driven to its end. -/
structure Driven (fixture : Fixture) (page : Page) (mount : Mount) (href : String)
    (driven : Option (List Component) × Page) : Prop where
  ends : driven.1 ≠ none
  serves : Serves fixture driven.2.store
  elements : driven.2.elements =
    page.elements.set mount.element (element fixture page.template page.base href)
  base : driven.2.base = page.base
  turns : ∃ written, page.Turns [] written driven.2
  steps : Steps (.poll mount.watch.place) page.store driven.2.store

private theorem driven_collect (serves : Serves fixture page.store) (ready : Ready page mount)
    (there : page.elements[mount.element]? = some (blankElement href)) :
    Driven fixture page mount href (page.collect mount) := by
  have calm := serves.calm mount.watch.place
  have collected := collected_poll serves ready there .silent
  have turns := Page.turns_poll ready.fits ready.holds calm .silent
  have polled := serves.poll ready .silent
  have unmounted : Store.Quiet (page.poll mount .silent).2.2.store
      ((page.poll mount .silent).2.2.unmount (page.poll mount .silent).2.1).store :=
    Store.quiet_unwatch _
  have unasked : Steps .nothing (page.poll mount .silent).2.2.store
      ((page.poll mount .silent).2.2.unmount (page.poll mount .silent).2.1).store :=
    .single (.quiet unmounted)
  have stays : Serves fixture
      ((page.poll mount .silent).2.2.unmount (page.poll mount .silent).2.1).store :=
    polled.steps unasked rfl nofun nofun
  rw [Page.collect_eq ready.holds calm]
  refine ⟨?_, stays, collected.elements, (poll_keeps page mount .silent).2,
    ⟨_, turns.then_blank (Page.turns_unmount _ _)⟩,
    (Page.steps_poll page mount .silent).tail (.quiet unmounted)⟩
  have ends := collected.ends
  cases given : (page.poll mount .silent).1 with
  | pending => exact absurd given ends
  | item component => nofun
  | ended => nofun

/-- None of the mounts has to wait when they are driven one after the other. -/
def NoneWaits (page : Page) : List Mount → Prop
  | [] => True
  | mount :: rest => (page.collect mount).1 ≠ none ∧ NoneWaits (page.collect mount).2 rest

/-- What is left of mounts that were driven to their ends one after the other. -/
structure AllDriven (fixture : Fixture) (page : Page) (mounts : List Mount) (after : Page) :
    Prop where
  ends : NoneWaits page mounts
  shown : ∀ mount ∈ mounts, ∀ href, page.elements[mount.element]? = some (blankElement href) →
    after.elements[mount.element]? = some (element fixture page.template page.base href)
  others : ∀ place, place ∉ mounts.map Mount.element →
    after.elements[place]? = page.elements[place]?
  files : Store.Files [] page.store after.store

/-- Every mount shows the facts of its target's link, in whatever order they are driven. -/
theorem allDriven_collectAll (serves : Serves fixture page.store)
    (ready : ∀ mount ∈ mounts, Ready page mount)
    (blank : ∀ mount ∈ mounts, ∃ href, page.elements[mount.element]? = some (blankElement href))
    (apart : (mounts.map Mount.element).Nodup) :
    AllDriven fixture page mounts (collectAll page mounts) := by
  induction mounts generalizing page with
  | nil => exact ⟨trivial, nofun, fun place _ => rfl, .refl _⟩
  | cons mount rest ih =>
      obtain ⟨fresh, apart⟩ := List.nodup_cons.mp apart
      obtain ⟨href, there⟩ := blank mount List.mem_cons_self
      have driven := driven_collect serves (ready mount List.mem_cons_self) there
      obtain ⟨written, turns⟩ := driven.turns
      have inside : mount.element < page.elements.length := (List.getElem?_eq_some_iff.mp there).1
      have beside (place : Nat) (differs : mount.element ≠ place) :
          (page.collect mount).2.elements[place]? = page.elements[place]? := by
        rw [driven.elements, List.getElem?_set_ne differs]
      have differs {other : Mount} (later : other ∈ rest) : mount.element ≠ other.element :=
        fun same => fresh (same ▸ List.mem_map_of_mem later)
      have all := ih driven.serves
        (fun other later => (ready other (List.mem_cons_of_mem _ later)).later turns driven.steps)
        (fun other later => by
          rw [beside _ (differs later)]
          exact blank other (List.mem_cons_of_mem _ later))
        apart
      refine ⟨⟨driven.ends, all.ends⟩, ?_, fun place outside => ?_, turns.files.trans all.files⟩
      · intro other among target held
        obtain rfl | later := List.mem_cons.mp among
        · rw [collectAll, all.others _ fresh, driven.elements, List.getElem?_set_self inside]
          rw [there] at held
          cases held
          rfl
        · rw [← beside _ (differs later)] at held
          rw [collectAll, all.shown other later target held, turns.template, driven.base]
      · obtain ⟨differs, outside⟩ := List.ne_and_not_mem_of_not_mem_cons outside
        rw [collectAll, all.others place outside, beside place differs.symm]

/-! ## Whole runs -/

/-- A page on which nothing was mounted yet. -/
def emptyPage (fixture : Fixture) (timeout : Option Nat) (template : Template)
    (base : Option Address) : Page :=
  ⟨.start (.fixture fixture) timeout, [], template, base⟩

private theorem placeOf?_start (provider : Provider) (timeout : Option Nat) (cache : Nat)
    (link : Link)
    (place : Nat) : (Store.start provider timeout).placeOf? cache link ≠ some place := by
  cases cache <;> simp [Store.placeOf?, Store.start]

private theorem serves_emptyPage (timeout : Option Nat) :
    Serves fixture (emptyPage fixture timeout template base).store where
  provider := rfl
  home := Nat.zero_lt_one
  indexed :=
    ⟨fun _ _ _ held => (placeOf?_start _ _ _ _ _ held).elim,
      fun _ _ _ _ _ held => (placeOf?_start _ _ _ _ _ held).elim, nofun, nofun⟩
  prompt link phase found := by cases found

private theorem links_emptyPage (timeout : Option Nat) (cache : Nat) :
    (emptyPage fixture timeout template base).store.links cache = [] := by
  cases cache <;> rfl

/-- There are as many entries in the end as there are different links. -/
theorem distinctLinks_eq {timeout : Option Nat} {after : Page}
    (files : Store.Files ((linksOf base hrefs).map fun link => (Page.cache, link))
      (emptyPage fixture timeout template base).store after.store) :
    distinctLinks after = (linksOf base hrefs).toFinset.card := by
  rw [distinctLinks, Store.length_links]
  exact files.length_links (links_emptyPage timeout) fun link => by simp

/-- Mounts of all elements of a page leave it with the facts of all targets, whatever the order in
which they are driven. -/
theorem Mounts.collectAll {after : Page} {order : List Mount} (empty : page.elements = [])
    (serves : Serves fixture page.store) (made : Mounts page hrefs mounts after)
    (perm : order.Perm mounts) :
    NoneWaits after order ∧
      (collectAll after order).elements = hrefs.map (element fixture page.template page.base) ∧
      Store.Files ((linksOf page.base hrefs).map fun link => (Page.cache, link)) page.store
        (collectAll after order).store := by
  have places : (order.map Mount.element).Perm (List.range' 0 hrefs.length) := by
    have given := made.places
    rw [empty] at given
    exact given ▸ perm.map Mount.element
  have among_iff (place : Nat) : place ∈ order.map Mount.element ↔ place < hrefs.length := by
    rw [places.mem_iff, List.mem_range'_1, Nat.zero_add]
    exact and_iff_right (Nat.zero_le place)
  have blank (place : Nat) : after.elements[place]? = hrefs[place]?.map blankElement := by
    rw [made.elements, empty, List.nil_append, List.getElem?_map]
  have driven : AllDriven fixture after order (Command.collectAll after order) := by
    refine allDriven_collectAll (serves.steps made.steps made.provider nofun nofun)
      (fun mount among => made.ready mount (perm.mem_iff.mp among)) (fun mount among => ?_)
      (places.nodup_iff.mpr List.nodup_range')
    have inside := (among_iff mount.element).mp (List.mem_map_of_mem among)
    exact ⟨hrefs[mount.element], by rw [blank, List.getElem?_eq_getElem inside, Option.map_some]⟩
  refine ⟨driven.ends, ?_, ?_⟩
  · ext1 place
    rw [List.getElem?_map]
    by_cases inside : place < hrefs.length
    · obtain ⟨mount, among, rfl⟩ := List.mem_map.mp ((among_iff place).mpr inside)
      have held : after.elements[mount.element]? = some (blankElement hrefs[mount.element]) := by
        rw [blank, List.getElem?_eq_getElem inside, Option.map_some]
      rw [driven.shown mount among _ held, List.getElem?_eq_getElem inside, Option.map_some,
        made.turns.template, made.base]
    · rw [driven.others place (fun among => inside ((among_iff place).mp among)), blank,
        List.getElem?_eq_none (Nat.le_of_not_lt inside), Option.map_none, Option.map_none]
  · have filed := made.turns.files.trans driven.files
    rwa [List.append_nil] at filed

/-- Whatever the order in which the mounts of a run are driven, none of them has to wait, and the
page reads as the listing in the end. -/
theorem report_collectAll {timeout : Option Nat} {order : List Mount}
    (perm : order.Perm (mountAll (emptyPage fixture timeout template base) hrefs).1) :
    NoneWaits (mountAll (emptyPage fixture timeout template base) hrefs).2 order ∧
      report (collectAll (mountAll (emptyPage fixture timeout template base) hrefs).2 order) =
        listing fixture template base hrefs := by
  have serves : Serves fixture (emptyPage fixture timeout template base).store :=
    serves_emptyPage timeout
  have mounts := mounts_mountAll serves.home serves.indexed hrefs
  obtain ⟨ends, shown, files⟩ := mounts.collectAll rfl serves perm
  have elements : (collectAll _ order).elements = hrefs.map (element fixture template base) := shown
  have lines : (fun shown : Element => anchorLine shown.anchor) ∘ element fixture template base =
      line fixture template base := funext fun href => anchorLine_element
  have count : distinctLinks (collectAll _ order) = (linksOf base hrefs).toFinset.card :=
    distinctLinks_eq files
  exact ⟨ends, by rw [report, elements, count, countLine, listing, List.map_map, lines]⟩

private theorem report_mountPage (fixture : Fixture) (timeout : Option Nat) (template : Template)
    (base : Option Address) (hrefs : List String) :
    report (mountPage (emptyPage fixture timeout template base) hrefs) =
      listing fixture template base hrefs :=
  (report_collectAll (.refl _)).2

/-- The page of a run on which everything that it needs can be read. -/
theorem Prepared.preparePage? {surroundings : Surroundings} {arguments : Arguments}
    {configuration : Configuration}
    (prepared : Prepared surroundings arguments configuration fixture template) :
    Command.preparePage? surroundings.reader arguments configuration =
      some (emptyPage fixture configuration.effectiveTimeout template configuration.baseUrl) := by
  obtain ⟨path, given, read⟩ := prepared.reads
  simp only [Command.preparePage?, given, Option.bind_eq_bind, Option.bind_some, read,
    prepared.compiles]
  rfl

/-- A run has a page only if everything that it needs can be read. -/
theorem prepared_of_preparePage? {surroundings : Surroundings} {arguments : Arguments}
    {configuration : Configuration}
    (loads : Settings.load surroundings arguments.config = .ok configuration)
    (made : preparePage? surroundings.reader arguments configuration = some page) :
    ∃ fixture template, Prepared surroundings arguments configuration fixture template := by
  simp only [preparePage?, Option.bind_eq_bind, Option.bind_eq_some_iff] at made
  obtain ⟨path, given, fixture, read, template, compiled, -⟩ := made
  exact ⟨fixture, template, loads, ⟨path, given, toOption_eq_some_iff.mp read⟩,
    toOption_eq_some_iff.mp compiled⟩

/-- The program prints the listing of the targets if everything that it needs can be read, and
nothing otherwise. -/
theorem run_eq_listing {surroundings : Surroundings} {command : List String} {arguments : Arguments}
    (asked : request? command = some (.run arguments)) :
    (∀ configuration fixture template,
        Prepared surroundings arguments configuration fixture template →
          run surroundings command =
            ⟨0, listing fixture template configuration.baseUrl arguments.hrefs⟩) ∧
      ((¬ ∃ configuration fixture template,
          Prepared surroundings arguments configuration fixture template) →
        run surroundings command = ⟨1, ""⟩) := by
  simp only [run, asked, execute]
  constructor
  · intro configuration fixture template prepared
    simp only [prepared.loads, prepared.preparePage?, report_mountPage]
    rfl
  · intro unprepared
    cases loads : Settings.load surroundings arguments.config with
    | error fault => rfl
    | ok configuration =>
        cases made : preparePage? surroundings.reader arguments configuration with
        | none => simp only [made]; rfl
        | some page => exact absurd ⟨configuration, prepared_of_preparePage? loads made⟩ unprepared

/-- A document with the facts of one repository. -/
def singleText : String := "\x7b\"https://x/\":\x7b\"a\":\"b\"\x7d\x7d"

/-- The fixture of this document, in a file called `f`. -/
def singleFixture : Fixture := ⟨"f", [(⟨"https://x/"⟩, .ofList [("a", "b")])]⟩

/-- Surroundings with this file and nothing else. -/
def singleSurroundings : Surroundings where
  reader path := if path = "f" then .ok (singleText.toList.map Char.toNat) else .error .notFound
  environment := []

/-- The markup of the facts in the fixture. -/
def singleMarkup : String :=
  "<ul class=\"md-source__facts\"><li class=\"md-source__fact md-source__fact--a\">b</li></ul>"

private theorem prepared_single (hrefs : List String) :
    Prepared singleSurroundings ⟨none, some "f", hrefs⟩ ⟨none, none, none, none⟩ singleFixture
      Render.standard := by
  have text : Files.readText singleSurroundings.reader "f" = .ok singleText := by cbv
  have members : Fixture.readMembers singleText = .ok [("https://x/", .ofList [("a", "b")])] := by
    cbv
  have read : Fixture.ofFile singleSurroundings.reader "f" = .ok singleFixture := by
    rw [Fixture.ofFile, text]
    simp only [Fixture.ofJson, members]
    cbv
  exact ⟨by cbv, ⟨"f", rfl, read⟩, Render.compile_standardText⟩

private theorem line_single (resolved : Link.resolve none href = .ok ⟨"https://x/"⟩) :
    line singleFixture Render.standard none href =
      href ++ "\t" ++ "done" ++ "\t" ++ singleMarkup ++ "\n" := by
  have held : singleFixture.entries.lookup ⟨"https://x/"⟩ = some (.ofList [("a", "b")]) := by cbv
  have shows : Render.render Render.standard (.ofList [("a", "b")]) = .ok singleMarkup := by
    rw [Render.render_standard]
    exact congrArg Except.ok (by decide +kernel)
  simp only [line, shown?, resolved, held, shows]
  rfl

theorem spellings_listed_alike :
    run singleSurroundings ["-f", "f", "https://x", "y", "https://x/"] =
        ⟨0, "https://x\tdone\t" ++ singleMarkup ++ "\ny\t-\t\nhttps://x/\tdone\t" ++
          singleMarkup ++ "\n1 distinct link(s) requested\n"⟩ ∧
      run singleSurroundings ["y"] = ⟨1, ""⟩ := by
  have first : line singleFixture Render.standard none "https://x" = _ := line_single (by cbv)
  have last : line singleFixture Render.standard none "https://x/" = _ := line_single (by cbv)
  have other : line singleFixture Render.standard none "y" = "y\t-\t\n" := by cbv
  have links : linksOf none ["https://x", "y", "https://x/"] =
      [⟨"https://x/"⟩, ⟨"https://x/"⟩] := by cbv
  have asked : request? ["-f", "f", "https://x", "y", "https://x/"] =
      some (.run ⟨none, some "f", ["https://x", "y", "https://x/"]⟩) := by cbv
  have bare : request? ["y"] = some (.run ⟨none, none, ["y"]⟩) := by cbv
  constructor
  · rw [(run_eq_listing asked).1 _ _ _ (prepared_single _)]
    simp only [listing, List.map_cons, List.map_nil, first, other, last, links]
    decide +kernel
  · refine (run_eq_listing bare).2 ?_
    rintro ⟨configuration, fixture, template, loads, ⟨path, given, -⟩, -⟩
    have loaded : Settings.load singleSurroundings none = .ok ⟨none, none, none, none⟩ :=
      (prepared_single []).loads
    cases loads.symm.trans loaded
    cases given

end Command
end LinkFacts
