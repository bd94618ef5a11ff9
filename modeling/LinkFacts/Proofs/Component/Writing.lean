import LinkFacts.Proofs.Cache.Filing

/-!
# What is written to elements

Whatever is done to a page leaves the links of its elements alone and adds to their histories.
-/

namespace LinkFacts

open Replay (Waker)

namespace Page

variable {page middle after : Page} {requests more : List (Nat × Link)}
  {written others : Nat → List Mutation} {source : Source}

/-- What was written to the element at a place, the oldest first. -/
def history (page : Page) (place : Nat) : List Mutation :=
  ((page.elements[place]?).map (·.anchor.history)).getD []

/-- The link of the element at a place. -/
def link? (page : Page) (place : Nat) : Option Link :=
  (page.elements[place]?).bind fun element => (page.identify element.anchor).toOption

/-- The facts that the cache holds for the link of an element. -/
def source? (page : Page) (place : Nat) : Option Source :=
  (page.link? place).bind fun link =>
    match page.store.entry? cache link with
    | some (.resolved source) => some source
    | _ => none

/-- What facts leave behind that are shown by the element at a place. -/
def writes (page : Page) (place : Nat) (source : Source) : List Mutation :=
  match page.element? place, Render.render page.template source.facts with
  | some _, .ok markup => [.facts markup, .done]
  | _, _ => []

/-- What the facts of its link leave behind that are shown by the element at a place. -/
def block (page : Page) (place : Nat) : List Mutation :=
  ((page.source? place).map (page.writes place)).getD []

/-- Links are requested of the caches, and every element is written to. -/
structure Turns (requests : List (Nat × Link)) (written : Nat → List Mutation)
    (page after : Page) : Prop where
  files : Store.Files requests page.store after.store
  template : after.template = page.template
  size : page.elements.length ≤ after.elements.length
  links : ∀ place, place < page.elements.length → after.link? place = page.link? place
  histories : ∀ place, after.history place = page.history place ++ written place

/-- Nothing is written. -/
def blank (_ : Nat) : List Mutation := []

theorem Turns.refl (page : Page) : Turns [] blank page page where
  files := .refl _
  template := rfl
  size := Nat.le_refl _
  links _ _ := rfl
  histories _ := (List.append_nil _).symm

theorem Turns.trans (first : Turns requests written page middle)
    (second : Turns more others middle after) :
    Turns (requests ++ more) (fun place => written place ++ others place) page after where
  files := first.files.trans second.files
  template := second.template.trans first.template
  size := Nat.le_trans first.size second.size
  links place inside := by
    rw [second.links place (Nat.lt_of_lt_of_le inside first.size), first.links place inside]
  histories place := by rw [second.histories, first.histories, List.append_assoc]

theorem Turns.congr (turns : Turns requests written page after)
    (same : ∀ place, others place = written place) : Turns requests others page after :=
  { turns with histories := fun place => (turns.histories place).trans (by rw [same]) }

theorem Turns.after_blank (first : Turns [] blank page middle)
    (second : Turns requests written middle after) : Turns requests written page after :=
  first.trans second

theorem Turns.then_blank (first : Turns requests written page middle)
    (second : Turns [] blank middle after) : Turns requests written page after := by
  have both := first.trans second
  rw [List.append_nil] at both
  exact both.congr fun place => (List.append_nil _).symm

/-- Only the store changes. -/
theorem turns_store {store : Store} (files : Store.Files requests page.store store) :
    Turns requests blank page { page with store } where
  files := files
  template := rfl
  size := Nat.le_refl _
  links _ _ := rfl
  histories _ := (List.append_nil _).symm

theorem turns_of_caches {store : Store} (same : store.caches = page.store.caches) :
    Turns [] blank page { page with store } :=
  turns_store (Store.files_of_caches same)

/-- The link of an element comes from its target. -/
theorem link?_congr {place : Nat} (base : after.base = page.base)
    (hrefs : (after.elements[place]?).map (·.anchor.href) =
      (page.elements[place]?).map (·.anchor.href)) : after.link? place = page.link? place := by
  have named (page : Page) : page.link? place =
      ((page.elements[place]?).map (·.anchor.href)).bind fun href =>
        (Link.resolve page.base href).toOption := by
    simp only [link?, identify, Option.bind_map, Function.comp_def]
  rw [named, named, hrefs, base]

theorem turns_addElement (page : Page) (href : String) :
    Turns [] blank page (page.addElement href) where
  files := .refl _
  template := rfl
  size := by simp [addElement]
  links place inside := by
    refine link?_congr rfl ?_
    unfold addElement
    rw [List.getElem?_append_left inside]
  histories place := by
    unfold history addElement blank
    rcases Nat.lt_trichotomy place page.elements.length with inside | same | outside
    · rw [List.getElem?_append_left inside, List.append_nil]
    · subst same
      simp [Anchor.ofHref]
    · rw [List.getElem?_eq_none_iff.mpr (Nat.le_of_lt outside),
        List.getElem?_eq_none_iff.mpr (by simp; omega)]
      rfl

section Modify

variable {place : Nat} {change : Element → Element} {news : List Mutation}

/-- An element may be written to or taken away, but it keeps its target. -/
theorem turns_modify (hrefs : ∀ element, (change element).anchor.href = element.anchor.href)
    (histories : ∀ element, page.elements[place]? = some element →
      (change element).anchor.history = element.anchor.history ++ news)
    (missing : page.elements[place]? = none → news = []) :
    Turns [] (fun other => if other = place then news else []) page
      { page with elements := page.elements.modify place change } where
  files := .refl _
  template := rfl
  size := by simp
  links other _ := by
    refine link?_congr rfl ?_
    rw [List.getElem?_modify]
    by_cases same : place = other
    · subst same
      cases page.elements[place]? <;> simp [hrefs]
    · simp [same]
  histories other := by
    unfold history
    rw [List.getElem?_modify]
    by_cases same : place = other
    · subst same
      cases there : page.elements[place]? with
      | none => simp [missing there]
      | some element => simp [histories element there]
    · simp [same, Ne.symm same]

end Modify

theorem turns_removeElement (page : Page) (place : Nat) :
    Turns [] blank page (page.removeElement place) := by
  have removed : Turns [] (fun other => if other = place then [] else []) page
      (page.removeElement place) :=
    turns_modify (fun _ => rfl) (fun _ _ => (List.append_nil _).symm) fun _ => rfl
  exact removed.congr fun other => (ite_self _).symm

/-! ## Showing facts -/

private theorem element?_of_missing {place : Nat} (missing : page.elements[place]? = none) :
    page.element? place = none := by
  simp only [element?, missing]

private theorem turns_log (page : Page) (event : LogEvent) : Turns [] blank page (page.log event) :=
  turns_of_caches rfl

theorem turns_presentFacts (page : Page) (place : Nat) (source : Source) :
    Turns [] (fun other => if other = place then page.writes place source else []) page
      (page.presentFacts place source) := by
  have silent (event : LogEvent) (nothing : page.writes place source = []) :
      Turns [] (fun other => if other = place then page.writes place source else []) page
        (page.log event) :=
    (turns_log page event).congr fun other => by simp [nothing, blank]
  unfold presentFacts
  split
  · next gone => exact silent _ (by simp only [writes, gone])
  · next anchor there =>
    split
    · next markup rendered =>
      have written : page.writes place source = [.facts markup, .done] := by
        simp only [writes, there, rendered]
      rw [written]
      refine turns_modify (fun _ => rfl) (fun element _ => ?_) fun missing => ?_
      · simp [Anchor.present, Anchor.write]
      · cases (element?_of_missing missing).symm.trans there
    · next fault failed => exact silent _ (by simp only [writes, there, failed])

/-- What the facts leave behind does not depend on anything but the entries. -/
theorem block_of_quiet {store later : Store} (quiet : Store.Quiet store later) (place : Nat) :
    { page with store := later }.block place = { page with store }.block place := by
  have entries : later.entry? = store.entry? := by
    unfold Store.entry?
    rw [quiet.phases, quiet.places]
  unfold block source?
  dsimp only
  rw [entries]
  rfl

/-- The facts of an element's link are those of the entry of the link. -/
theorem block_of_resolved {store : Store} {place spot : Nat} {link : Link}
    (named : page.link? place = some link) (placed : store.placeOf? cache link = some spot)
    (found : store.phase? spot = some (.resolved source)) :
    { page with store }.block place = page.writes place source := by
  have kept : ({ page with store } : Page).link? place = some link := named
  have held : ({ page with store } : Page).source? place = some source := by
    unfold source?
    simp only [kept, Option.bind_some, Store.entry?_of_placed placed, found]
  unfold block
  rw [held]
  rfl

end Page
end LinkFacts
