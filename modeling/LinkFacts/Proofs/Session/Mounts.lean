import LinkFacts.Proofs.Session.Fetching
import LinkFacts.Proofs.Session.Turns

/-!
# What mounts do to their elements

In a session the history of an element consists of what its mounts gave while it was there.  A mount
waits, gives one component or none, and then has ended for good.
-/

namespace LinkFacts

open Replay (Waker)
open Naming (lookup_put)

/-- An answer tells what a poll of a subscription gives. -/
inductive SessionAnswer.Shows : SessionAnswer → Poll Source → Prop
  | pending : Shows .pending .pending
  | ended : Shows .ended .ended
  | item {view : ComponentView} {source : Source} (same : view.facts = source.facts) :
    Shows (.componentItem view) (.item source)

/-- An answer tells what a subscription gives that is polled to its end. -/
inductive SessionAnswer.Collects : SessionAnswer → Poll Source → Prop
  | pending : Collects .pending .pending
  | ended : Collects (.components []) .ended
  | item {view : ComponentView} {source : Source} (same : view.facts = source.facts) :
    Collects (.components [view]) (.item source)

/-- What the polls of a mount answer from the start, and whether the mount is closed then: it waits
as long as it is open, and after a component or the end there are only ends. -/
inductive Course : List SessionAnswer → Bool → Prop
  | unpolled : Course [] false
  | waits {answers : List SessionAnswer} {closed : Bool} (rest : Course answers closed) :
    Course (.pending :: answers) closed
  | gives (view : ComponentView) {answers : List SessionAnswer}
    (finished : ∀ answer ∈ answers, answer = .ended) : Course (.componentItem view :: answers) true
  | ends {answers : List SessionAnswer} (finished : ∀ answer ∈ answers, answer = .ended) :
    Course (.ended :: answers) true

/-- An operation polls the mount with a name. -/
def SessionOperation.pollsMount (name : String) : SessionOperation → Bool
  | pollMount other _ => other == name
  | _ => false

namespace Session

variable {session first : Session} {operation : SessionOperation}
  {operations : List SessionOperation} {setup : SessionSetup} {name : String} {mount : Mount}

/-- What operations write to the element at a place, in order. -/
def blocks (place : Nat) (session : Session) : List SessionOperation → List Mutation
  | [] => []
  | operation :: rest =>
    session.written operation place ++ blocks place (session.perform operation).2 rest

/-- An operation neither drops the mount with a name nor puts another one in its place. -/
def keeps (session : Session) (name : String) : SessionOperation → Bool
  | .mount other anchor => other != name || (session.anchor? anchor).isNone
  | .collectMount other | .dropMount other => other != name
  | _ => true

/-- Operations leave the mount with a name where it is. -/
def keepsAll (name : String) (session : Session) : List SessionOperation → Bool
  | [] => true
  | operation :: rest =>
    session.keeps name operation && keepsAll name (session.perform operation).2 rest

/-- The answers to the polls of the mount with a name, in order. -/
def outcomes (name : String) (session : Session) : List SessionOperation → List SessionAnswer
  | [] => []
  | operation :: rest =>
    let performed := session.perform operation
    (if operation.pollsMount name then [performed.1] else []) ++ outcomes name performed.2 rest

/-- Whether the mount with a name is closed. -/
def closed? (session : Session) (name : String) : Option Bool :=
  (session.mounts.lookup name).map (·.dispatch.isClosed)

/-! ## Histories -/

private theorem fitted_run (sound : session.Sound) (fitted : session.Fitted)
    (operations : List SessionOperation) : (session.run operations).Fitted := by
  induction operations generalizing session with
  | nil => exact fitted
  | cons operation rest ih =>
      exact ih ((follows_perform sound operation).sound sound)
        (fitted_perform sound fitted operation)

private theorem history_run (sound : session.Sound) (fitted : session.Fitted)
    (operations : List SessionOperation) (place : Nat) :
    (session.run operations).page.history place =
      session.page.history place ++ session.blocks place operations := by
  induction operations generalizing session with
  | nil => exact (List.append_nil _).symm
  | cons operation rest ih =>
      have turned := (turns_perform sound fitted operation).histories place
      have later := ih ((follows_perform sound operation).sound sound)
        (fitted_perform sound fitted operation)
      rw [turned, List.append_assoc] at later
      exact later

/-! ## The life of a mount -/

private theorem kept_perform (kept : session.keeps name operation = true)
    (other : operation.pollsMount name = false) (found : session.mounts.lookup name = some mount) :
    (session.perform operation).2.mounts.lookup name = some mount := by
  cases touches : operation.mounts with
  | false => rw [mounts_perform_of_ne touches, found]
  | true =>
      cases operation with
      | mount key anchor =>
          cases named : session.anchors.lookup anchor with
          | none =>
              simp only [perform, Session.mount, withElement, named]
              exact found
          | some place =>
              cases there : session.page.element? place with
              | none =>
                  simp only [perform, Session.mount, withElement, named, there]
                  exact found
              | some element =>
                  have different : name ≠ key := fun same => by
                    simp [keeps, anchor?, named, there, same] at kept
                  simp only [perform, Session.mount, withElement, named, there, lookup_put,
                    lookup_dropMount, if_neg different]
                  exact found
      | pollMount key waker =>
          have different : name ≠ key := fun same => by
            simp [SessionOperation.pollsMount, same] at other
          cases named : session.mounts.lookup key with
          | none =>
              simp only [perform, pollMount, withMount, named]
              exact found
          | some earlier =>
              simp only [perform, mounts_pollMount named, lookup_put, if_neg different]
              exact found
      | collectMount key =>
          have different : name ≠ key := fun same => by simp [keeps, same] at kept
          simp only [perform, lookup_collectMount, if_neg different]
          exact found
      | dropMount key =>
          have different : name ≠ key := fun same => by simp [keeps, same] at kept
          simp only [perform, lookup_dropMount, if_neg different]
          exact found
      | _ => cases touches

/-- A poll of a mount answers what a poll of its subscription gives. -/
theorem shows_pollMount (found : session.mounts.lookup name = some mount) (waker : Waker) :
    (session.perform (.pollMount name waker)).1.Shows
      (session.page.store.poll mount.watch waker).1 := by
  have given := Page.fst_poll session.page mount waker
  simp only [perform, pollMount, withMount, found]
  rw [given]
  cases (session.page.store.poll mount.watch waker).1 with
  | pending => exact .pending
  | item source => exact .item rfl
  | ended => exact .ended

theorem collects_collectMount (sound : session.Sound)
    (found : session.mounts.lookup name = some mount) :
    (session.perform (.collectMount name)).1.Collects
      (session.page.store.poll mount.watch .silent).1 := by
  have given := Page.fst_poll session.page mount .silent
  have collected := Page.collect_eq (sound.mounts name mount found) (sound.calm _)
  simp only [perform, collectMount, withMount, found, collected]
  rw [given]
  cases (session.page.store.poll mount.watch .silent).1 with
  | pending => exact .pending
  | item source => exact .item rfl
  | ended => exact .ended

private theorem lookup_pollMount (found : session.mounts.lookup name = some mount) (waker : Waker) :
    (session.perform (.pollMount name waker)).2.mounts.lookup name =
      some (session.page.poll mount waker).2.1 := by
  simp only [perform, mounts_pollMount found, lookup_put, if_pos]

private theorem pollsMount_iff : operation.pollsMount name = true ↔
    ∃ waker, operation = .pollMount name waker := by
  cases operation <;> simp [SessionOperation.pollsMount]

private theorem outcomes_pollMount (session : Session) (name : String) (waker : Waker)
    (rest : List SessionOperation) : session.outcomes name (.pollMount name waker :: rest) =
      (session.perform (.pollMount name waker)).1 ::
        (session.perform (.pollMount name waker)).2.outcomes name rest := by
  simp [outcomes, SessionOperation.pollsMount]

private theorem answers_ended {waker : Waker} (found : session.mounts.lookup name = some mount)
    (ended : (session.page.poll mount waker).1 = .ended) :
    (session.perform (.pollMount name waker)).1 = .ended := by
  simp only [perform, pollMount, withMount, found, ended]

/-- A mount that is closed has ended. -/
theorem outcomes_of_closed (sound : session.Sound) (fitted : session.Fitted)
    (found : session.mounts.lookup name = some mount) (closed : mount.dispatch = .closed)
    (operations : List SessionOperation) (kept : session.keepsAll name operations = true) :
    (∀ answer ∈ session.outcomes name operations, answer = .ended) ∧
      (session.run operations).closed? name = some true := by
  induction operations generalizing session mount with
  | nil =>
      refine ⟨by simp [outcomes], ?_⟩
      simp [run, closed?, found, closed, Dispatch.isClosed, Dispatch.closed]
  | cons operation rest ih =>
      obtain ⟨keeps, keepsRest⟩ := Bool.and_eq_true_iff.mp kept
      have soundAfter := (follows_perform sound operation).sound sound
      have fittedAfter := fitted_perform sound fitted operation
      cases polls : operation.pollsMount name with
      | false =>
          have still := kept_perform keeps polls found
          have later := ih soundAfter fittedAfter still closed keepsRest
          simp only [outcomes, polls, Bool.false_eq_true, if_false, List.nil_append]
          exact later
      | true =>
          obtain ⟨waker, rfl⟩ := pollsMount_iff.mp polls
          obtain ⟨ended, stays, -⟩ := (fitted name mount found).poll_of_closed closed waker
          obtain ⟨ends, shut⟩ :=
            ih soundAfter fittedAfter (lookup_pollMount found waker) stays keepsRest
          refine ⟨fun answer there => ?_, shut⟩
          rw [outcomes_pollMount, List.mem_cons] at there
          obtain rfl | later := there
          · exact answers_ended found ended
          · exact ends answer later

/-- An open mount waits until it gives a component or ends, and is closed then. -/
theorem course_run (sound : session.Sound) (fitted : session.Fitted)
    (found : session.mounts.lookup name = some mount) (opened : mount.dispatch.isClosed = false)
    (operations : List SessionOperation) (kept : session.keepsAll name operations = true) :
    ∃ closed, (session.run operations).closed? name = some closed ∧
      Course (session.outcomes name operations) closed := by
  induction operations generalizing session mount with
  | nil =>
      refine ⟨false, ?_, .unpolled⟩
      simp [run, closed?, found, opened]
  | cons operation rest ih =>
      obtain ⟨keeps, keepsRest⟩ := Bool.and_eq_true_iff.mp kept
      have soundAfter := (follows_perform sound operation).sound sound
      have fittedAfter := fitted_perform sound fitted operation
      cases polls : operation.pollsMount name with
      | false =>
          have still := kept_perform keeps polls found
          simp only [outcomes, polls, Bool.false_eq_true, if_false, List.nil_append]
          exact ih soundAfter fittedAfter still opened keepsRest
      | true =>
          obtain ⟨waker, rfl⟩ := pollsMount_iff.mp polls
          have next := lookup_pollMount found waker
          have dispatch := Page.dispatch_poll session.page mount waker
          have shown := shows_pollMount found waker
          rw [outcomes_pollMount]
          generalize (session.perform (.pollMount name waker)).1 = answer at shown ⊢
          cases given : (session.page.store.poll mount.watch waker).1 with
          | pending =>
              rw [given] at dispatch shown
              cases shown
              obtain ⟨closed, now, course⟩ := ih soundAfter fittedAfter next
                (dispatch ▸ opened) keepsRest
              exact ⟨closed, now, .waits course⟩
          | item source =>
              rw [given] at dispatch shown
              obtain ⟨ends, shut⟩ :=
                outcomes_of_closed soundAfter fittedAfter next dispatch rest keepsRest
              cases shown
              exact ⟨true, shut, .gives _ ends⟩
          | ended =>
              rw [given] at dispatch shown
              obtain ⟨ends, shut⟩ :=
                outcomes_of_closed soundAfter fittedAfter next dispatch rest keepsRest
              cases shown
              exact ⟨true, shut, .ends ends⟩

/-! ## From the start of a session -/

private theorem lookup_mount {anchor : String} {place : Nat} {element : Anchor}
    (named : session.anchors.lookup anchor = some place)
    (there : session.page.element? place = some element) (name : String) :
    (session.perform (.mount name anchor)).2.mounts.lookup name =
      some (session.page.mount place element).1 := by
  simp only [perform, Session.mount, withElement, named, there, lookup_put, if_pos]

/-- What is true of the mounts of a session after some operations. -/
structure Presents (first : Session) (operations : List SessionOperation) : Prop where
  /-- The history of an element consists of what its mounts gave while it was there. -/
  histories : ∀ place, (first.run operations).page.history place = first.blocks place operations
  /-- A mount subscribes to the entry of its element's link; without a link it is closed. -/
  bound : ∀ name mount, (first.run operations).mounts.lookup name = some mount →
    (∃ link, (first.run operations).page.link? mount.element = some link ∧
        (first.run operations).page.store.placeOf? Page.cache link = some mount.watch.place) ∨
      ((first.run operations).page.link? mount.element = none ∧ mount.dispatch.isClosed = true)
  /-- A poll of a mount gives what a poll of its subscription gives, ... -/
  polled : ∀ name mount waker, (first.run operations).mounts.lookup name = some mount →
    ((first.run operations).perform (.pollMount name waker)).1.Shows
      ((first.run operations).page.store.poll mount.watch waker).1
  /-- ... and so does a mount that is polled to its end. -/
  collected : ∀ name mount, (first.run operations).mounts.lookup name = some mount →
    ((first.run operations).perform (.collectMount name)).1.Collects
      ((first.run operations).page.store.poll mount.watch .silent).1
  /-- A component is given even if the element is gone or the facts cannot be rendered. -/
  unshown : ∀ name mount waker source, (first.run operations).mounts.lookup name = some mount →
    ((first.run operations).page.store.poll mount.watch waker).1 = .item source →
    ((first.run operations).page.element? mount.element = none ∨
      ∃ fault, Render.render (first.run operations).page.template source.facts = .error fault) →
    (∃ view, ((first.run operations).perform (.pollMount name waker)).1 = .componentItem view ∧
        view.facts = source.facts) ∧
      ((first.run operations).perform (.pollMount name waker)).2.page.elements =
        (first.run operations).page.elements
  /-- A closed mount has ended: it writes nothing, and asks for nothing. -/
  silent : ∀ name mount waker, (first.run operations).mounts.lookup name = some mount →
    mount.dispatch.isClosed = true →
    let polled := (first.run operations).perform (.pollMount name waker)
    polled.1 = .ended ∧ polled.2.page.elements = (first.run operations).page.elements ∧
      polled.2.page.store.caches = (first.run operations).page.store.caches ∧
      polled.2.page.store.provider = (first.run operations).page.store.provider ∧
      polled.2.page.store.fetched = (first.run operations).page.store.fetched
  /-- A mount of a link waits until it gives a component or ends, and is closed by that. -/
  course : ∀ earlier name anchor place element link later,
    operations = earlier ++ .mount name anchor :: later →
    (first.run earlier).anchors.lookup anchor = some place →
    (first.run earlier).page.element? place = some element →
    (first.run earlier).page.identify element = .ok link →
    (first.run (earlier ++ [.mount name anchor])).keepsAll name later = true →
      ∃ closed, (first.run operations).closed? name = some closed ∧
        Course ((first.run (earlier ++ [.mount name anchor])).outcomes name later) closed
  /-- A mount without a link asks for nothing, is closed from the start, and has ended. -/
  unresolved : ∀ earlier name anchor place element fault later,
    operations = earlier ++ .mount name anchor :: later →
    (first.run earlier).anchors.lookup anchor = some place →
    (first.run earlier).page.element? place = some element →
    (first.run earlier).page.identify element = .error fault →
    let mounted := first.run (earlier ++ [.mount name anchor])
    mounted.page.store.caches = (first.run earlier).page.store.caches ∧
      mounted.page.store.provider = (first.run earlier).page.store.provider ∧
      mounted.page.store.fetched = (first.run earlier).page.store.fetched ∧
      (mounted.keepsAll name later = true →
        (∀ answer ∈ mounted.outcomes name later, answer = .ended) ∧
          (first.run operations).closed? name = some true)

private theorem run_append_cons (first : Session) (earlier later : List SessionOperation)
    (operation : SessionOperation) : first.run (earlier ++ operation :: later) =
      (first.run (earlier ++ [operation])).run later := by
  rw [List.append_cons, run_append]

theorem run_concat (first : Session) (earlier : List SessionOperation)
    (operation : SessionOperation) :
    first.run (earlier ++ [operation]) = ((first.run earlier).perform operation).2 := by
  rw [run_append]
  rfl

theorem fitted_start (started : start setup = .ok first) :
    first.Fitted ∧ ∀ place, first.page.history place = [] := by
  obtain ⟨provider, gates, base, template, -, rfl⟩ := start_cases started
  exact ⟨nofun, fun _ => rfl⟩

/-- A mount that is dropped asks for nothing. -/
theorem store_dropMount (session : Session) (name : String) :
    (session.dropMount name).page.store.caches = session.page.store.caches ∧
      (session.dropMount name).page.store.provider = session.page.store.provider ∧
      (session.dropMount name).page.store.fetched = session.page.store.fetched := by
  unfold dropMount
  split <;> exact ⟨rfl, rfl, rfl⟩

/-- A mount without a link asks for nothing and is closed. -/
theorem mount_unresolved {anchor : String} {place : Nat} {element : Anchor} {fault : Link.Fault}
    (named : session.anchors.lookup anchor = some place)
    (there : session.page.element? place = some element)
    (identified : session.page.identify element = .error fault) (name : String) :
    let mounted := (session.perform (.mount name anchor)).2
    mounted.page.store.caches = session.page.store.caches ∧
      mounted.page.store.provider = session.page.store.provider ∧
      mounted.page.store.fetched = session.page.store.fetched ∧
      ∃ mount, mounted.mounts.lookup name = some mount ∧ mount.dispatch = .closed := by
  have page : (session.perform (.mount name anchor)).2.page =
      ({ session with page := (session.page.mountNothing place).2 }.dropMount name).page := by
    rw [← Page.mount_of_error identified]
    exact page_mount named there
  have found := lookup_mount named there name
  rw [Page.mount_of_error identified] at found
  obtain ⟨caches, provider, fetched⟩ :=
    store_dropMount { session with page := (session.page.mountNothing place).2 } name
  obtain ⟨same, kept, unasked⟩ := Page.mountNothing_spec session.page place
  dsimp only
  rw [page]
  exact ⟨caches.trans same, provider.trans kept, fetched.trans unasked, _, found, rfl⟩

/-- The histories of elements are what mounts gave that were polled while the elements were there,
and each mount gives one component at most. -/
theorem presents (started : start setup = .ok first) (operations : List SessionOperation) :
    Presents first operations := by
  obtain ⟨soundStart, -⟩ := spec_start started ⟨""⟩
  obtain ⟨fittedStart, unwritten⟩ := fitted_start started
  have sound := soundStart.run operations
  have fitted := fitted_run soundStart fittedStart operations
  refine ⟨?_, ?_, ?_, ?_, ?_, ?_, ?_, ?_⟩
  · intro place
    rw [history_run soundStart fittedStart, unwritten, List.nil_append]
  · intro name mount found
    cases fitted name mount found with
    | bound named placed => exact .inl ⟨_, named, placed⟩
    | loose inside unnamed finished closed => exact .inr ⟨unnamed, Dispatch.isClosed_iff.mpr closed⟩
  · intro name mount waker found
    exact shows_pollMount found waker
  · intro name mount found
    exact collects_collectMount sound found
  · intro name mount waker source found item unshown
    obtain ⟨fits, holds, calm⟩ := mount_ready sound fitted found
    obtain ⟨link, -, -, opened⟩ := fits.of_item holds calm item
    have shown := shows_pollMount found waker
    simp only [perform, (pollMount_of_found found waker).1, Page.poll_of_item opened item]
      at shown ⊢
    refine ⟨?_, Page.elements_presentFacts unshown⟩
    rw [item] at shown
    generalize ((first.run operations).pollMount name waker).1 = answer at shown ⊢
    cases shown with
    | item same => exact ⟨_, rfl, same⟩
  · intro name mount waker found closed
    obtain ⟨ended, -, elements, caches, provider, fetched⟩ :=
      (fitted name mount found).poll_of_closed (Dispatch.isClosed_iff.mp closed) waker
    have answered := answers_ended found ended
    simp only [perform, (pollMount_of_found found waker).1] at answered ⊢
    exact ⟨answered, elements, caches, provider, fetched⟩
  · rintro earlier name anchor place element link later rfl named there identified kept
    have found := lookup_mount named there name
    rw [← run_concat] at found
    have opened : ((first.run earlier).page.mount place element).1.dispatch.isClosed = false := by
      simp only [Page.mount, identified]
      rfl
    rw [run_append_cons first earlier later]
    exact course_run (soundStart.run _) (fitted_run soundStart fittedStart _) found opened later
      kept
  · rintro earlier name anchor place element fault later rfl named there identified
    obtain ⟨caches, provider, fetched, mount, found, closed⟩ :=
      mount_unresolved named there identified name
    rw [← run_concat] at caches provider fetched found
    refine ⟨caches, provider, fetched, fun kept => ?_⟩
    rw [run_append_cons first earlier later]
    exact outcomes_of_closed (soundStart.run _) (fitted_run soundStart fittedStart _) found closed
      later kept

/-- A provider that answers the first poll with facts. -/
def promptSetup : SessionSetup :=
  ⟨.oracle "prompt" fun _ => some (.ok (Facts.ofList [("stars", "5")])), none, some "x", none⟩

/-- The session that starts with this provider. -/
def promptSession : Session :=
  ⟨⟨.start (.oracle ⟨"prompt", fun _ => some (.ok (Facts.ofList [("stars", "5")])), 0⟩) none, [],
      ⟨[.raw "x"]⟩, none⟩, [(firstCache, Page.cache)], [], [], [], [], []⟩

/-- Two mounts of one element, one of which is polled once more. -/
def mountedTwice : List SessionOperation :=
  [.addAnchor "a" "https://x/", .mount "m" "a", .mount "n" "a", .pollMount "m" .silent,
    .pollMount "m" .silent, .collectMount "n"]

theorem mounts_present_once_each :
    start promptSetup = .ok promptSession ∧ Presents promptSession mountedTwice ∧
      (promptSession.run mountedTwice).page.history 0 =
        [.facts "x", .done, .facts "x", .done] := by
  have started : start promptSetup = .ok promptSession := by cbv
  have shown : (promptSession.run mountedTwice).page.history 0 =
      [.facts "x", .done, .facts "x", .done] := by cbv
  exact ⟨started, presents started mountedTwice, shown⟩

end Session
end LinkFacts
