import LinkFacts.Component.Dispatch

/-!
# Dispatches fire once

The first thing that is done to a dispatch closes it, whether a value is sent or the dispatch is
closed by hand, and a closed dispatch never changes again.  The effect is taken out before it happens,
so nothing depends on whether it comes to its end.
-/

namespace LinkFacts

/-- What the effect of a recorder answers to the value that it happens with. -/
def Recording.answer (value : Int) : Recording → Dispatched
  | noting => .done
  | panicking => .panicked value

namespace Recorder

/-- What can be done to a recorder. -/
inductive Request where
  | send (value : Int)
  | close
  deriving DecidableEq, Repr

/-- A recorder to which nothing was done; without an effect it is closed from the start. -/
def fresh (effect : Option Recording) : Recorder := ⟨⟨effect⟩, []⟩

/-- Does what is requested; a panic of the effect is caught and leaves the recorder as it is then. -/
def perform (recorder : Recorder) : Request → Recorder
  | .send value => (recorder.send value).2
  | .close => recorder.close

/-- Does what is requested, one after the other. -/
def run (recorder : Recorder) (requests : List Request) : Recorder := requests.foldl perform recorder

variable {recorder : Recorder} {effect : Option Recording} {requests : List Request}

private theorem holdsEffect_eq_not_isClosed (recorder : Recorder) :
    recorder.holdsEffect = !recorder.dispatch.isClosed :=
  (Option.not_isNone recorder.dispatch.effect).symm

private theorem send_of_effect {kind : Recording} (held : recorder.dispatch.effect = some kind)
    (value : Int) :
    recorder.send value = (kind.answer value, ⟨.closed, recorder.seen ++ [value]⟩) := by
  cases kind <;> simp only [send, Dispatch.take, held, Recording.answer]

private theorem send_of_closed (closed : recorder.dispatch = .closed) (value : Int) :
    recorder.send value = (.closed, recorder) := by
  obtain ⟨dispatch, seen⟩ := recorder
  subst closed
  rfl

/-- Whatever is done to a recorder closes it, even if the effect panics. -/
theorem dispatch_perform (recorder : Recorder) (request : Request) :
    (recorder.perform request).dispatch = .closed := by
  cases request with
  | close => rfl
  | send value =>
      cases held : recorder.dispatch.effect with
      | none => simp only [perform, send, Dispatch.take, held]
      | some kind => simp only [perform, send_of_effect held]

private theorem perform_of_closed (closed : recorder.dispatch = .closed) (request : Request) :
    recorder.perform request = recorder := by
  cases request with
  | send value => rw [perform, send_of_closed closed]
  | close => rw [perform, close, Dispatch.close, ← closed]

/-- Nothing ever happens to a closed recorder. -/
theorem run_of_closed (closed : recorder.dispatch = .closed) (requests : List Request) :
    recorder.run requests = recorder := by
  induction requests with
  | nil => rfl
  | cons request requests ih => rw [run, List.foldl_cons, perform_of_closed closed, ← run, ih]

/-- Only the first thing that is done to a recorder changes it. -/
theorem run_cons (recorder : Recorder) (request : Request) (requests : List Request) :
    recorder.run (request :: requests) = recorder.perform request :=
  run_of_closed (dispatch_perform recorder request) requests

/-- What a recorder has come to after some requests, and what it will answer. -/
structure FiresOnce (effect : Option Recording) (requests : List Request) : Prop where
  /-- The effect has happened if there was one and a value came first, and with this value only. -/
  seen : ((fresh effect).run requests).seen =
    match effect, requests with
    | some _, .send value :: _ => [value]
    | _, _ => []
  /-- The first value is answered by the effect, as long as nothing was done before. -/
  first : ∀ kind, effect = some kind → requests = [] → ∀ value,
    ((fresh effect).run requests).send value = (kind.answer value, ⟨.closed, [value]⟩)
  /-- Every other value is refused, and the effect does not happen. -/
  others : effect = none ∨ requests ≠ [] → ∀ value,
    ((fresh effect).run requests).send value = (.closed, (fresh effect).run requests)
  closed : ((fresh effect).run requests).dispatch.isClosed = true ↔ effect = none ∨ requests ≠ []
  stays : ((fresh effect).run requests).dispatch.isClosed = true → ∀ later,
    ((fresh effect).run (requests ++ later)).dispatch.isClosed = true
  held : ((fresh effect).run requests).holdsEffect =
    !((fresh effect).run requests).dispatch.isClosed

/-- A dispatch accepts one value at most: the first one, if it was open and was not closed before.
It is closed from then on, and its effect is gone, even if the effect panicked. -/
theorem fires_once (effect : Option Recording) (requests : List Request) :
    FiresOnce effect requests := by
  have closed : ((fresh effect).run requests).dispatch.isClosed = true ↔
      effect = none ∨ requests ≠ [] := by
    rw [Dispatch.isClosed_iff]
    cases requests with
    | nil => cases effect <;> simp [run, fresh, Dispatch.closed]
    | cons request requests => simp [run_cons, dispatch_perform]
  refine ⟨?_, ?_, ?_, closed, ?_, holdsEffect_eq_not_isClosed _⟩
  · cases requests with
    | nil => cases effect <;> rfl
    | cons request requests =>
        rw [run_cons]
        cases request <;> rcases effect with _ | _ | _ <;> rfl
  · rintro kind rfl rfl value
    exact send_of_effect rfl value
  · exact fun done value => send_of_closed (Dispatch.isClosed_iff.mp (closed.mpr done)) value
  · intro done later
    rw [run, List.foldl_append, ← run, ← run, run_of_closed (Dispatch.isClosed_iff.mp done)]
    exact done

/-- The effect does not come back after it has panicked. -/
example : ((fresh (some .panicking)).run [.send 3, .send 4, .close]).seen = [3] := by decide

end Recorder
end LinkFacts
