/-!
# Effects that happen once

A dispatch holds an effect until the first value arrives or until it is closed; after that it
refuses every value.  A recorder is a dispatch whose effect notes the value, and may then panic.
-/

namespace LinkFacts

/-- An effect that can be taken out once. -/
structure Dispatch (Effect : Type) where
  /-- The effect, as long as the dispatch is open. -/
  effect : Option Effect

namespace Dispatch

variable {Effect : Type}

/-- A dispatch that refuses every value. -/
def closed : Dispatch Effect := ⟨none⟩

/-- The effect is gone. -/
def isClosed (dispatch : Dispatch Effect) : Bool := dispatch.effect.isNone

theorem isClosed_iff {dispatch : Dispatch Effect} :
    dispatch.isClosed = true ↔ dispatch = .closed := by
  obtain ⟨effect⟩ := dispatch
  simp [isClosed, closed]

/-- Lets go of the effect without using it. -/
def close (_ : Dispatch Effect) : Dispatch Effect := closed

/-- Takes the effect out for the first value. -/
def take (dispatch : Dispatch Effect) : Option Effect × Dispatch Effect := (dispatch.effect, closed)

/-- A description for debugging. -/
def describe (dispatch : Dispatch Effect) : String :=
  "Dispatch \x7b closed: " ++ (if dispatch.isClosed then "true" else "false") ++ " \x7d"

end Dispatch

/-- What becomes of a value that is dispatched. -/
inductive Dispatched where
  /-- The effect has happened. -/
  | done
  /-- The dispatch refused the value. -/
  | closed
  /-- The effect has happened and then panicked with the value. -/
  | panicked (value : Int)
  deriving DecidableEq, Repr

/-- The effect of a recorder. -/
inductive Recording where
  /-- It notes the value. -/
  | noting
  /-- It notes the value and then panics. -/
  | panicking
  deriving DecidableEq, Repr

/-- A dispatch whose effect notes its value. -/
structure Recorder where
  /-- The dispatch. -/
  dispatch : Dispatch Recording
  /-- The values that were noted. -/
  seen : List Int

namespace Recorder

/-- Dispatches a value. -/
def send (recorder : Recorder) (value : Int) : Dispatched × Recorder :=
  let taken := recorder.dispatch.take
  match taken.1 with
  | some .noting => (.done, ⟨taken.2, recorder.seen ++ [value]⟩)
  | some .panicking => (.panicked value, ⟨taken.2, recorder.seen ++ [value]⟩)
  | none => (.closed, ⟨taken.2, recorder.seen⟩)

/-- Closes the dispatch. -/
def close (recorder : Recorder) : Recorder := { recorder with dispatch := recorder.dispatch.close }

/-- The dispatch still holds its effect. -/
def holdsEffect (recorder : Recorder) : Bool := recorder.dispatch.effect.isSome

end Recorder

/-- The wording of a refusal. -/
def Dispatch.closedMessage : String := "dispatch closed"

/-- The wording of a panic of an effect. -/
def Recording.panicMessage (value : Int) : String := "callback " ++ toString value

end LinkFacts
