import LinkFacts.Render.Order
import LinkFacts.Template.Evaluate

/-!
# Rendering facts

Facts are rendered through a template that sees them as the list `facts`, in display order.
-/

namespace LinkFacts
namespace Render

/-- Where a template fails. -/
inductive Fault where
  /-- The text is no template. -/
  | compile
  /-- The template cannot be rendered. -/
  | render
  deriving DecidableEq, Repr

/-- The wording of a failure of a template. -/
def Fault.message (_ : Fault) : String := "issue with facts template"

/-- Trying again never helps. -/
def Fault.isRetryable (_ : Fault) : Bool := false

/-- The list of facts that templates see. -/
def view (facts : Facts) : List Template.Value :=
  (displayed facts).map fun entry =>
    .map [("key", .text entry.1), ("value", .text entry.2)]

/-- The variables that templates see. -/
def scope (facts : Facts) : Template.Scope := [("facts", .list (view facts))]

/-- Reads a template. -/
def compile (text : String) : Except Fault Template :=
  match Template.ofText? text with
  | some template => .ok template
  | none => .error .compile

/-- The markup of facts. -/
def render (template : Template) (facts : Facts) : Except Fault String :=
  match Template.renderNodes? (scope facts) template.nodes with
  | some markup => .ok markup
  | none => .error .render

/-- The template that is used unless another one is given. -/
def standardText : String :=
  "<ul class=\"md-source__facts\">" ++
    "\x7b% for fact in facts %\x7d" ++
    "<li class=\"md-source__fact md-source__fact--\x7b\x7b fact.key|escape \x7d\x7d\">" ++
    "\x7b\x7b fact.value|compact|escape \x7d\x7d</li>" ++
    "\x7b% endfor %\x7d" ++
    "</ul>"

end Render
end LinkFacts
