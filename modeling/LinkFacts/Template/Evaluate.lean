import LinkFacts.Render.Compact
import LinkFacts.Render.Escape
import LinkFacts.Template.Parser

/-!
# Rendering templates

The value of an expression and the text of a template.  There is one function, `compact`, and one
formatter, `escape`, which may only be the last call of an emitted expression.  What is not known
is an error when it is reached.
-/

namespace LinkFacts
namespace Template

/-- The variables that can be seen, the innermost first. -/
abbrev Scope := List (String × Value)

/-- The member of a value. -/
def member? (value : Value) (member : Member) : Option Value :=
  let found : Option (Option Value) :=
    match value, member.access with
    | .list items, .index index => some items[index]?
    | .map entries, .key key => some (entries.lookup key)
    | .none, _ => if member.lenient then some none else none
    | _, _ => none
  match found with
  | none => none
  | some (some inner) => some inner
  | some none => if member.lenient then some .none else none

/-- The value of a variable. -/
def valueOf? (scope : Scope) (start : Member) : Option Value :=
  match start.access with
  | .index _ => none
  | .key name =>
    match scope.lookup name with
    | some value => some value
    | none => if start.lenient then some .none else none

/-- The value of a path. -/
def path? (scope : Scope) (start : Member) (members : List Member) : Option Value :=
  members.foldlM member? =<< valueOf? scope start

/-- Calls a function. -/
def call? (function : String) (arguments : List Value) : Option Value :=
  match function, arguments with
  | "compact", [.text value] => some (.text (Render.compact value))
  | _, _ => none

mutual

/-- The value of an expression. -/
def eval? (scope : Scope) : Expr → Option Value
  | .literal value => some value
  | .path start members => path? scope start members
  | .list items => (evalAll? scope items).map .list
  | .map entries => (evalEntries? scope entries).map .map
  | .call function arguments => (evalAll? scope arguments).bind (call? function)
  | .group inner => eval? scope inner

/-- The values of expressions. -/
def evalAll? (scope : Scope) : List Expr → Option (List Value)
  | [] => some []
  | expr :: rest =>
    match eval? scope expr, evalAll? scope rest with
    | some value, some values => some (value :: values)
    | _, _ => none

/-- The entries of a map; a later entry replaces an earlier one with its key. -/
def evalEntries? (scope : Scope) : List (String × Expr) → Option (List (String × Value))
  | [] => some []
  | (key, expr) :: rest =>
    match eval? scope expr, evalEntries? scope rest with
    | some value, some entries =>
      some (if (entries.lookup key).isSome then entries else insertEntry key value entries)
    | _, _ => none

end

/-- The text of a value that the formatter for markup writes. -/
def escapeValue? : Value → Option String
  | .text value => some (Render.escape value)
  | other => other.write?

/-- The text of an emitted expression. -/
def emit? (scope : Scope) (expr : Expr) : Option String :=
  match expr with
  | .call "escape" [argument] => (eval? scope argument).bind escapeValue?
  | other => (eval? scope other).bind Value.write?

/-- What a loop knows about itself in its turn. -/
def loopState (index count : Nat) : Value :=
  .map [("first", .flag (index == 0)), ("index", .integer index),
    ("last", .flag (index + 1 == count))]

/-- The variables of each turn of a loop. -/
def turns? (names : LoopNames) (source : Value) : Option (List Scope) :=
  match names, source with
  | .item name, .list items =>
    some (items.zipIdx.map fun item =>
      [("loop", loopState item.2 items.length), (name, item.1)])
  | .entry key value, .map entries =>
    some (entries.zipIdx.map fun entry =>
      [("loop", loopState entry.2 entries.length), (key, .text entry.1.1), (value, entry.1.2)])
  | _, _ => none

/-- Joins texts, of which none may be missing. -/
def joinTexts (texts : List (Option String)) : Option String :=
  texts.foldr (fun text rest => text.bind fun first => rest.map (first ++ ·)) (some "")

mutual

/-- The text of a node. -/
def renderNode? (scope : Scope) : Node → Option String
  | .raw text => some text
  | .emit expr => emit? scope expr
  | .branch negated condition yes no =>
    match eval? scope condition with
    | none => none
    | some value =>
      if value.isTruthy != negated then renderNodes? scope yes else renderNodes? scope no
  | .loop names source body =>
    match (eval? scope source).bind (turns? names) with
    | none => none
    | some turns => joinTexts (turns.map fun turn => renderNodes? (turn ++ scope) body)
  | .bind expr name body =>
    match eval? scope expr with
    | none => none
    | some value => renderNodes? ((name, value) :: scope) body
  | .missingTemplate => none

/-- The text of nodes. -/
def renderNodes? (scope : Scope) : List Node → Option String
  | [] => some ""
  | node :: rest =>
    match renderNode? scope node, renderNodes? scope rest with
    | some first, some more => some (first ++ more)
    | _, _ => none

end

end Template
end LinkFacts
