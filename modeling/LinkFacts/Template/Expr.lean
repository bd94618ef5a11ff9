import LinkFacts.Template.Value

/-!
# Parts of templates

Expressions and the nodes of a template.
-/

namespace LinkFacts
namespace Template

/-- Where a member is looked up. -/
inductive Access where
  /-- Under a key of a map. -/
  | key (key : String)
  /-- At a place of a list. -/
  | index (index : Nat)
  deriving DecidableEq, Repr

/-- A step of a path. -/
structure Member where
  /-- A missing member is no error. -/
  lenient : Bool
  /-- Where it is looked up. -/
  access : Access
  deriving DecidableEq, Repr

/-- An expression. -/
inductive Expr where
  /-- A value that is written out. -/
  | literal (value : Value)
  /-- A variable and members of it. -/
  | path (start : Member) (members : List Member)
  /-- A list of expressions. -/
  | list (items : List Expr)
  /-- A map of expressions. -/
  | map (entries : List (String × Expr))
  /-- A call; what is piped into a function is its first argument. -/
  | call (function : String) (arguments : List Expr)
  /-- An expression in parentheses. -/
  | group (inner : Expr)

/-- The variables of a loop. -/
inductive LoopNames where
  /-- The items of a list. -/
  | item (name : String)
  /-- The keys and values of a map. -/
  | entry (key value : String)
  deriving DecidableEq, Repr

/-- A node of a template. -/
inductive Node where
  /-- Text that stands for itself. -/
  | raw (text : String)
  /-- An expression whose value is written. -/
  | emit (expr : Expr)
  /-- Two branches and the condition that chooses between them. -/
  | branch (negated : Bool) (condition : Expr) (yes no : List Node)
  /-- A loop. -/
  | loop (names : LoopNames) (source : Expr) (body : List Node)
  /-- A variable for the length of a body. -/
  | bind (expr : Expr) (name : String) (body : List Node)
  /-- Another template, of which there is none. -/
  | missingTemplate

end Template
end LinkFacts
