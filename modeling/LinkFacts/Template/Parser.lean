import LinkFacts.Template.Expr
import LinkFacts.Template.Token

/-!
# Reading templates

Expressions are operands with functions piped behind them.  Statements nest: a condition, a loop and
a binding reach up to the statement that ends them.  Every reader takes a bound on the depth of the
nesting, for which the number of tokens suffices.
-/

namespace LinkFacts
namespace Template

/-- The members of a path. -/
def readMembers : List Token → List Member × List Token
  | .dot :: .name name :: rest =>
    let more := readMembers rest
    (⟨false, .key name⟩ :: more.1, more.2)
  | .dot :: .index index :: rest =>
    let more := readMembers rest
    (⟨false, .index index⟩ :: more.1, more.2)
  | .optionalDot :: .name name :: rest =>
    let more := readMembers rest
    (⟨true, .key name⟩ :: more.1, more.2)
  | .optionalDot :: .index index :: rest =>
    let more := readMembers rest
    (⟨true, .index index⟩ :: more.1, more.2)
  | rest => ([], rest)

/-- A path that starts with a dot. -/
def readDotted? (tokens : List Token) : Option (Expr × List Token) :=
  match readMembers tokens with
  | (start :: members, rest) => some (.path start members, rest)
  | ([], _) => none

/-- A number after its sign. -/
def readSigned? (negative : Bool) : List Token → Option (Expr × List Token)
  | .number digits :: rest =>
    (readNumber? negative digits).map fun value => (.literal value, rest)
  | _ => none

mutual

/-- Reads an expression. -/
def readExpr? : Nat → List Token → Option (Expr × List Token)
  | 0, _ => none
  | depth + 1, tokens =>
    match readOperand? depth tokens with
    | some (operand, rest) => readPipes? depth operand rest
    | none => none

/-- Reads an expression up to the first pipe. -/
def readOperand? : Nat → List Token → Option (Expr × List Token)
  | 0, _ => none
  | depth + 1, tokens =>
    match tokens with
    | .plus :: rest => readSigned? false rest
    | .minus :: rest => readSigned? true rest
    | .number digits :: rest => readSigned? false (.number digits :: rest)
    | .text value :: rest => some (.literal (.text (String.ofList value)), rest)
    | .keyword .trueWord :: rest => some (.literal (.flag true), rest)
    | .keyword .falseWord :: rest => some (.literal (.flag false), rest)
    | .openBracket :: rest =>
      (readItems? depth rest).map fun read => (.list read.1, read.2)
    | .openBrace :: rest =>
      (readEntries? depth rest).map fun read => (.map read.1, read.2)
    | .openParen :: rest =>
      match readExpr? depth rest with
      | some (inner, .closeParen :: after) => some (.group inner, after)
      | _ => none
    | .name name :: .openParen :: rest =>
      (readArguments? depth rest).map fun read => (.call name read.1, read.2)
    | .name name :: rest =>
      let members := readMembers rest
      some (.path ⟨false, .key name⟩ members.1, members.2)
    | .dot :: _ => readDotted? tokens
    | .optionalDot :: _ => readDotted? tokens
    | _ => none

/-- Reads the functions that an expression is piped into. -/
def readPipes? : Nat → Expr → List Token → Option (Expr × List Token)
  | 0, _, _ => none
  | depth + 1, expr, tokens =>
    match tokens with
    | .pipe :: .name name :: .colon :: rest =>
      match readOperands? depth rest with
      | some (arguments, after) => readPipes? depth (.call name (expr :: arguments)) after
      | none => none
    | .pipe :: .name name :: .openParen :: rest =>
      match readArguments? depth rest with
      | some (arguments, after) => readPipes? depth (.call name (expr :: arguments)) after
      | none => none
    | .pipe :: .name name :: rest => readPipes? depth (.call name [expr]) rest
    | .pipe :: _ => none
    | _ => some (expr, tokens)

/-- Reads operands with commas between them. -/
def readOperands? : Nat → List Token → Option (List Expr × List Token)
  | 0, _ => none
  | depth + 1, tokens =>
    match readOperand? depth tokens with
    | some (operand, .comma :: rest) =>
      (readOperands? depth rest).map fun read => (operand :: read.1, read.2)
    | some (operand, rest) => some ([operand], rest)
    | none => none

/-- Reads the arguments of a call up to its closing parenthesis. -/
def readArguments? : Nat → List Token → Option (List Expr × List Token)
  | 0, _ => none
  | depth + 1, tokens =>
    match tokens with
    | .closeParen :: rest => some ([], rest)
    | _ =>
      match readExpr? depth tokens with
      | some (argument, .comma :: rest) =>
        (readArguments? depth rest).map fun read => (argument :: read.1, read.2)
      | some (argument, .closeParen :: rest) => some ([argument], rest)
      | _ => none

/-- Reads what a list or a map may hold: truth values stand for themselves only. -/
def readContained? : Nat → List Token → Option (Expr × List Token)
  | 0, _ => none
  | depth + 1, tokens =>
    match tokens with
    | .keyword _ :: _ => none
    | _ => readOperand? depth tokens

/-- Reads the items of a list up to its closing bracket. -/
def readItems? : Nat → List Token → Option (List Expr × List Token)
  | 0, _ => none
  | depth + 1, tokens =>
    match tokens with
    | .closeBracket :: rest => some ([], rest)
    | _ =>
      match readContained? depth tokens with
      | some (item, .comma :: rest) =>
        (readItems? depth rest).map fun read => (item :: read.1, read.2)
      | some (item, .closeBracket :: rest) => some ([item], rest)
      | _ => none

/-- Reads the entries of a map up to its closing brace. -/
def readEntries? : Nat → List Token → Option (List (String × Expr) × List Token)
  | 0, _ => none
  | depth + 1, tokens =>
    match tokens with
    | .closeBrace :: rest => some ([], rest)
    | .text key :: .colon :: after =>
      match readContained? depth after with
      | some (value, .comma :: rest) =>
        (readEntries? depth rest).map fun read => ((String.ofList key, value) :: read.1, read.2)
      | some (value, .closeBrace :: rest) => some ([(String.ofList key, value)], rest)
      | _ => none
    | _ => none

end

/-- Reads the condition of a branch up to the end of its statement. -/
def readCondition? (depth : Nat) (tokens : List Token) : Option ((Bool × Expr) × List Token) :=
  let negated :=
    match tokens with
    | .keyword .notWord :: _ => true
    | _ => false
  match readExpr? depth (if negated then tokens.drop 1 else tokens) with
  | some (condition, .tag .endBlock :: rest) => some ((negated, condition), rest)
  | _ => none

/-- Reads the variables of a loop. -/
def readLoopNames? : List Token → Option (LoopNames × List Token)
  | .name key :: .comma :: .name value :: .keyword .inWord :: rest => some (.entry key value, rest)
  | .name name :: .keyword .inWord :: rest => some (.item name, rest)
  | _ => none

mutual

/-- Reads nodes up to the end or up to a statement that ends or divides a body. -/
def readNodes? : Nat → List Token → Option (List Node × List Token)
  | 0, _ => none
  | depth + 1, tokens =>
    match tokens with
    | .raw text :: rest =>
      (readNodes? depth rest).map fun read => (.raw (String.ofList text) :: read.1, read.2)
    | .tag .beginEmit :: rest =>
      match readExpr? depth rest with
      | some (expr, .tag .endEmit :: after) =>
        (readNodes? depth after).map fun read => (.emit expr :: read.1, read.2)
      | _ => none
    | .tag .beginBlock :: .keyword .ifWord :: rest =>
      match readBranch? depth rest with
      | some (node, after) => (readNodes? depth after).map fun read => (node :: read.1, read.2)
      | none => none
    | .tag .beginBlock :: .keyword .forWord :: rest =>
      match readLoopNames? rest with
      | none => none
      | some (names, rest') =>
        match readExpr? depth rest' with
        | some (source, .tag .endBlock :: body) =>
          match readNodes? depth body with
          | some (nodes, .tag .beginBlock :: .keyword .endFor :: .tag .endBlock :: after) =>
            (readNodes? depth after).map fun read => (.loop names source nodes :: read.1, read.2)
          | _ => none
        | _ => none
    | .tag .beginBlock :: .keyword .withWord :: rest =>
      match readExpr? depth rest with
      | some (expr, .keyword .asWord :: .name name :: .tag .endBlock :: body) =>
        match readNodes? depth body with
        | some (nodes, .tag .beginBlock :: .keyword .endWith :: .tag .endBlock :: after) =>
          (readNodes? depth after).map fun read => (.bind expr name nodes :: read.1, read.2)
        | _ => none
      | _ => none
    | .tag .beginBlock :: .keyword .includeWord :: .text _ :: .tag .endBlock :: rest =>
      (readNodes? depth rest).map fun read => (.missingTemplate :: read.1, read.2)
    | .tag .beginBlock :: .keyword .includeWord :: .text _ :: .keyword .withWord :: rest =>
      match readExpr? depth rest with
      | some (_, .tag .endBlock :: after) =>
        (readNodes? depth after).map fun read => (.missingTemplate :: read.1, read.2)
      | _ => none
    | _ => some ([], tokens)

/-- Reads a branch from its condition to its end. -/
def readBranch? : Nat → List Token → Option (Node × List Token)
  | 0, _ => none
  | depth + 1, tokens =>
    match readCondition? depth tokens with
    | none => none
    | some ((negated, condition), body) =>
      match readNodes? depth body with
      | some (yes, .tag .beginBlock :: .keyword .endIf :: .tag .endBlock :: rest) =>
        some (.branch negated condition yes [], rest)
      | some (yes, .tag .beginBlock :: .keyword .elseWord :: .keyword .ifWord :: rest) =>
        (readBranch? depth rest).map fun read =>
          (.branch negated condition yes [read.1], read.2)
      | some (yes, .tag .beginBlock :: .keyword .elseWord :: .tag .endBlock :: rest) =>
        match readNodes? depth rest with
        | some (no, .tag .beginBlock :: .keyword .endIf :: .tag .endBlock :: after) =>
          some (.branch negated condition yes no, after)
        | _ => none
      | _ => none

end

end Template

/-- A template that has been read. -/
structure Template where
  /-- The nodes. -/
  nodes : List Template.Node

namespace Template

/-- Reads a template; a text that is no template gives nothing. -/
def ofText? (text : String) : Option Template :=
  match tokens? (.outside false) text.toList with
  | none => none
  | some tokens =>
    match readNodes? (2 * tokens.length + 2) tokens with
    | some (nodes, []) => some ⟨nodes⟩
    | _ => none

end Template
end LinkFacts
