import LinkFacts.Yaml.Token

/-!
# Nodes of YAML documents

The tokens of a text form at most one document, whose root is a scalar, a sequence or a mapping.  An
alias stands for the node that last got its name; a node does not contain itself.
-/

namespace LinkFacts
namespace Yaml

/-- A part of a document. -/
inductive Node where
  | scalar (tag : Option String) (plain : Bool) (text : List Char)
  | sequence (tag : Option String) (items : List Node)
  | mapping (tag : Option String) (entries : List (Node × Node))

namespace Node

/-- What stands where nothing is written. -/
def empty : Node := .scalar none true []

end Node

/-- What is known while a document is read. -/
structure Progress where
  /-- The tokens that are left. -/
  tokens : List Token
  /-- The nodes with names, the latest first. -/
  anchors : List (String × Node)
  /-- What the handles of tags stand for. -/
  handles : List (String × String)

/-- A step in reading a document, which may fail. -/
abbrev Step := StateT Progress Option

/-- The next token. -/
def peek? : Step (Option Token) := do return (← get).tokens.head?

/-- Passes the next token. -/
def advance : Step Unit := modify fun progress => { progress with tokens := progress.tokens.drop 1 }

/-- Passes a token if it comes next. -/
def accept (token : Token) : Step Bool := do
  if (← peek?) = some token then
    advance
    return true
  else return false

/-- Passes a token that has to come next. -/
def expect (token : Token) : Step Unit := do
  if ← accept token then return else failure

/-- One of some tokens comes next. -/
def nextIsOneOf (tokens : List Token) : Step Bool := do
  return (← peek?).any tokens.contains

/-- The name of an anchor, if one comes next. -/
def takeAnchor : Step (Option String) := do
  match ← peek? with
  | some (.anchor name) =>
    advance
    return some name
  | _ => return none

/-- A tag, if one comes next. -/
def takeTag : Step (Option WrittenTag) := do
  match ← peek? with
  | some (.tag tag) =>
    advance
    return some tag
  | _ => return none

/-- The anchor and the tag before a node, in any order. -/
def takeProperties : Step (Option String × Option WrittenTag) := do
  match ← takeAnchor with
  | some name => return (some name, ← takeTag)
  | none =>
    match ← takeTag with
    | some tag => return (← takeAnchor, some tag)
    | none => return (none, none)

/-- The tag with what its handle stands for. -/
def resolveTag : Option WrittenTag → Step (Option String)
  | none => return none
  | some tag => do
    if tag.handle.isEmpty then return some tag.suffix
    else
      match (← get).handles.lookup tag.handle with
      | some lead => return some (lead ++ tag.suffix)
      | none => failure

/-- Forgets the node with a name. -/
def hideAnchor : Option String → Step Unit
  | none => return
  | some name => modify fun progress =>
      { progress with anchors := progress.anchors.filter (·.1 ≠ name) }

/-- Gives a node a name. -/
def nameNode (node : Node) : Option String → Step Unit
  | none => return
  | some name => modify fun progress =>
      { progress with anchors := (name, node) :: progress.anchors }

/-- The node with a name. -/
def namedNode (name : String) : Step Node := do
  match (← get).anchors.lookup name with
  | some node => return node
  | none => failure

mutual

/-- Reads a node.  Outside of braces and brackets it may be a block, and as a part of a mapping
also a sequence whose dashes are not indented. -/
def readNode : Nat → (block dashes : Bool) → Step Node
  | 0, _, _ => failure
  | limit + 1, block, dashes => do
    match ← peek? with
    | some (.alias name) =>
      advance
      namedNode name
    | _ =>
      let (name, written) ← takeProperties
      let tag ← resolveTag written
      hideAnchor name
      let node ← readContent limit block dashes tag (name.isSome || written.isSome)
      nameNode node name
      return node

/-- Reads a node after its anchor and its tag; with one of them it may be empty. -/
def readContent : Nat → (block dashes : Bool) → Option String → (mayBeEmpty : Bool) → Step Node
  | 0, _, _, _, _ => failure
  | limit + 1, block, dashes, tag, mayBeEmpty => do
    match ← peek? with
    | some (.scalar plain text) =>
      advance
      return .scalar tag plain text
    | some .flowSequenceStart =>
      advance
      return .sequence tag (← readFlowItems limit true)
    | some .flowMappingStart =>
      advance
      return .mapping tag (← readFlowEntries limit true)
    | some .entry =>
      if dashes then return .sequence tag (← readDashes limit)
      else if mayBeEmpty then return .scalar tag true []
      else failure
    | some .sequenceStart =>
      if block then
        advance
        return .sequence tag (← readBlockItems limit)
      else if mayBeEmpty then return .scalar tag true []
      else failure
    | some .mappingStart =>
      if block then
        advance
        return .mapping tag (← readBlockEntries limit)
      else if mayBeEmpty then return .scalar tag true []
      else failure
    | _ => if mayBeEmpty then return .scalar tag true [] else failure

/-- Reads a node, unless one of some tokens comes next. -/
def readUnless : Nat → List Token → (block dashes : Bool) → Step Node
  | 0, _, _, _ => failure
  | limit + 1, tokens, block, dashes => do
    if ← nextIsOneOf tokens then return .empty else readNode limit block dashes

/-- Reads the items of a sequence in a block of its own. -/
def readBlockItems : Nat → Step (List Node)
  | 0 => failure
  | limit + 1 => do
    if ← accept .entry then
      let item ← readUnless limit [.entry, .blockEnd] true false
      return item :: (← readBlockItems limit)
    else
      expect .blockEnd
      return []

/-- Reads the items of a sequence in the block of a mapping. -/
def readDashes : Nat → Step (List Node)
  | 0 => failure
  | limit + 1 => do
    if ← accept .entry then
      let item ← readUnless limit [.entry, .key, .value, .blockEnd] true false
      return item :: (← readDashes limit)
    else return []

/-- Reads the entries of a mapping in a block. -/
def readBlockEntries : Nat → Step (List (Node × Node))
  | 0 => failure
  | limit + 1 => do
    if ← accept .key then
      let key ← readUnless limit [.key, .value, .blockEnd] true true
      let value ← readBlockValue limit
      return (key, value) :: (← readBlockEntries limit)
    else
      expect .blockEnd
      return []

/-- Reads the value of an entry in a block, if there is one. -/
def readBlockValue : Nat → Step Node
  | 0 => failure
  | limit + 1 => do
    if ← accept .value then readUnless limit [.key, .value, .blockEnd] true true
    else return .empty

/-- Reads the items of a sequence in brackets; an item may be a mapping with one entry. -/
def readFlowItems : Nat → (first : Bool) → Step (List Node)
  | 0, _ => failure
  | limit + 1, first => do
    if ← accept .flowSequenceEnd then return []
    else
      if !first then expect .flowEntry
      if ← accept .key then
        let pair ← readPair limit
        return .mapping none [pair] :: (← readFlowItems limit false)
      else if ← accept .flowSequenceEnd then return []
      else
        let item ← readNode limit false false
        return item :: (← readFlowItems limit false)

/-- Reads the entry of a mapping in brackets after its key mark. -/
def readPair : Nat → Step (Node × Node)
  | 0 => failure
  | limit + 1 => do
    let key ←
      if ← nextIsOneOf [.value, .flowEntry, .flowSequenceEnd] then do
        advance
        pure Node.empty
      else readNode limit false false
    if ← accept .value then
      return (key, ← readUnless limit [.flowEntry, .flowSequenceEnd] false false)
    else return (key, .empty)

/-- Reads the entries of a mapping in braces. -/
def readFlowEntries : Nat → (first : Bool) → Step (List (Node × Node))
  | 0, _ => failure
  | limit + 1, first => do
    if ← accept .flowMappingEnd then return []
    else
      if !first then expect .flowEntry
      if ← accept .key then
        let key ← readUnless limit [.value, .flowEntry, .flowMappingEnd] false false
        let value ← readFlowValue limit
        return (key, value) :: (← readFlowEntries limit false)
      else if ← accept .flowMappingEnd then return []
      else
        let key ← readNode limit false false
        return (key, .empty) :: (← readFlowEntries limit false)

/-- Reads the value of an entry in braces, if there is one. -/
def readFlowValue : Nat → Step Node
  | 0 => failure
  | limit + 1 => do
    if ← accept .value then readUnless limit [.flowEntry, .flowMappingEnd] false false
    else return .empty

end

/-- The handles that need no directive. -/
def standardHandles : List (String × String) := [("!", "!"), ("!!", "tag:yaml.org,2002:")]

/-- Applies the directives before a document. -/
def applyDirectives : Nat → (versioned : Bool) → (defined : List (String × String)) → Step Unit
  | 0, _, _ => failure
  | limit + 1, versioned, defined => do
    match ← peek? with
    | some (.directive (.version major minor)) =>
      if versioned || major != 1 || (minor != 1 && minor != 2) then failure
      else
        advance
        applyDirectives limit true defined
    | some (.directive (.handle handle lead)) =>
      if (defined.lookup handle).isSome then failure
      else
        advance
        applyDirectives limit versioned ((handle, lead) :: defined)
    | _ => modify fun progress => { progress with handles := defined ++ progress.handles }

/-- Passes tokens that end a document. -/
def skipEnds : Step Unit := modify fun progress =>
  { progress with tokens := progress.tokens.dropWhile (· == .documentEnd) }

/-- A directive comes next. -/
def nextIsDirective : Step Bool := do
  match ← peek? with
  | some (.directive _) => return true
  | _ => return false

/-- Reads the root of a document that has a start mark. -/
def readMarked (limit : Nat) : Step Node := do
  expect .documentStart
  if (← peek?).isNone || (← nextIsDirective) then return .empty
  else readUnless limit [.documentStart, .documentEnd] true false

/-- Reads the only document of a text, if there is one. -/
def readOnly (limit : Nat) : Step (Option Node) := do
  if (← peek?).isNone then return none
  else
    let marked := (← nextIsDirective) || (← peek?) = some .documentStart
    applyDirectives limit false []
    let root ← if marked then readMarked limit else readNode limit true false
    skipEnds
    if (← peek?).isNone then return some root else failure

/-- The root of the only document of a text; the inner option is empty for a text without one. -/
def parse (text : List Char) : Option (Option Node) :=
  (scan text).bind fun tokens =>
    ((readOnly (4 * tokens.length + 16)).run ⟨tokens, [], standardHandles⟩).map (·.1)

end Yaml
end LinkFacts
