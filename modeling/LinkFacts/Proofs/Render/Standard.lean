import LinkFacts.Proofs.Render.Display
import LinkFacts.Proofs.Render.Escape
import LinkFacts.Render.Renderer

/-!
# The standard template

The standard template shows facts as a list with one item for each fact.  Keys and values are
escaped wherever they stand, so the tags and quotes of the markup are those of the template.
-/

namespace LinkFacts
namespace Render

open Template (Node Token Member Value)

/-! ## Reading the template -/

/-- What is written before all facts. -/
def listStart : String := "<ul class=\"md-source__facts\">"

/-- What is written before the key of a fact. -/
def itemStart : String := "<li class=\"md-source__fact md-source__fact--"

/-- What is written between the key and the value of a fact. -/
def itemMiddle : String := "\">"

/-- What is written after the value of a fact. -/
def itemEnd : String := "</li>"

/-- What is written after all facts. -/
def listEnd : String := "</ul>"

/-- What the template holds for each fact. -/
def itemNodes : List Node :=
  [.raw itemStart,
    .emit (.call "escape" [.path ⟨false, .key "fact"⟩ [⟨false, .key "key"⟩]]),
    .raw itemMiddle,
    .emit (.call "escape" [.call "compact" [.path ⟨false, .key "fact"⟩ [⟨false, .key "value"⟩]]]),
    .raw itemEnd]

/-- The standard template. -/
def standard : Template :=
  ⟨[.raw listStart,
    .loop (.item "fact") (.path ⟨false, .key "facts"⟩ []) itemNodes,
    .raw listEnd]⟩

/-- The tokens of the standard template. -/
def standardTokens : List Token :=
  [.raw listStart.toList,
    .tag .beginBlock, .keyword .forWord, .name "fact", .keyword .inWord, .name "facts",
    .tag .endBlock,
    .raw itemStart.toList,
    .tag .beginEmit, .name "fact", .dot, .name "key", .pipe, .name "escape", .tag .endEmit,
    .raw itemMiddle.toList,
    .tag .beginEmit, .name "fact", .dot, .name "value", .pipe, .name "compact", .pipe,
    .name "escape", .tag .endEmit,
    .raw itemEnd.toList,
    .tag .beginBlock, .keyword .endFor, .tag .endBlock,
    .raw listEnd.toList]

private theorem tokens?_standardText :
    Template.tokens? (.outside false) standardText.toList = some standardTokens := by
  decide +kernel

private theorem readNodes?_standardTokens :
    Template.readNodes? (2 * standardTokens.length + 2) standardTokens =
      some (standard.nodes, []) := by
  rfl

private theorem compile_of_read {text : String} {tokens : List Token} {nodes : List Node}
    (split : Template.tokens? (.outside false) text.toList = some tokens)
    (read : Template.readNodes? (2 * tokens.length + 2) tokens = some (nodes, [])) :
    compile text = .ok ⟨nodes⟩ := by
  simp only [compile, Template.ofText?, split, read]

theorem compile_standardText : compile standardText = .ok standard :=
  compile_of_read tokens?_standardText readNodes?_standardTokens

/-! ## Rendering it -/

/-- The markup of a fact. -/
def itemMarkup (entry : String × String) : String :=
  itemStart ++ escape entry.1 ++ itemMiddle ++
    escape (compact entry.2) ++ itemEnd

/-- The markup of facts. -/
def listMarkup (facts : Facts) : String :=
  listStart ++ String.join ((displayed facts).map itemMarkup) ++ listEnd

private theorem joinTexts_map_some (texts : List String) :
    Template.joinTexts (texts.map some) = some (String.join texts) := by
  induction texts with
  | nil => rfl
  | cons text texts ih =>
      rw [String.join_cons]
      unfold Template.joinTexts at ih ⊢
      rw [List.map_cons, List.foldr_cons, ih]
      rfl

section Nodes

variable {scope : Template.Scope} {nodes : List Node} {first rest : String}
  {expr : Template.Expr} {value : Value}

private theorem renderNodes?_nil : Template.renderNodes? scope [] = some "" := by
  rw [Template.renderNodes?]

private theorem renderNodes?_raw (text : String)
    (others : Template.renderNodes? scope nodes = some rest) :
    Template.renderNodes? scope (.raw text :: nodes) = some (text ++ rest) := by
  rw [Template.renderNodes?, Template.renderNode?, others]

private theorem renderNodes?_emit (one : Template.emit? scope expr = some first)
    (others : Template.renderNodes? scope nodes = some rest) :
    Template.renderNodes? scope (.emit expr :: nodes) = some (first ++ rest) := by
  rw [Template.renderNodes?, Template.renderNode?, one, others]

/-- A loop over a list writes its body for each item. -/
theorem renderNodes?_loop {name : String} {items : List Value} {body : List Node}
    (texts : List String) (source : Template.eval? scope expr = some (.list items))
    (same : texts.length = items.length)
    (turns : ∀ place item, items[place]? = some item → ∃ text, texts[place]? = some text ∧
      Template.renderNodes?
        ([("loop", Template.loopState place items.length), (name, item)] ++ scope) body = some text)
    (others : Template.renderNodes? scope nodes = some rest) :
    Template.renderNodes? scope (.loop (.item name) expr body :: nodes) =
      some (String.join texts ++ rest) := by
  have written : (items.zipIdx.map fun item => Template.renderNodes?
      ([("loop", Template.loopState item.2 items.length), (name, item.1)] ++ scope) body) =
        texts.map some := by
    refine List.ext_getElem (by simp [same]) fun place inside _ => ?_
    have within : place < items.length := by simpa using inside
    obtain ⟨text, there, turn⟩ := turns place items[place] (by simp)
    simp only [List.getElem_map, List.getElem_zipIdx, Nat.zero_add, turn]
    rw [← there]
    simp
  rw [Template.renderNodes?, Template.renderNode?, source, Option.bind_some, others]
  simp only [Template.turns?, List.map_map, Function.comp_def]
  rw [written, joinTexts_map_some]

private theorem eval?_name {name : String} (held : scope.lookup name = some value) :
    Template.eval? scope (.path ⟨false, .key name⟩ []) = some value := by
  simp [Template.eval?, Template.path?, Bind.bindLeft, Template.valueOf?, held]

private theorem eval?_member {name key : String} {entries : List (String × Value)}
    (map : scope.lookup name = some (.map entries)) (held : entries.lookup key = some value) :
    Template.eval? scope (.path ⟨false, .key name⟩ [⟨false, .key key⟩]) = some value := by
  simp [Template.eval?, Template.path?, Bind.bindLeft, Template.valueOf?, Template.member?, map,
    held]

private theorem eval?_compact {text : String}
    (value : Template.eval? scope expr = some (.text text)) :
    Template.eval? scope (.call "compact" [expr]) = some (.text (compact text)) := by
  simp [Template.eval?, Template.evalAll?, value, Template.call?]

private theorem emit?_escape {text : String}
    (value : Template.eval? scope expr = some (.text text)) :
    Template.emit? scope (.call "escape" [expr]) = some (escape text) := by
  rw [Template.emit?, value, Option.bind_some, Template.escapeValue?]

end Nodes

/-- In each turn of the loop a fact is written. -/
theorem renderNodes?_itemNodes (entry : String × String) (turn : Value) (scope : Template.Scope) :
    Template.renderNodes? ([("loop", turn),
      ("fact", .map [("key", .text entry.1), ("value", .text entry.2)])] ++ scope) itemNodes =
        some (itemMarkup entry) := by
  generalize within : [("loop", turn),
    ("fact", .map [("key", .text entry.1), ("value", .text entry.2)])] ++ scope = inner
  have fact : inner.lookup "fact" =
      some (.map [("key", .text entry.1), ("value", .text entry.2)]) := by
    subst within
    simp [List.lookup_cons]
  have key : Template.eval? inner (.path ⟨false, .key "fact"⟩ [⟨false, .key "key"⟩]) =
      some (.text entry.1) := eval?_member fact (by simp)
  have value : Template.eval? inner (.path ⟨false, .key "fact"⟩ [⟨false, .key "value"⟩]) =
      some (.text entry.2) := eval?_member fact (by simp [List.lookup_cons])
  have rendered := renderNodes?_raw itemStart
    (renderNodes?_emit (emit?_escape key)
      (renderNodes?_raw itemMiddle
        (renderNodes?_emit (emit?_escape (eval?_compact value))
          (renderNodes?_raw itemEnd renderNodes?_nil))))
  simpa only [itemNodes, itemMarkup, String.append_assoc, String.append_empty] using rendered

theorem render_standard (facts : Facts) : render standard facts = .ok (listMarkup facts) := by
  have source : Template.eval? (scope facts) (.path ⟨false, .key "facts"⟩ []) =
      some (.list (view facts)) := eval?_name (by simp [scope])
  have turns (place : Nat) (item : Value) (there : (view facts)[place]? = some item) :
      ∃ text, ((displayed facts).map itemMarkup)[place]? = some text ∧
        Template.renderNodes? ([("loop", Template.loopState place (view facts).length),
          ("fact", item)] ++ scope facts) itemNodes = some text := by
    rw [view, List.getElem?_map] at there
    obtain ⟨entry, shown, rfl⟩ := Option.map_eq_some_iff.mp there
    exact ⟨itemMarkup entry, by simp [shown], renderNodes?_itemNodes entry _ _⟩
  have rendered := renderNodes?_raw listStart
    (renderNodes?_loop ((displayed facts).map itemMarkup) source (by simp [view]) turns
      (renderNodes?_raw listEnd renderNodes?_nil))
  simp only [render, standard, rendered, listMarkup, String.append_assoc, String.append_empty]

/-! ## Counting delimiters -/

private theorem count_escape {c : Char} (delimits : c ∈ delimiters) (text : String) :
    (escape text).toList.count c = 0 :=
  List.count_eq_zero.mpr (notMem_escape delimits text)

/-- A fact brings only the delimiters of the template. -/
theorem count_itemMarkup {c : Char} (delimits : c ∈ delimiters) (entry : String × String) :
    (itemMarkup entry).toList.count c = (itemStart ++ itemMiddle ++ itemEnd).toList.count c := by
  simp only [itemMarkup, String.toList_append, List.count_append, count_escape delimits,
    Nat.add_zero]

private theorem count_listMarkup {c : Char} (delimits : c ∈ delimiters) (facts : Facts) :
    (listMarkup facts).toList.count c =
      (itemStart ++ itemMiddle ++ itemEnd).toList.count c * facts.size +
        (listStart ++ listEnd).toList.count c := by
  have items : (((displayed facts).map itemMarkup).flatMap String.toList).count c =
      (itemStart ++ itemMiddle ++ itemEnd).toList.count c * facts.size := by
    rw [← length_displayed facts]
    induction displayed facts with
    | nil => simp
    | cons entry rest ih =>
        rw [List.map_cons, List.flatMap_cons, List.count_append, ih,
          count_itemMarkup delimits entry, List.length_cons, Nat.mul_succ, Nat.add_comm]
  simp only [listMarkup, String.toList_append, String.toList_join, List.count_append] at items ⊢
  omega

/-- The standard template renders every mapping, to a list with an item for each fact, in display
order, in which all tags and quotes are those of the template. -/
theorem standard_renders :
    ∃ template, compile standardText = .ok template ∧ ∀ facts : Facts,
      render template facts = .ok (listMarkup facts) ∧
      Arranged facts (displayed facts) ∧
      (∀ entry ∈ displayed facts, ∀ c ∈ delimiters,
        c ∉ (escape entry.1).toList ∧ c ∉ (escape (compact entry.2)).toList) ∧
      (listMarkup facts).toList.count '<' = 2 * facts.size + 2 ∧
      (listMarkup facts).toList.count '>' = 2 * facts.size + 2 ∧
      (listMarkup facts).toList.count '"' = 2 * facts.size + 2 ∧
      (listMarkup facts).toList.count '\'' = 0 := by
  refine ⟨standard, compile_standardText, fun facts =>
    ⟨render_standard facts, arranged_displayed facts, ?_, ?_, ?_, ?_, ?_⟩⟩
  · exact fun entry _ c delimits => ⟨notMem_escape delimits _, notMem_escape delimits _⟩
  · exact count_listMarkup (by decide) facts
  · exact count_listMarkup (by decide) facts
  · exact count_listMarkup (by decide) facts
  · calc
      (listMarkup facts).toList.count '\'' = 0 * facts.size + 0 :=
        count_listMarkup (by decide) facts
      _ = 0 := by omega

end Render
end LinkFacts
