import LinkFacts.Settings.Value

/-!
# Tables in TOML

A table may be defined by a header, implied by the header of a table inside it, or made by a dotted
key.  A header defines what was at most implied before; a dotted key extends what no header has
defined; and no key is given twice.
-/

namespace LinkFacts
namespace Toml

open Settings (Value)

/-- How a table came about. -/
inductive TableKind where
  /-- A header defines it. -/
  | defined
  /-- The header of an inner table implies it. -/
  | implied
  /-- A dotted key made it. -/
  | dotted
  deriving DecidableEq, Repr

/-- What a key stands for. -/
inductive Item where
  | value (value : Value)
  | table (kind : TableKind) (entries : List (String × Item))
  /-- Tables that were listed under one header. -/
  | tables (elements : List (List (String × Item)))

/-- The entries of a table. -/
abbrev Entries := List (String × Item)

/-- Puts an item under a key that is in use. -/
def Entries.set (key : String) (item : Item) (entries : Entries) : Entries :=
  entries.map fun entry => if entry.1 = key then (key, item) else entry

/-- Changes the table at the end of a path, whose missing tables are made with the given kind. -/
def descend (made : TableKind) (change : TableKind → Entries → Option Entries) :
    List String → TableKind → Entries → Option Entries
  | [], kind, entries => change kind entries
  | key :: path, _, entries =>
    match entries.lookup key with
    | none =>
      (descend made change path made []).map fun inner => entries ++ [(key, .table made inner)]
    | some (.value _) => none
    | some (.table kind inner) =>
      if made = .dotted ∧ kind = .defined then none
      else
        (descend made change path kind inner).map fun changed =>
          Entries.set key (.table kind changed) entries
    | some (.tables elements) =>
      match elements.reverse with
      | [] => none
      | last :: earlier =>
        (descend made change path .defined last).map fun changed =>
          Entries.set key (.tables (changed :: earlier).reverse) entries

/-- Splits the last component off a path. -/
def splitLast (path : List String) : Option (List String × String) :=
  path.getLast?.map fun last => (path.dropLast, last)

/-- Gives a dotted key a value within a table. -/
def assign (path : List String) (value : Value) (entries : Entries) : Option Entries :=
  (splitLast path).bind fun (outer, key) =>
    descend .dotted (fun kind inner =>
      if (!outer.isEmpty && kind != .dotted) || (inner.lookup key).isSome then none
      else some (inner ++ [(key, .value value)])) outer .defined entries

/-- Gives a dotted key a value within the table of a header. -/
def assignUnder (header path : List String) (value : Value) (entries : Entries) :
    Option Entries :=
  descend .implied (fun _ inner => assign path value inner) header .defined entries

/-- Defines the table of a header. -/
def define (header : List String) (entries : Entries) : Option Entries :=
  (splitLast header).bind fun (outer, key) =>
    descend .implied (fun _ inner =>
      match inner.lookup key with
      | none => some (inner ++ [(key, .table .defined [])])
      | some (.table .implied content) => some (Entries.set key (.table .defined content) inner)
      | some _ => none) outer .defined entries

/-- Adds a table to those listed under a header. -/
def append (header : List String) (entries : Entries) : Option Entries :=
  (splitLast header).bind fun (outer, key) =>
    descend .implied (fun _ inner =>
      match inner.lookup key with
      | none => some (inner ++ [(key, .tables [[]])])
      | some (.tables elements) => some (Entries.set key (.tables (elements ++ [[]])) inner)
      | some _ => none) outer .defined entries

mutual

/-- The value of an item. -/
def Item.toValue : Item → Value
  | .value value => value
  | .table _ entries => .table (entriesValue entries)
  | .tables elements => .list (elementValues elements)

/-- The values of entries. -/
def entriesValue : List (String × Item) → List (String × Value)
  | [] => []
  | (key, item) :: rest => (key, item.toValue) :: entriesValue rest

/-- The values of listed tables. -/
def elementValues : List (List (String × Item)) → List Value
  | [] => []
  | entries :: rest => .table (entriesValue entries) :: elementValues rest

end

end Toml
end LinkFacts
