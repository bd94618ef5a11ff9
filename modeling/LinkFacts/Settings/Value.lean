import LinkFacts.Naming

/-!
# Settings as they were written

The values that files and the environment give to settings, before it is known what they are for.
What is written in one place forms a layer; a layer that is laid over another wins key by key.
-/

namespace LinkFacts
namespace Settings

/-- A value that a setting was given. -/
inductive Value where
  /-- The setting is left unset on purpose. -/
  | nothing
  | flag (value : Bool)
  | integer (value : Int)
  /-- A number with a fraction or an exponent; no setting is such a number. -/
  | real
  /-- A date or a time; no setting is one. -/
  | moment
  | text (value : String)
  | list (items : List Value)
  | table (entries : List (String × Value))

/-- The settings that were written in one place. -/
abbrev Layer := List (String × Value)

/-- Collects entries; a later one takes the place of an earlier one with its key. -/
def Layer.ofEntries (entries : List (String × Value)) : Layer :=
  entries.foldl (fun layer entry => Naming.put entry.1 entry.2 layer) []

/-- Lays a layer over another one. -/
def Layer.over (upper lower : Layer) : Layer :=
  upper.foldl (fun layer entry => Naming.put entry.1 entry.2 layer) lower

end Settings
end LinkFacts
