import LinkFacts.Json.Document
import LinkFacts.Toml.Document
import LinkFacts.Yaml.Value

/-!
# Settings in documents

The layer of settings that a document of one of the known formats holds.
-/

namespace LinkFacts
namespace Settings

mutual

/-- The setting that a JSON value is. -/
def Value.ofJson : Json.Value → Value
  | .null => .nothing
  | .flag value => .flag value
  | .number (.natural value) => .integer value
  | .number (.negative value) => .integer (-(value : Int))
  | .number (.real _) => .real
  | .text value => .text value
  | .list items => .list (itemsOfJson items)
  | .object members => .table (Layer.ofEntries (entriesOfJson members))

/-- The settings that the items of a list are. -/
def itemsOfJson : List Json.Value → List Value
  | [] => []
  | item :: rest => Value.ofJson item :: itemsOfJson rest

/-- The settings that the members of an object are. -/
def entriesOfJson : List (String × Json.Value) → List (String × Value)
  | [] => []
  | (key, value) :: rest => (key, Value.ofJson value) :: entriesOfJson rest

end

/-- The settings of a JSON document. -/
def jsonLayer? (document : String) : Option Layer :=
  match Json.readDocument (Json.readObject Json.readValue Json.greatestDepth) document.toList with
  | .ok members => some (Layer.ofEntries (entriesOfJson members))
  | .error _ => none

/-- The settings of a YAML document. -/
def yamlLayer? (document : String) : Option Layer := Yaml.layer? document.toList

/-- The settings of a TOML document. -/
def tomlLayer? (document : String) : Option Layer :=
  (Toml.readDocument document.toList).map Layer.ofEntries

end Settings
end LinkFacts
