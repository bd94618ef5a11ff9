import LinkFacts.Address.Parser
import LinkFacts.Settings.Value

/-!
# The configuration

The settings that the program knows, and reading them from a layer.  A layer with any other key is
refused, and so is a value of the wrong type.
-/

namespace LinkFacts
namespace Settings

/-- How facts are mounted. -/
structure Configuration where
  /-- The address that relative links are resolved against. -/
  baseUrl : Option Address
  /-- After how many milliseconds a fetch is given up, if it was set. -/
  fetchTimeout : Option Nat
  /-- The template in place of the standard one. -/
  template : Option String
  /-- The file with the facts of repositories. -/
  fixtures : Option String

namespace Configuration

/-- After how many milliseconds a fetch is given up; zero means never. -/
def effectiveTimeout (configuration : Configuration) : Option Nat :=
  configuration.fetchTimeout.filter (0 < ·)

end Configuration

/-- The keys of the settings. -/
def baseUrlKey : String := "base_url"

@[inherit_doc baseUrlKey]
def fetchTimeoutKey : String := "fetch_timeout"

@[inherit_doc baseUrlKey]
def templateKey : String := "template"

@[inherit_doc baseUrlKey]
def fixturesKey : String := "fixtures"

/-- All keys of settings. -/
def knownKeys : List String := [baseUrlKey, fetchTimeoutKey, templateKey, fixturesKey]

/-- The text that a value is. -/
def Value.text? : Value → Option String
  | .text value => some value
  | _ => none

/-- The natural number below `2 ^ 64` that a value is. -/
def Value.natural? : Value → Option Nat
  | .integer value => if 0 ≤ value ∧ value < (Nat.pow 2 64 : Int) then some value.toNat else none
  | _ => none

/-- The address that a value is. -/
def Value.address? (value : Value) : Option Address :=
  value.text?.bind fun text => (Address.ofText text).toOption

/-- Reads an optional setting; the outer option tells whether its value is of the right type. -/
def Layer.read? {α : Type} (read : Value → Option α) (key : String) (layer : Layer) :
    Option (Option α) :=
  match layer.lookup key with
  | none => some none
  | some .nothing => some none
  | some value => (read value).map some

/-- The configuration that a layer holds. -/
def Layer.configuration? (layer : Layer) : Option Configuration := do
  if layer.all fun entry => knownKeys.contains entry.1 then
    let baseUrl ← layer.read? Value.address? baseUrlKey
    let fetchTimeout ← layer.read? Value.natural? fetchTimeoutKey
    let template ← layer.read? Value.text? templateKey
    let fixtures ← layer.read? Value.text? fixturesKey
    return { baseUrl, fetchTimeout, template, fixtures }
  else none

end Settings
end LinkFacts
