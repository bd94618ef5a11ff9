import LinkFacts.Unicode.Table

/-!
# Combining marks

The characters with general category Mark.
-/

namespace LinkFacts
namespace Unicode

/-- Runs of marks, `M`, and of everything else, `O`. -/
def markLines : List String :=
  ["300O70M113O7M107O2dM1O1M1O2M1O2M1O1M48ObM30O15M10O1M65O7M2O6M2O2M1O4M23O1M1eO1bM5bObM3aO9M9O",
    "1M18O4M1O9M1O3M1O5M2bO3M3cO8M2aO18M1O21M36O3M1O12M1O7MaO2M1dO3M38O1M1O7M2O2M2O3M9O1MaO2M1aO1",
    "M2O3M38O1M1O5M4O2M2O3M3O1M1eO2M3O1MbO3M38O1M1O8M1O3M1O3M14O2M16O6M1O3M38O1M1O7M2O2M2O3M7O3Ma",
    "O2M1eO1M3bO5M3O3M1O4M9O1M28O5M37O1M1O7M1O3M1O4M7O2MbO2M1dO3M38O1M1O7M1O3M1O4M7O2MbO2MfO1McO4",
    "M37O2M1O7M1O3M1O4M9O1MaO2M1dO3M46O1M4O6M1O1M1O8M12O2M3dO1M2O7McO8M62O1M2O9MbO7M49O2M1bO1M1O1",
    "M1O1M4O2M31O14M1O2M5ObM1O24M9O1M64O14M17O4M4O3M1O3M2O7M3O4MdOcM1O1MaO4M2bfO3M3b2O4M1cO3M1dO2",
    "M1eO2M40O20M9O1M2dO3M1O1M75O2M22O1M76OcM4OcMdbO5M39OaM1O1dM2O1M30O1fM31O5M2fO11M26O9McO3M1eO",
    "dM38OeM30O14M98O3M1O15M4O1M6O1M2O3Mc6O40M2d0O21MbfeO3M8dO1M60O20M22aO6M69O2M75d4O4M1OaM20O2M",
    "50O2M110O1M3O1M4O1M17O5M4O1M53O2M32O12M1aO12MdO1M26O8M19OdM2cO4M2fOeM24O1M43OeMcO1M8O2M2dO3M",
    "32O1M1O3M2O2M5O2M1O1M29O5M5O2MecO8M1O2M4f30O1M2e1O10M10O10M3cdO1Me2O1M95O5M686O3M1O2M5O4M28O",
    "3M4O1Ma5O2M23dO4M183O2M50O3M46ObM31O4M7aO3M35OfM29O1M2O2MaO4M2dObM7O1M3dO3M24OeM10O2M2cO1McO",
    "3M30OeM8O4M1O2M5cOcM6O1M2O1M9dOcM15O4M37O2M1O7M2O2M2O3M9O1MaO2M2O7M3O5Mc0O12M17O1M51O14MebO7",
    "M2O9M1bO2M52O11M6aOdM65OfM100OfMf5O6M1O2M2O4M1O1M1O2M8dO7M2O7M3O1M1cOaM28O7M1O4M8O1M9ObM2eO1",
    "0M195O8M1O8M52O16M1OeM7aO6M3O1M1O2M1O7M1O1M42O5M1O2M1O5M15bO4M9O2M1O1M30O7M3O5M14fdO1M6OfM36",
    "9aO5M3bO7M418O1M1O37M7O4M51O1MbO2M4cabO2M1261O2eM2O17M21eO5M3O6M8O8M2O7M1eO4M94O3M7bbO37M4O3",
    "2M8O1MeO1M16O5M1OfM550O7M1O11M2O7M1O2M1O5M64O1Ma0O7M177O1M3dO4M1fcO4M3e0O7M6dO7Mc17b5Of0M2fe",
    "10O"]

/-- The marks and everything else. -/
def markTable : Table := Table.ofLines markLines

/-- A combining mark. -/
def isMark (c : Char) : Bool := markTable.kindOf c == 'M'

end Unicode
end LinkFacts
