import LinkFacts.Unicode.Table

/-!
# Bidirectional classes

The bidirectional class of every code point, as far as host labels ask for it.
-/

namespace LinkFacts
namespace Unicode

/-- One run for each stretch of equal classes; the letters are read by `directionOf`. -/
def directionLines : List String :=
  ["9B5XeB5X2O3T5O1S1C1S2CaE1C6O1aL6O1aL4O6B1X1aB1C1O4T4O1L2O1B2O2T2E1O1L3O1E1L5O17L1O1fL1O1c1L2",
    "O7LeO2LeO5L9O1L11O70M4L2O8L1O5L2O1L1O6eL1O8cL7M100L1O2L2O1T1R2dM1R1M1R2M1R2M1R1M38R6N2O1A2T1",
    "A1C1A2ObM30A15MaN1T2N3A1M65A7M1N1O6M2A2M1O4M2AaE17A1M1eA1bM5bAbMfA2bR9M2R4O3R1M18R4M1R9M1R3M",
    "1R5M2bR3M4R30A2N6A8M2aA18M1N20M37L1M1L1M4L8M4L1M3L7MaL2M1dL1M3aL1M4L4M8L1M14L2MeL2T7L1T2L1M2",
    "L2M39L1M4L2M4L2M2L3M3L1M1eL2M3L1MbL2M39L1M4L5M1L2M4L1M14L2MdL1T8L6M1L1M3aL1M2L1M1L4M8L1M7L2M",
    "bL2M1eL1M3dL1McL1M25L6O1T1O5L1M3L1M37L1M1L3M5L3M1L4M7L2MbL2M14L7O2L1M3aL1MfL2M14L2M1cL2M39L2",
    "M4L4M8L1M14L2M1dL1M48L1M7L3M1L1M5aL1M2L7M4L1T7L8M62L1M2L9MbL7M49L2M1bL1M1L1M1L1M4O33LeM1L5M1",
    "L2M5LbM1L24M9L1M66L4M1L6M1L2M2L2M19L2M4L3M10L4MdL1M2L2M6L1MfL1M2bfL3M30LaO66L1O27fL1X1aL2O75",
    "L3M1dL2M1eL2M1eL2M40L2M1L7M8L1M2LbM7L1T1L1M12LaO6LbO3M1B1M75L2M22L1M76L3M4L2M9L1M6L3M4L1O3L2",
    "O98L22O17L2M2L1M3aL1M1L7M1L1M1L1M2L8M6LaM2L1M30L1fM31L4M30L1M1L5M1L1M5L1M28L9McL2M20L4M2L2M1",
    "L3M38L1M1L2M3L1M1L3M3aL8M2L2M98L3M1LdM1L7M4L1M6L1M3L2Mc6L40M1bdL1O1L3ObL3OdL3OdL3OdL2O1LbX3B",
    "1L1R18O7X1C5TfO1C1aO1X6B4X6B1E3L6E2S3O1LaE2S3O11L30T21MfL2O1L4O1L2OaL1O1L3O5L6O1L1O1L1O1L1O4",
    "L1TbL2O4L5O5L4O2L10O29L3O4L82O1S1T122O45L1aO1L91O19LbO15L28O14E4eL1c2O1L153O100L274O2L20O1L6",
    "9Oe5L6O4L3M7L7O7fL1M60L20M5eO22L1aO1L59OcLd6O1aLcO4L1X4O3L19O9L4M2L1O5L2O5L3O59L2M2O3L1O5aL1",
    "Oc4L24O39L2O31L10O1cL3O32LfOcL4Oa7L4O63L2O1fL1O19c0L40O5690L37O146L3O5fL4M1OaM2O1eL2M50L2MeL",
    "22O66L1O79L1M3L1M4L1M19L2M1L4O1MbL2T3aL4O4cL2M1aL12MdL1M26L8M19LbM2eL3M30L1M2L4M2L2M27L1M43L",
    "6M2L2M2L2McL1M8L1M2fL1M33L1M1L3M2L2M5L2M1L1M2aL2M8L1M73L2O79L1M2L1M4L1M4f2fL1R1MaR1S26R1eeA1",
    "2O7fA1O20BdA3O10MaO6L10M20O1C1O1C1L1O1C9O1T2O2S3O1L1O2T1O4L8fA1B1L2O3T5O1S1C1S2CaE1C6O1aL6O1",
    "aLbO7aL2T3O2T1L7O1L9B5O2B101L1O3eL4dO3LdO3L1O5cL1Me2L1M1bE7aL5M485L11fR1Oe1R3M1R2M5R4M28R3M4",
    "R1Ma5R2M52R7O1c0R24A4M8AaN6A120R1fN2cR2M13R3dA3M30R16AbM1fA12R4M7aR1L1M36LfMbL14OaL1M2L2MaL3",
    "M31L4M2L2M7L1M3dL3M24L5M1L8M3eL1McL2M34L9MaL4M2L1M5fL3M2L1M1L2M6L1M2L1M9dL1M3L8M15L2M39L2M3L",
    "1M25L7M3L5Mc3L8M2L3M1L1M17L1M54L6M1L1M4L2M1L2MeeL4M6L2M1L2M1bL2M55L8M2L1M1L2M1fLdO3eL1M1L1M2",
    "L6M1L1M65L3M2L4M1L5M103L9M1L2M100L2M1L1M4L1M90L4M2L2M4L1M20L6M2L2M28L6M2L4M8L1M9L6M2L3M2eLdM",
    "1L2M196L7M1L6M54L16M2L7M1L2M1L2M7aL6M3L1M1L2M1L7M1L1M48L2M3L1M1L1M15bL2MbL2M34L5M5L1M1L1M92L",
    "8O4T11O144eL1M6LfM369aL5M3bL7M418L1M3fL4M4fL1O1L1M4cb8L2M1L4B125cL2eM2L17M220L3M9L8B8M2L7M1e",
    "L4M3bL2O15L42O3M1ObaL57O384L1O39L1O39L1O39L1O39L1OaL32E200L37M4L32M8L1MeL1M16L5M1LfM550L7M1L",
    "11M2L7M1L2M1L5M64L1Ma0L7M177L1M3dL4MfL1T1ecL4M310Ld0R7M6dR7M325R50A40R50Ab0Rf0A2OeA100R2cO4L",
    "64OcLfO2LfO1LfO1L25OaLbE5O1fL1O3aL6O3dL1Ob2L6O9aL3d8O4L11O3LdO3L77O4L5fO6LcO4L1OfLcO4L38O8La",
    "O6L28O8L1eO2L2O4eL154OcLeO2LdO3L9O7L2eO1L7O8LeO4L9O7L9O7L93O1L37O25LaE404L2BfffeL2BfffeL2Bff",
    "feL2BfffeL2BfffeL2BfffeL2BfffeL2BfffeL2BfffeL2BfffeL2BfffeL2BfffeL102Bf0Me10BeffeL2BfffeL2Bf",
    "ffeL2B"]

/-- The bidirectional class of every code point. -/
def directionTable : Table := Table.ofLines directionLines

/-- The classes that the rule for labels of right-to-left scripts tells apart. -/
inductive Direction where
  | leftToRight
  | rightToLeft
  | arabicLetter
  | arabicNumber
  | europeanNumber
  | europeanSeparator
  | commonSeparator
  | europeanTerminator
  | otherNeutral
  | boundaryNeutral
  | nonspacing
  /-- No label of a right-to-left domain may hold this one. -/
  | excluded
  deriving DecidableEq, Repr

/-- The bidirectional class of a character. -/
def directionOf (c : Char) : Direction :=
  match directionTable.kindOf c with
  | 'L' => .leftToRight
  | 'R' => .rightToLeft
  | 'A' => .arabicLetter
  | 'N' => .arabicNumber
  | 'E' => .europeanNumber
  | 'S' => .europeanSeparator
  | 'C' => .commonSeparator
  | 'T' => .europeanTerminator
  | 'O' => .otherNeutral
  | 'B' => .boundaryNeutral
  | 'M' => .nonspacing
  | _ => .excluded

end Unicode
end LinkFacts
