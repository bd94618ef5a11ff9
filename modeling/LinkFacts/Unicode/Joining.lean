import LinkFacts.Unicode.Table

/-!
# Joining types

How the letters of cursive scripts join their neighbours.
-/

namespace LinkFacts
namespace Unicode

/-- Runs of equal joining types; the letters are read by `joiningOf`. -/
def joiningLines : List String :=
  ["adU1T252U70T113U7T107U2dT1U1T1U2T1U2T1U1T48UbT1U1T3U1D1U4R1D1R1D1R5D4RdD1U7D1R2D15TeU2D1T3R1",
    "U3R10D12R26D1R2D9R1D1R1D1R2D2R1U1R7T2U6T2U2T1U4T2RaU3D2U1DfU1T1R1T3D5R4D1R9D1R1D1R1D1R2D1R1b",
    "T2U1RbD3RfD2R4D1R1D2R3D2R6D26UbT19U21D9T9U1T18U4T1U9T1U3T1U5T12U1R5D2R1D1RaD1R1D3R3T4U1D1U4D",
    "1U1R1D2R5U13R3U1D2U5D1R1D7U9TaD3R1U1R2D2R6D1RfD1U18T1U20T37U1T1U1T4U8T4U1T3U7TaU2T1dU1T3aU1T",
    "4U4T8U1T14U2T1aU1T2U2T39U1T4U2T4U2T2U3T3U1T1eU2T3U1TbU2T39U1T4U5T1U2T4U1T14U2T16U6T1U1T3aU1T",
    "2U1T1U4T8U1T7U2TbU2T1eU1T3dU1TcU1T32U1T3U1T37U1T1U3T5U3T1U4T7U2TbU2T1dU1T3aU1T2U1T6U1T5U2T14",
    "U2T1cU2T39U2T4U4T8U1T14U2T1dU1T48U1T7U3T1U1T5aU1T2U7TcU8T62U1T2U9TbU7T49U2T1bU1T1U1T1U1T37Ue",
    "T1U5T1U2T5UbT1U24T9U1T66U4T1U6T1U2T2U2T19U2T4U3T10U4TdU1T2U2T6U1TfU1T2bfU3T3b2U3T1dU2T1eU2T1",
    "eU2T40U2T1U7T8U1T2UbT9U1T29U1D3U3T1U1T10U59DcU2T22D1T1D75U3T4U2T9U1T6U3TdbU2T2U1T3aU1T1U7T1U",
    "1T1U1T2U8T6UaT2U1T30U2eT2UcT14U4T30U1T1U5T1U1T5U1T28U9TcU2T20U4T2U2T1U3T38U1T1U2T3U1T1U3T3aU",
    "8T2U2T98U3T1UdT1U7T4U1T6U1T3U2Tc6U40T20bU1T2U2T1aU5T31U5T5U6T60U21TbfeU3T8dU1T60U20T22aU4T6b",
    "U2T75d4U4T1UaT20U2T50U2T110U1T3U1T4U1T19U2T5U1T13U32D1L51U2T1aU12TdU1T26U8T19UbT2eU3T30U1T2U",
    "4T2U2T27U1T43U6T2U2T2U2TcU1T8U1T2fU1T33U1T1U3T2U2T5U2T1U1T2aU2T8U1TeeU1T2U1T4U1T4f30U1T2e1U1",
    "0T10U10TcfU1Tf9U3T201U1Te2U1T95U5T686U3T1U2T5U4T28U3T4U1T80U5D1R1U1R1U2R2U1L5R4D1L5D1R3D1R2U",
    "1R2T4U4D1R90U1D1R1D3R3D1R2D1R1D2R1D1R17U4R2D151U1L21D1R1D4T41U5T13dU2T15U1R2D1U2D32U6T30U3D1",
    "R11D1UbT3D1R1bU4D2RcD4T2aU1D1U2D3R1U1D2R2D1R2D1U1D2R1D4U1R1D1L35U1T36UfT29U1T2U2TaU3T31U4T2U",
    "2T7U1T3dU3T24U5T1U8T3eU1TcU2T34U9TaU4T2U1T5fU3T2U1T1U2T6U1T2U1T9dU1T3U8T15U2T39U2T3U1T25U7T3",
    "U5T46U6TdU1T1U1T1U1TeU2T55U8T2U3T1U1T17U1T54U6T1U1T4U2T1U2TeeU4T6U2T1U2T1bU2T55U8T2U1T1U2T6a",
    "U1T1U1T2U6T1U1T65U1T1U1T2U4T1U5T103U9T1U2T100U2T1U1T4U1T90U4T2U2T4U1T20UaT28U6T2U4T8U1T9U6T2",
    "U3T2eUdT1U2Tc6U1T1U3T1U1Tc9U7T1U6T1U1T52U16T2U7T1U2T1U2T7aU6T3U1T1U2T1U7T1U1T48U2T3U1T1U1T15",
    "bU2TbU2T34U5T5U1T1U1T17U1T14d5U11T6UfT2cc8UcT3U3T9c0U5T3bU7T418U1T3fU4T51U1T4cb8U2T1U4T125cU",
    "2eT2U17T220U3T9U10T2U7T1eU4T94U3T7bbU37T4U32T8U1TeU1T16U5T1UfT550U7T1U11T2U7T1U2T1U5T64U1Ta0",
    "U7T177U1T3dU4T1fcU4TfeU2Tf3U1T2U1T7U2T5U1T1daU7T29U44D8Tc16b5U1T1eU60T80Uf0T2fe10U"]

/-- The joining type of every code point. -/
def joiningTable : Table := Table.ofLines joiningLines

/-- How a character joins its neighbours. -/
inductive Joining where
  /-- It joins what comes before it. -/
  | toLeft
  /-- It joins what comes after it. -/
  | toRight
  /-- It joins on both sides. -/
  | dual
  /-- Joining passes through it. -/
  | transparent
  /-- It does not join. -/
  | none
  deriving DecidableEq, Repr

/-- The joining type of a character. -/
def joiningOf (c : Char) : Joining :=
  match joiningTable.kindOf c with
  | 'L' => .toLeft
  | 'R' => .toRight
  | 'D' => .dual
  | 'T' => .transparent
  | _ => .none

end Unicode
end LinkFacts
