import LinkFacts.Unicode.Decomposition

/-!
# Canonical compositions

The pairs of characters that compose to one character.  Hangul syllables compose by calculation.
-/

namespace LinkFacts
namespace Unicode

/-- Runs that are no composite, `K`, and composites with their pair, `D`. -/
def compositionLines : List String :=
  ["c0K1,41,300D1,41,301D1,41,302D1,41,303D1,41,308D1,41,30aD1K1,43,327D1,45,300D1,45,301D1,45,3",
    "02D1,45,308D1,49,300D1,49,301D1,49,302D1,49,308D1K1,4e,303D1,4f,300D1,4f,301D1,4f,302D1,4f,3",
    "03D1,4f,308D2K1,55,300D1,55,301D1,55,302D1,55,308D1,59,301D2K1,61,300D1,61,301D1,61,302D1,61",
    ",303D1,61,308D1,61,30aD1K1,63,327D1,65,300D1,65,301D1,65,302D1,65,308D1,69,300D1,69,301D1,69",
    ",302D1,69,308D1K1,6e,303D1,6f,300D1,6f,301D1,6f,302D1,6f,303D1,6f,308D2K1,75,300D1,75,301D1,",
    "75,302D1,75,308D1,79,301D1K1,79,308D1,41,304D1,61,304D1,41,306D1,61,306D1,41,328D1,61,328D1,",
    "43,301D1,63,301D1,43,302D1,63,302D1,43,307D1,63,307D1,43,30cD1,63,30cD1,44,30cD1,64,30cD2K1,",
    "45,304D1,65,304D1,45,306D1,65,306D1,45,307D1,65,307D1,45,328D1,65,328D1,45,30cD1,65,30cD1,47",
    ",302D1,67,302D1,47,306D1,67,306D1,47,307D1,67,307D1,47,327D1,67,327D1,48,302D1,68,302D2K1,49",
    ",303D1,69,303D1,49,304D1,69,304D1,49,306D1,69,306D1,49,328D1,69,328D1,49,307D3K1,4a,302D1,6a",
    ",302D1,4b,327D1,6b,327D1K1,4c,301D1,6c,301D1,4c,327D1,6c,327D1,4c,30cD1,6c,30cD4K1,4e,301D1,",
    "6e,301D1,4e,327D1,6e,327D1,4e,30cD1,6e,30cD3K1,4f,304D1,6f,304D1,4f,306D1,6f,306D1,4f,30bD1,",
    "6f,30bD2K1,52,301D1,72,301D1,52,327D1,72,327D1,52,30cD1,72,30cD1,53,301D1,73,301D1,53,302D1,",
    "73,302D1,53,327D1,73,327D1,53,30cD1,73,30cD1,54,327D1,74,327D1,54,30cD1,74,30cD2K1,55,303D1,",
    "75,303D1,55,304D1,75,304D1,55,306D1,75,306D1,55,30aD1,75,30aD1,55,30bD1,75,30bD1,55,328D1,75",
    ",328D1,57,302D1,77,302D1,59,302D1,79,302D1,59,308D1,5a,301D1,7a,301D1,5a,307D1,7a,307D1,5a,3",
    "0cD1,7a,30cD21K1,4f,31bD1,6f,31bDdK1,55,31bD1,75,31bD1cK1,41,30cD1,61,30cD1,49,30cD1,69,30cD",
    "1,4f,30cD1,6f,30cD1,55,30cD1,75,30cD1,dc,304D1,fc,304D1,dc,301D1,fc,301D1,dc,30cD1,fc,30cD1,",
    "dc,300D1,fc,300D1K1,c4,304D1,e4,304D1,226,304D1,227,304D1,c6,304D1,e6,304D2K1,47,30cD1,67,30",
    "cD1,4b,30cD1,6b,30cD1,4f,328D1,6f,328D1,1ea,304D1,1eb,304D1,1b7,30cD1,292,30cD1,6a,30cD3K1,4",
    "7,301D1,67,301D2K1,4e,300D1,6e,300D1,c5,301D1,e5,301D1,c6,301D1,e6,301D1,d8,301D1,f8,301D1,4",
    "1,30fD1,61,30fD1,41,311D1,61,311D1,45,30fD1,65,30fD1,45,311D1,65,311D1,49,30fD1,69,30fD1,49,",
    "311D1,69,311D1,4f,30fD1,6f,30fD1,4f,311D1,6f,311D1,52,30fD1,72,30fD1,52,311D1,72,311D1,55,30",
    "fD1,75,30fD1,55,311D1,75,311D1,53,326D1,73,326D1,54,326D1,74,326D2K1,48,30cD1,68,30cD6K1,41,",
    "307D1,61,307D1,45,327D1,65,327D1,d6,304D1,f6,304D1,d5,304D1,f5,304D1,4f,307D1,6f,307D1,22e,3",
    "04D1,22f,304D1,59,304D1,79,304D151K1,a8,301D1,391,301D1K1,395,301D1,397,301D1,399,301D1K1,39",
    "f,301D1K1,3a5,301D1,3a9,301D1,3ca,301D19K1,399,308D1,3a5,308D1,3b1,301D1,3b5,301D1,3b7,301D1",
    ",3b9,301D1,3cb,301D19K1,3b9,308D1,3c5,308D1,3bf,301D1,3c5,301D1,3c9,301D4K1,3d2,301D1,3d2,30",
    "8D2bK1,415,300D1,415,308D1K1,413,301D3K1,406,308D4K1,41a,301D1,418,300D1,423,306DaK1,418,306",
    "D1fK1,438,306D16K1,435,300D1,435,308D1K1,433,301D3K1,456,308D4K1,43a,301D1,438,300D1,443,306",
    "D17K1,474,30fD1,475,30fD49K1,416,306D1,436,306DdK1,410,306D1,430,306D1,410,308D1,430,308D2K1",
    ",415,306D1,435,306D2K1,4d8,308D1,4d9,308D1,416,308D1,436,308D1,417,308D1,437,308D2K1,418,304",
    "D1,438,304D1,418,308D1,438,308D1,41e,308D1,43e,308D2K1,4e8,308D1,4e9,308D1,42d,308D1,44d,308",
    "D1,423,304D1,443,304D1,423,308D1,443,308D1,423,30bD1,443,30bD1,427,308D1,447,308D2K1,42b,308",
    "D1,44b,308D128K1,627,653D1,627,654D1,648,654D1,627,655D1,64a,654D99K1,6d5,654D1K1,6c1,654D10",
    "K1,6d2,654D255K1,928,93cD7K1,930,93cD2K1,933,93cD96K1,9c7,9beD1,9c7,9d7D17bK1,b47,b56D2K1,b4",
    "7,b3eD1,b47,b57D47K1,b92,bd7D35K1,bc6,bbeD1,bc7,bbeD1,bc6,bd7D7bK1,c46,c56D77K1,cbf,cd5D6K1,",
    "cc6,cd5D1,cc6,cd6D1K1,cc6,cc2D1,cca,cd5D7eK1,d46,d3eD1,d47,d3eD1,d46,d57D8dK1,dd9,dcaD1K1,dd",
    "9,dcfD1,ddc,dcaD1,dd9,ddfD247K1,1025,102eDadfK1,1b05,1b35D1K1,1b07,1b35D1K1,1b09,1b35D1K1,1b",
    "0b,1b35D1K1,1b0d,1b35D3K1,1b11,1b35D28K1,1b3a,1b35D1K1,1b3c,1b35D2K1,1b3e,1b35D1,1b3f,1b35D1",
    "K1,1b42,1b35D2bcK1,41,325D1,61,325D1,42,307D1,62,307D1,42,323D1,62,323D1,42,331D1,62,331D1,c",
    "7,301D1,e7,301D1,44,307D1,64,307D1,44,323D1,64,323D1,44,331D1,64,331D1,44,327D1,64,327D1,44,",
    "32dD1,64,32dD1,112,300D1,113,300D1,112,301D1,113,301D1,45,32dD1,65,32dD1,45,330D1,65,330D1,2",
    "28,306D1,229,306D1,46,307D1,66,307D1,47,304D1,67,304D1,48,307D1,68,307D1,48,323D1,68,323D1,4",
    "8,308D1,68,308D1,48,327D1,68,327D1,48,32eD1,68,32eD1,49,330D1,69,330D1,cf,301D1,ef,301D1,4b,",
    "301D1,6b,301D1,4b,323D1,6b,323D1,4b,331D1,6b,331D1,4c,323D1,6c,323D1,1e36,304D1,1e37,304D1,4",
    "c,331D1,6c,331D1,4c,32dD1,6c,32dD1,4d,301D1,6d,301D1,4d,307D1,6d,307D1,4d,323D1,6d,323D1,4e,",
    "307D1,6e,307D1,4e,323D1,6e,323D1,4e,331D1,6e,331D1,4e,32dD1,6e,32dD1,d5,301D1,f5,301D1,d5,30",
    "8D1,f5,308D1,14c,300D1,14d,300D1,14c,301D1,14d,301D1,50,301D1,70,301D1,50,307D1,70,307D1,52,",
    "307D1,72,307D1,52,323D1,72,323D1,1e5a,304D1,1e5b,304D1,52,331D1,72,331D1,53,307D1,73,307D1,5",
    "3,323D1,73,323D1,15a,307D1,15b,307D1,160,307D1,161,307D1,1e62,307D1,1e63,307D1,54,307D1,74,3",
    "07D1,54,323D1,74,323D1,54,331D1,74,331D1,54,32dD1,74,32dD1,55,324D1,75,324D1,55,330D1,75,330",
    "D1,55,32dD1,75,32dD1,168,301D1,169,301D1,16a,308D1,16b,308D1,56,303D1,76,303D1,56,323D1,76,3",
    "23D1,57,300D1,77,300D1,57,301D1,77,301D1,57,308D1,77,308D1,57,307D1,77,307D1,57,323D1,77,323",
    "D1,58,307D1,78,307D1,58,308D1,78,308D1,59,307D1,79,307D1,5a,302D1,7a,302D1,5a,323D1,7a,323D1",
    ",5a,331D1,7a,331D1,68,331D1,74,308D1,77,30aD1,79,30aD1K1,17f,307D4K1,41,323D1,61,323D1,41,30",
    "9D1,61,309D1,c2,301D1,e2,301D1,c2,300D1,e2,300D1,c2,309D1,e2,309D1,c2,303D1,e2,303D1,1ea0,30",
    "2D1,1ea1,302D1,102,301D1,103,301D1,102,300D1,103,300D1,102,309D1,103,309D1,102,303D1,103,303",
    "D1,1ea0,306D1,1ea1,306D1,45,323D1,65,323D1,45,309D1,65,309D1,45,303D1,65,303D1,ca,301D1,ea,3",
    "01D1,ca,300D1,ea,300D1,ca,309D1,ea,309D1,ca,303D1,ea,303D1,1eb8,302D1,1eb9,302D1,49,309D1,69",
    ",309D1,49,323D1,69,323D1,4f,323D1,6f,323D1,4f,309D1,6f,309D1,d4,301D1,f4,301D1,d4,300D1,f4,3",
    "00D1,d4,309D1,f4,309D1,d4,303D1,f4,303D1,1ecc,302D1,1ecd,302D1,1a0,301D1,1a1,301D1,1a0,300D1",
    ",1a1,300D1,1a0,309D1,1a1,309D1,1a0,303D1,1a1,303D1,1a0,323D1,1a1,323D1,55,323D1,75,323D1,55,",
    "309D1,75,309D1,1af,301D1,1b0,301D1,1af,300D1,1b0,300D1,1af,309D1,1b0,309D1,1af,303D1,1b0,303",
    "D1,1af,323D1,1b0,323D1,59,300D1,79,300D1,59,323D1,79,323D1,59,309D1,79,309D1,59,303D1,79,303",
    "D6K1,3b1,313D1,3b1,314D1,1f00,300D1,1f01,300D1,1f00,301D1,1f01,301D1,1f00,342D1,1f01,342D1,3",
    "91,313D1,391,314D1,1f08,300D1,1f09,300D1,1f08,301D1,1f09,301D1,1f08,342D1,1f09,342D1,3b5,313",
    "D1,3b5,314D1,1f10,300D1,1f11,300D1,1f10,301D1,1f11,301D2K1,395,313D1,395,314D1,1f18,300D1,1f",
    "19,300D1,1f18,301D1,1f19,301D2K1,3b7,313D1,3b7,314D1,1f20,300D1,1f21,300D1,1f20,301D1,1f21,3",
    "01D1,1f20,342D1,1f21,342D1,397,313D1,397,314D1,1f28,300D1,1f29,300D1,1f28,301D1,1f29,301D1,1",
    "f28,342D1,1f29,342D1,3b9,313D1,3b9,314D1,1f30,300D1,1f31,300D1,1f30,301D1,1f31,301D1,1f30,34",
    "2D1,1f31,342D1,399,313D1,399,314D1,1f38,300D1,1f39,300D1,1f38,301D1,1f39,301D1,1f38,342D1,1f",
    "39,342D1,3bf,313D1,3bf,314D1,1f40,300D1,1f41,300D1,1f40,301D1,1f41,301D2K1,39f,313D1,39f,314",
    "D1,1f48,300D1,1f49,300D1,1f48,301D1,1f49,301D2K1,3c5,313D1,3c5,314D1,1f50,300D1,1f51,300D1,1",
    "f50,301D1,1f51,301D1,1f50,342D1,1f51,342D1K1,3a5,314D1K1,1f59,300D1K1,1f59,301D1K1,1f59,342D",
    "1,3c9,313D1,3c9,314D1,1f60,300D1,1f61,300D1,1f60,301D1,1f61,301D1,1f60,342D1,1f61,342D1,3a9,",
    "313D1,3a9,314D1,1f68,300D1,1f69,300D1,1f68,301D1,1f69,301D1,1f68,342D1,1f69,342D1,3b1,300D1K",
    "1,3b5,300D1K1,3b7,300D1K1,3b9,300D1K1,3bf,300D1K1,3c5,300D1K1,3c9,300D3K1,1f00,345D1,1f01,34",
    "5D1,1f02,345D1,1f03,345D1,1f04,345D1,1f05,345D1,1f06,345D1,1f07,345D1,1f08,345D1,1f09,345D1,",
    "1f0a,345D1,1f0b,345D1,1f0c,345D1,1f0d,345D1,1f0e,345D1,1f0f,345D1,1f20,345D1,1f21,345D1,1f22",
    ",345D1,1f23,345D1,1f24,345D1,1f25,345D1,1f26,345D1,1f27,345D1,1f28,345D1,1f29,345D1,1f2a,345",
    "D1,1f2b,345D1,1f2c,345D1,1f2d,345D1,1f2e,345D1,1f2f,345D1,1f60,345D1,1f61,345D1,1f62,345D1,1",
    "f63,345D1,1f64,345D1,1f65,345D1,1f66,345D1,1f67,345D1,1f68,345D1,1f69,345D1,1f6a,345D1,1f6b,",
    "345D1,1f6c,345D1,1f6d,345D1,1f6e,345D1,1f6f,345D1,3b1,306D1,3b1,304D1,1f70,345D1,3b1,345D1,3",
    "ac,345D1K1,3b1,342D1,1fb6,345D1,391,306D1,391,304D1,391,300D1K1,391,345D4K1,a8,342D1,1f74,34",
    "5D1,3b7,345D1,3ae,345D1K1,3b7,342D1,1fc6,345D1,395,300D1K1,397,300D1K1,397,345D1,1fbf,300D1,",
    "1fbf,301D1,1fbf,342D1,3b9,306D1,3b9,304D1,3ca,300D3K1,3b9,342D1,3ca,342D1,399,306D1,399,304D",
    "1,399,300D2K1,1ffe,300D1,1ffe,301D1,1ffe,342D1,3c5,306D1,3c5,304D1,3cb,300D1K1,3c1,313D1,3c1",
    ",314D1,3c5,342D1,3cb,342D1,3a5,306D1,3a5,304D1,3a5,300D1K1,3a1,314D1,a8,300D4K1,1f7c,345D1,3",
    "c9,345D1,3ce,345D1K1,3c9,342D1,1ff6,345D1,39f,300D1K1,3a9,300D1K1,3a9,345D19dK1,2190,338D1,2",
    "192,338D12K1,2194,338D1eK1,21d0,338D1,21d4,338D1,21d2,338D34K1,2203,338D4K1,2208,338D2K1,220",
    "b,338D17K1,2223,338D1K1,2225,338D1aK1,223c,338D2K1,2243,338D2K1,2245,338D1K1,2248,338D16K1,3",
    "d,338D1K1,2261,338DaK1,224d,338D1,3c,338D1,3e,338D1,2264,338D1,2265,338D2K1,2272,338D1,2273,",
    "338D2K1,2276,338D1,2277,338D6K1,227a,338D1,227b,338D2K1,2282,338D1,2283,338D2K1,2286,338D1,2",
    "287,338D22K1,22a2,338D1,22a8,338D1,22a9,338D1,22ab,338D30K1,227c,338D1,227d,338D1,2291,338D1",
    ",2292,338D6K1,22b2,338D1,22b3,338D1,22b4,338D1,22b5,338Dd5eK1,304b,3099D1K1,304d,3099D1K1,30",
    "4f,3099D1K1,3051,3099D1K1,3053,3099D1K1,3055,3099D1K1,3057,3099D1K1,3059,3099D1K1,305b,3099D",
    "1K1,305d,3099D1K1,305f,3099D1K1,3061,3099D2K1,3064,3099D1K1,3066,3099D1K1,3068,3099D6K1,306f",
    ",3099D1,306f,309aD1K1,3072,3099D1,3072,309aD1K1,3075,3099D1,3075,309aD1K1,3078,3099D1,3078,3",
    "09aD1K1,307b,3099D1,307b,309aD16K1,3046,3099D9K1,309d,3099DdK1,30ab,3099D1K1,30ad,3099D1K1,3",
    "0af,3099D1K1,30b1,3099D1K1,30b3,3099D1K1,30b5,3099D1K1,30b7,3099D1K1,30b9,3099D1K1,30bb,3099",
    "D1K1,30bd,3099D1K1,30bf,3099D1K1,30c1,3099D2K1,30c4,3099D1K1,30c6,3099D1K1,30c8,3099D6K1,30c",
    "f,3099D1,30cf,309aD1K1,30d2,3099D1,30d2,309aD1K1,30d5,3099D1,30d5,309aD1K1,30d8,3099D1,30d8,",
    "309aD1K1,30db,3099D1,30db,309aD16K1,30a6,3099D2K1,30ef,3099D1,30f0,3099D1,30f1,3099D1,30f2,3",
    "099D3K1,30fd,3099Ddf9bK1,11099,110baD1K1,1109b,110baDeK1,110a5,110baD82K1,11131,11127D1,1113",
    "2,11127D21bK1,11347,1133eD1,11347,11357D16eK1,114b9,114baD1,114b9,114b0D1K1,114b9,114bdDfbK1",
    ",115b8,115afD1,115b9,115afD37cK1,11935,11930Dfe6c7K"]

/-- A pair of characters and the character that it composes to. -/
structure Composite where
  /-- The first of the pair. -/
  first : Nat
  /-- The second of the pair. -/
  second : Nat
  /-- The composed character. -/
  whole : Nat

/-- The stored pairs. -/
def composites : Array Composite :=
  (Table.ofLines compositionLines).runs.filterMap fun run =>
    match run.payload with
    | [first, second] => some ⟨first, second, run.first⟩
    | _ => none

/-- The character that two characters compose to. -/
def compose? (left right : Char) : Option Char :=
  let first := left.toNat
  let second := right.toNat
  if 0x1100 ≤ first ∧ first < 0x1113 ∧ 0x1161 ≤ second ∧ second < 0x1176 then
    some (Char.ofNat (hangulBase + ((first - 0x1100) * 21 + (second - 0x1161)) * 28))
  else if hangulBase ≤ first ∧ first < hangulBase + hangulCount ∧ (first - hangulBase) % 28 = 0 ∧
      0x11A8 ≤ second ∧ second < 0x11C3 then
    some (Char.ofNat (first + (second - 0x11A7)))
  else
    (composites.find? fun pair => pair.first = first ∧ pair.second = second).map
      fun pair => Char.ofNat pair.whole

end Unicode
end LinkFacts
