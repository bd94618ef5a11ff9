import LinkFacts.Unicode.Table

/-!
# Canonical decompositions

The full canonical decomposition of every character except Hangul syllables, which are
decomposed by calculation.
-/

namespace LinkFacts
namespace Unicode

/-- Runs without decomposition, `K`, single characters with their decomposition, `D`, and runs
of neighbours that decompose to neighbours, also `D`. -/
def decompositionLines : List String :=
  ["c0K1,41,300D1,41,301D1,41,302D1,41,303D1,41,308D1,41,30aD1K1,43,327D1,45,300D1,45,301D1,45,3",
    "02D1,45,308D1,49,300D1,49,301D1,49,302D1,49,308D1K1,4e,303D1,4f,300D1,4f,301D1,4f,302D1,4f,3",
    "03D1,4f,308D2K1,55,300D1,55,301D1,55,302D1,55,308D1,59,301D2K1,61,300D1,61,301D1,61,302D1,61",
    ",303D1,61,308D1,61,30aD1K1,63,327D1,65,300D1,65,301D1,65,302D1,65,308D1,69,300D1,69,301D1,69",
    ",302D1,69,308D1K1,6e,303D1,6f,300D1,6f,301D1,6f,302D1,6f,303D1,6f,308D2K1,75,300D1,75,301D1,",
    "75,302D1,75,308D1,79,301D1K1,79,308D1,41,304D1,61,304D1,41,306D1,61,306D1,41,328D1,61,328D1,",
    "43,301D1,63,301D1,43,302D1,63,302D1,43,307D1,63,307D1,43,30cD1,63,30cD1,44,30cD1,64,30cD2K1,",
    "45,304D1,65,304D1,45,306D1,65,306D1,45,307D1,65,307D1,45,328D1,65,328D1,45,30cD1,65,30cD1,47",
    ",302D1,67,302D1,47,306D1,67,306D1,47,307D1,67,307D1,47,327D1,67,327D1,48,302D1,68,302D2K1,49",
    ",303D1,69,303D1,49,304D1,69,304D1,49,306D1,69,306D1,49,328D1,69,328D1,49,307D3K1,4a,302D1,6a",
    ",302D1,4b,327D1,6b,327D1K1,4c,301D1,6c,301D1,4c,327D1,6c,327D1,4c,30cD1,6c,30cD4K1,4e,301D1,",
    "6e,301D1,4e,327D1,6e,327D1,4e,30cD1,6e,30cD3K1,4f,304D1,6f,304D1,4f,306D1,6f,306D1,4f,30bD1,",
    "6f,30bD2K1,52,301D1,72,301D1,52,327D1,72,327D1,52,30cD1,72,30cD1,53,301D1,73,301D1,53,302D1,",
    "73,302D1,53,327D1,73,327D1,53,30cD1,73,30cD1,54,327D1,74,327D1,54,30cD1,74,30cD2K1,55,303D1,",
    "75,303D1,55,304D1,75,304D1,55,306D1,75,306D1,55,30aD1,75,30aD1,55,30bD1,75,30bD1,55,328D1,75",
    ",328D1,57,302D1,77,302D1,59,302D1,79,302D1,59,308D1,5a,301D1,7a,301D1,5a,307D1,7a,307D1,5a,3",
    "0cD1,7a,30cD21K1,4f,31bD1,6f,31bDdK1,55,31bD1,75,31bD1cK1,41,30cD1,61,30cD1,49,30cD1,69,30cD",
    "1,4f,30cD1,6f,30cD1,55,30cD1,75,30cD1,55,308,304D1,75,308,304D1,55,308,301D1,75,308,301D1,55",
    ",308,30cD1,75,308,30cD1,55,308,300D1,75,308,300D1K1,41,308,304D1,61,308,304D1,41,307,304D1,6",
    "1,307,304D1,c6,304D1,e6,304D2K1,47,30cD1,67,30cD1,4b,30cD1,6b,30cD1,4f,328D1,6f,328D1,4f,328",
    ",304D1,6f,328,304D1,1b7,30cD1,292,30cD1,6a,30cD3K1,47,301D1,67,301D2K1,4e,300D1,6e,300D1,41,",
    "30a,301D1,61,30a,301D1,c6,301D1,e6,301D1,d8,301D1,f8,301D1,41,30fD1,61,30fD1,41,311D1,61,311",
    "D1,45,30fD1,65,30fD1,45,311D1,65,311D1,49,30fD1,69,30fD1,49,311D1,69,311D1,4f,30fD1,6f,30fD1",
    ",4f,311D1,6f,311D1,52,30fD1,72,30fD1,52,311D1,72,311D1,55,30fD1,75,30fD1,55,311D1,75,311D1,5",
    "3,326D1,73,326D1,54,326D1,74,326D2K1,48,30cD1,68,30cD6K1,41,307D1,61,307D1,45,327D1,65,327D1",
    ",4f,308,304D1,6f,308,304D1,4f,303,304D1,6f,303,304D1,4f,307D1,6f,307D1,4f,307,304D1,6f,307,3",
    "04D1,59,304D1,79,304D10cK2,300D1K1,313D1,308,301D2fK1,2b9D9K1,3bD6K1,a8,301D1,391,301D1,b7D1",
    ",395,301D1,397,301D1,399,301D1K1,39f,301D1K1,3a5,301D1,3a9,301D1,3b9,308,301D19K1,399,308D1,",
    "3a5,308D1,3b1,301D1,3b5,301D1,3b7,301D1,3b9,301D1,3c5,308,301D19K1,3b9,308D1,3c5,308D1,3bf,3",
    "01D1,3c5,301D1,3c9,301D4K1,3d2,301D1,3d2,308D2bK1,415,300D1,415,308D1K1,413,301D3K1,406,308D",
    "4K1,41a,301D1,418,300D1,423,306DaK1,418,306D1fK1,438,306D16K1,435,300D1,435,308D1K1,433,301D",
    "3K1,456,308D4K1,43a,301D1,438,300D1,443,306D17K1,474,30fD1,475,30fD49K1,416,306D1,436,306DdK",
    "1,410,306D1,430,306D1,410,308D1,430,308D2K1,415,306D1,435,306D2K1,4d8,308D1,4d9,308D1,416,30",
    "8D1,436,308D1,417,308D1,437,308D2K1,418,304D1,438,304D1,418,308D1,438,308D1,41e,308D1,43e,30",
    "8D2K1,4e8,308D1,4e9,308D1,42d,308D1,44d,308D1,423,304D1,443,304D1,423,308D1,443,308D1,423,30",
    "bD1,443,30bD1,427,308D1,447,308D2K1,42b,308D1,44b,308D128K1,627,653D1,627,654D1,648,654D1,62",
    "7,655D1,64a,654D99K1,6d5,654D1K1,6c1,654D10K1,6d2,654D255K1,928,93cD7K1,930,93cD2K1,933,93cD",
    "23K1,915,93cD1,916,93cD1,917,93cD1,91c,93cD1,921,93cD1,922,93cD1,92b,93cD1,92f,93cD6bK1,9c7,",
    "9beD1,9c7,9d7DfK1,9a1,9bcD1,9a2,9bcD1K1,9af,9bcD53K1,a32,a3cD2K1,a38,a3cD22K1,a16,a3cD1,a17,",
    "a3cD1,a1c,a3cD2K1,a2b,a3cDe9K1,b47,b56D2K1,b47,b3eD1,b47,b57DfK1,b21,b3cD1,b22,b3cD36K1,b92,",
    "bd7D35K1,bc6,bbeD1,bc7,bbeD1,bc6,bd7D7bK1,c46,c56D77K1,cbf,cd5D6K1,cc6,cd5D1,cc6,cd6D1K1,cc6",
    ",cc2D1,cc6,cc2,cd5D7eK1,d46,d3eD1,d47,d3eD1,d46,d57D8dK1,dd9,dcaD1K1,dd9,dcfD1,dd9,dcf,dcaD1",
    ",dd9,ddfD164K1,f42,fb7D9K1,f4c,fb7D4K1,f51,fb7D4K1,f56,fb7D4K1,f5b,fb7DcK1,f40,fb5D9K1,f71,f",
    "72D1K1,f71,f74D1,fb2,f80D1K1,fb3,f80D8K1,f71,f80D11K1,f92,fb7D9K1,f9c,fb7D4K1,fa1,fb7D4K1,fa",
    "6,fb7D4K1,fab,fb7DcK1,f90,fb5D6cK1,1025,102eDadfK1,1b05,1b35D1K1,1b07,1b35D1K1,1b09,1b35D1K1",
    ",1b0b,1b35D1K1,1b0d,1b35D3K1,1b11,1b35D28K1,1b3a,1b35D1K1,1b3c,1b35D2K1,1b3e,1b35D1,1b3f,1b3",
    "5D1K1,1b42,1b35D2bcK1,41,325D1,61,325D1,42,307D1,62,307D1,42,323D1,62,323D1,42,331D1,62,331D",
    "1,43,327,301D1,63,327,301D1,44,307D1,64,307D1,44,323D1,64,323D1,44,331D1,64,331D1,44,327D1,6",
    "4,327D1,44,32dD1,64,32dD1,45,304,300D1,65,304,300D1,45,304,301D1,65,304,301D1,45,32dD1,65,32",
    "dD1,45,330D1,65,330D1,45,327,306D1,65,327,306D1,46,307D1,66,307D1,47,304D1,67,304D1,48,307D1",
    ",68,307D1,48,323D1,68,323D1,48,308D1,68,308D1,48,327D1,68,327D1,48,32eD1,68,32eD1,49,330D1,6",
    "9,330D1,49,308,301D1,69,308,301D1,4b,301D1,6b,301D1,4b,323D1,6b,323D1,4b,331D1,6b,331D1,4c,3",
    "23D1,6c,323D1,4c,323,304D1,6c,323,304D1,4c,331D1,6c,331D1,4c,32dD1,6c,32dD1,4d,301D1,6d,301D",
    "1,4d,307D1,6d,307D1,4d,323D1,6d,323D1,4e,307D1,6e,307D1,4e,323D1,6e,323D1,4e,331D1,6e,331D1,",
    "4e,32dD1,6e,32dD1,4f,303,301D1,6f,303,301D1,4f,303,308D1,6f,303,308D1,4f,304,300D1,6f,304,30",
    "0D1,4f,304,301D1,6f,304,301D1,50,301D1,70,301D1,50,307D1,70,307D1,52,307D1,72,307D1,52,323D1",
    ",72,323D1,52,323,304D1,72,323,304D1,52,331D1,72,331D1,53,307D1,73,307D1,53,323D1,73,323D1,53",
    ",301,307D1,73,301,307D1,53,30c,307D1,73,30c,307D1,53,323,307D1,73,323,307D1,54,307D1,74,307D",
    "1,54,323D1,74,323D1,54,331D1,74,331D1,54,32dD1,74,32dD1,55,324D1,75,324D1,55,330D1,75,330D1,",
    "55,32dD1,75,32dD1,55,303,301D1,75,303,301D1,55,304,308D1,75,304,308D1,56,303D1,76,303D1,56,3",
    "23D1,76,323D1,57,300D1,77,300D1,57,301D1,77,301D1,57,308D1,77,308D1,57,307D1,77,307D1,57,323",
    "D1,77,323D1,58,307D1,78,307D1,58,308D1,78,308D1,59,307D1,79,307D1,5a,302D1,7a,302D1,5a,323D1",
    ",7a,323D1,5a,331D1,7a,331D1,68,331D1,74,308D1,77,30aD1,79,30aD1K1,17f,307D4K1,41,323D1,61,32",
    "3D1,41,309D1,61,309D1,41,302,301D1,61,302,301D1,41,302,300D1,61,302,300D1,41,302,309D1,61,30",
    "2,309D1,41,302,303D1,61,302,303D1,41,323,302D1,61,323,302D1,41,306,301D1,61,306,301D1,41,306",
    ",300D1,61,306,300D1,41,306,309D1,61,306,309D1,41,306,303D1,61,306,303D1,41,323,306D1,61,323,",
    "306D1,45,323D1,65,323D1,45,309D1,65,309D1,45,303D1,65,303D1,45,302,301D1,65,302,301D1,45,302",
    ",300D1,65,302,300D1,45,302,309D1,65,302,309D1,45,302,303D1,65,302,303D1,45,323,302D1,65,323,",
    "302D1,49,309D1,69,309D1,49,323D1,69,323D1,4f,323D1,6f,323D1,4f,309D1,6f,309D1,4f,302,301D1,6",
    "f,302,301D1,4f,302,300D1,6f,302,300D1,4f,302,309D1,6f,302,309D1,4f,302,303D1,6f,302,303D1,4f",
    ",323,302D1,6f,323,302D1,4f,31b,301D1,6f,31b,301D1,4f,31b,300D1,6f,31b,300D1,4f,31b,309D1,6f,",
    "31b,309D1,4f,31b,303D1,6f,31b,303D1,4f,31b,323D1,6f,31b,323D1,55,323D1,75,323D1,55,309D1,75,",
    "309D1,55,31b,301D1,75,31b,301D1,55,31b,300D1,75,31b,300D1,55,31b,309D1,75,31b,309D1,55,31b,3",
    "03D1,75,31b,303D1,55,31b,323D1,75,31b,323D1,59,300D1,79,300D1,59,323D1,79,323D1,59,309D1,79,",
    "309D1,59,303D1,79,303D6K1,3b1,313D1,3b1,314D1,3b1,313,300D1,3b1,314,300D1,3b1,313,301D1,3b1,",
    "314,301D1,3b1,313,342D1,3b1,314,342D1,391,313D1,391,314D1,391,313,300D1,391,314,300D1,391,31",
    "3,301D1,391,314,301D1,391,313,342D1,391,314,342D1,3b5,313D1,3b5,314D1,3b5,313,300D1,3b5,314,",
    "300D1,3b5,313,301D1,3b5,314,301D2K1,395,313D1,395,314D1,395,313,300D1,395,314,300D1,395,313,",
    "301D1,395,314,301D2K1,3b7,313D1,3b7,314D1,3b7,313,300D1,3b7,314,300D1,3b7,313,301D1,3b7,314,",
    "301D1,3b7,313,342D1,3b7,314,342D1,397,313D1,397,314D1,397,313,300D1,397,314,300D1,397,313,30",
    "1D1,397,314,301D1,397,313,342D1,397,314,342D1,3b9,313D1,3b9,314D1,3b9,313,300D1,3b9,314,300D",
    "1,3b9,313,301D1,3b9,314,301D1,3b9,313,342D1,3b9,314,342D1,399,313D1,399,314D1,399,313,300D1,",
    "399,314,300D1,399,313,301D1,399,314,301D1,399,313,342D1,399,314,342D1,3bf,313D1,3bf,314D1,3b",
    "f,313,300D1,3bf,314,300D1,3bf,313,301D1,3bf,314,301D2K1,39f,313D1,39f,314D1,39f,313,300D1,39",
    "f,314,300D1,39f,313,301D1,39f,314,301D2K1,3c5,313D1,3c5,314D1,3c5,313,300D1,3c5,314,300D1,3c",
    "5,313,301D1,3c5,314,301D1,3c5,313,342D1,3c5,314,342D1K1,3a5,314D1K1,3a5,314,300D1K1,3a5,314,",
    "301D1K1,3a5,314,342D1,3c9,313D1,3c9,314D1,3c9,313,300D1,3c9,314,300D1,3c9,313,301D1,3c9,314,",
    "301D1,3c9,313,342D1,3c9,314,342D1,3a9,313D1,3a9,314D1,3a9,313,300D1,3a9,314,300D1,3a9,313,30",
    "1D1,3a9,314,301D1,3a9,313,342D1,3a9,314,342D1,3b1,300D1,3b1,301D1,3b5,300D1,3b5,301D1,3b7,30",
    "0D1,3b7,301D1,3b9,300D1,3b9,301D1,3bf,300D1,3bf,301D1,3c5,300D1,3c5,301D1,3c9,300D1,3c9,301D",
    "2K1,3b1,313,345D1,3b1,314,345D1,3b1,313,300,345D1,3b1,314,300,345D1,3b1,313,301,345D1,3b1,31",
    "4,301,345D1,3b1,313,342,345D1,3b1,314,342,345D1,391,313,345D1,391,314,345D1,391,313,300,345D",
    "1,391,314,300,345D1,391,313,301,345D1,391,314,301,345D1,391,313,342,345D1,391,314,342,345D1,",
    "3b7,313,345D1,3b7,314,345D1,3b7,313,300,345D1,3b7,314,300,345D1,3b7,313,301,345D1,3b7,314,30",
    "1,345D1,3b7,313,342,345D1,3b7,314,342,345D1,397,313,345D1,397,314,345D1,397,313,300,345D1,39",
    "7,314,300,345D1,397,313,301,345D1,397,314,301,345D1,397,313,342,345D1,397,314,342,345D1,3c9,",
    "313,345D1,3c9,314,345D1,3c9,313,300,345D1,3c9,314,300,345D1,3c9,313,301,345D1,3c9,314,301,34",
    "5D1,3c9,313,342,345D1,3c9,314,342,345D1,3a9,313,345D1,3a9,314,345D1,3a9,313,300,345D1,3a9,31",
    "4,300,345D1,3a9,313,301,345D1,3a9,314,301,345D1,3a9,313,342,345D1,3a9,314,342,345D1,3b1,306D",
    "1,3b1,304D1,3b1,300,345D1,3b1,345D1,3b1,301,345D1K1,3b1,342D1,3b1,342,345D1,391,306D1,391,30",
    "4D1,391,300D1,391,301D1,391,345D1K1,3b9D2K1,a8,342D1,3b7,300,345D1,3b7,345D1,3b7,301,345D1K1",
    ",3b7,342D1,3b7,342,345D1,395,300D1,395,301D1,397,300D1,397,301D1,397,345D1,1fbf,300D1,1fbf,3",
    "01D1,1fbf,342D1,3b9,306D1,3b9,304D1,3b9,308,300D1,3b9,308,301D2K1,3b9,342D1,3b9,308,342D1,39",
    "9,306D1,399,304D1,399,300D1,399,301D1K1,1ffe,300D1,1ffe,301D1,1ffe,342D1,3c5,306D1,3c5,304D1",
    ",3c5,308,300D1,3c5,308,301D1,3c1,313D1,3c1,314D1,3c5,342D1,3c5,308,342D1,3a5,306D1,3a5,304D1",
    ",3a5,300D1,3a5,301D1,3a1,314D1,a8,300D1,a8,301D1,60D2K1,3c9,300,345D1,3c9,345D1,3c9,301,345D",
    "1K1,3c9,342D1,3c9,342,345D1,39f,300D1,39f,301D1,3a9,300D1,3a9,301D1,3a9,345D1,b4D2K2,2002D12",
    "4K1,3a9D3K1,4bD1,41,30aD6eK1,2190,338D1,2192,338D12K1,2194,338D1eK1,21d0,338D1,21d4,338D1,21",
    "d2,338D34K1,2203,338D4K1,2208,338D2K1,220b,338D17K1,2223,338D1K1,2225,338D1aK1,223c,338D2K1,",
    "2243,338D2K1,2245,338D1K1,2248,338D16K1,3d,338D1K1,2261,338DaK1,224d,338D1,3c,338D1,3e,338D1",
    ",2264,338D1,2265,338D2K1,2272,338D1,2273,338D2K1,2276,338D1,2277,338D6K1,227a,338D1,227b,338",
    "D2K1,2282,338D1,2283,338D2K1,2286,338D1,2287,338D22K1,22a2,338D1,22a8,338D1,22a9,338D1,22ab,",
    "338D30K1,227c,338D1,227d,338D1,2291,338D1,2292,338D6K1,22b2,338D1,22b3,338D1,22b4,338D1,22b5",
    ",338D3bK2,3008D7b1K1,2add,338D56fK1,304b,3099D1K1,304d,3099D1K1,304f,3099D1K1,3051,3099D1K1,",
    "3053,3099D1K1,3055,3099D1K1,3057,3099D1K1,3059,3099D1K1,305b,3099D1K1,305d,3099D1K1,305f,309",
    "9D1K1,3061,3099D2K1,3064,3099D1K1,3066,3099D1K1,3068,3099D6K1,306f,3099D1,306f,309aD1K1,3072",
    ",3099D1,3072,309aD1K1,3075,3099D1,3075,309aD1K1,3078,3099D1,3078,309aD1K1,307b,3099D1,307b,3",
    "09aD16K1,3046,3099D9K1,309d,3099DdK1,30ab,3099D1K1,30ad,3099D1K1,30af,3099D1K1,30b1,3099D1K1",
    ",30b3,3099D1K1,30b5,3099D1K1,30b7,3099D1K1,30b9,3099D1K1,30bb,3099D1K1,30bd,3099D1K1,30bf,30",
    "99D1K1,30c1,3099D2K1,30c4,3099D1K1,30c6,3099D1K1,30c8,3099D6K1,30cf,3099D1,30cf,309aD1K1,30d",
    "2,3099D1,30d2,309aD1K1,30d5,3099D1,30d5,309aD1K1,30d8,3099D1,30d8,309aD1K1,30db,3099D1,30db,",
    "309aD16K1,30a6,3099D2K1,30ef,3099D1,30f0,3099D1,30f1,3099D1,30f2,3099D3K1,30fd,3099Dc801K1,8",
    "c48D1,66f4D1,8ecaD1,8cc8D1,6ed1D1,4e32D1,53e5D1,9f9cD1,9f9cD1,5951D1,91d1D1,5587D1,5948D1,61",
    "f6D1,7669D1,7f85D1,863fD1,87baD1,88f8D1,908fD1,6a02D1,6d1bD1,70d9D1,73deD1,843dD1,916aD1,99f",
    "1D1,4e82D1,5375D1,6b04D1,721bD1,862dD1,9e1eD1,5d50D1,6febD1,85cdD1,8964D1,62c9D1,81d8D1,881f",
    "D1,5ecaD1,6717D1,6d6aD1,72fcD1,90ceD1,4f86D1,51b7D1,52deD1,64c4D1,6ad3D1,7210D1,76e7D1,8001D",
    "1,8606D1,865cD1,8defD1,9732D1,9b6fD1,9dfaD1,788cD1,797fD1,7da0D1,83c9D1,9304D1,9e7fD1,8ad6D1",
    ",58dfD1,5f04D1,7c60D1,807eD1,7262D1,78caD1,8cc2D1,96f7D1,58d8D1,5c62D1,6a13D1,6ddaD1,6f0fD1,",
    "7d2fD1,7e37D1,964bD1,52d2D1,808bD1,51dcD1,51ccD1,7a1cD1,7dbeD1,83f1D1,9675D1,8b80D1,62cfD1,6",
    "a02D1,8afeD1,4e39D1,5be7D1,6012D1,7387D1,7570D1,5317D1,78fbD1,4fbfD1,5fa9D1,4e0dD1,6cccD1,65",
    "78D1,7d22D1,53c3D1,585eD1,7701D1,8449D1,8aaaD1,6bbaD1,8fb0D1,6c88D1,62feD1,82e5D1,63a0D1,756",
    "5D1,4eaeD1,5169D1,51c9D1,6881D1,7ce7D1,826fD1,8ad2D1,91cfD1,52f5D1,5442D1,5973D1,5eecD1,65c5",
    "D1,6ffeD1,792aD1,95adD1,9a6aD1,9e97D1,9eceD1,529bD1,66c6D1,6b77D1,8f62D1,5e74D1,6190D1,6200D",
    "1,649aD1,6f23D1,7149D1,7489D1,79caD1,7df4D1,806fD1,8f26D1,84eeD1,9023D1,934aD1,5217D1,52a3D1",
    ",54bdD1,70c8D1,88c2D1,8aaaD1,5ec9D1,5ff5D1,637bD1,6baeD1,7c3eD1,7375D1,4ee4D1,56f9D1,5be7D1,",
    "5dbaD1,601cD1,73b2D1,7469D1,7f9aD1,8046D1,9234D1,96f6D1,9748D1,9818D1,4f8bD1,79aeD1,91b4D1,9",
    "6b8D1,60e1D1,4e86D1,50daD1,5beeD1,5c3fD1,6599D1,6a02D1,71ceD1,7642D1,84fcD1,907cD1,9f8dD1,66",
    "88D1,962eD1,5289D1,677bD1,67f3D1,6d41D1,6e9cD1,7409D1,7559D1,786bD1,7d10D1,985eD1,516dD1,622",
    "eD1,9678D1,502bD1,5d19D1,6deaD1,8f2aD1,5f8bD1,6144D1,6817D1,7387D1,9686D1,5229D1,540fD1,5c65",
    "D1,6613D1,674eD1,68a8D1,6ce5D1,7406D1,75e2D1,7f79D1,88cfD1,88e1D1,91ccD1,96e2D1,533fD1,6ebaD",
    "1,541dD1,71d0D1,7498D1,85faD1,96a3D1,9c57D1,9e9fD1,6797D1,6dcbD1,81e8D1,7acbD1,7b20D1,7c92D1",
    ",72c0D1,7099D1,8b58D1,4ec0D1,8336D1,523aD1,5207D1,5ea6D1,62d3D1,7cd6D1,5b85D1,6d1eD1,66b4D1,",
    "8f3bD1,884cD1,964dD1,898bD1,5ed3D1,5140D1,55c0D2K1,585aD1K1,6674D2K1,51deD1,732aD1,76caD1,79",
    "3cD1,795eD1,7965D1,798fD1,9756D1,7cbeD1,7fbdD1K1,8612D1K1,8af8D2K1,9038D1,90fdD3K1,98efD1,98",
    "fcD1,9928D1,9db4D1,90deD1,96b7D1,4faeD1,50e7D1,514dD1,52c9D1,52e4D1,5351D1,559dD1,5606D1,566",
    "8D1,5840D1,58a8D1,5c64D1,5c6eD1,6094D1,6168D1,618eD1,61f2D1,654fD1,65e2D1,6691D1,6885D1,6d77",
    "D1,6e1aD1,6f22D1,716eD1,722bD1,7422D1,7891D1,793eD1,7949D1,7948D1,7950D1,7956D1,795dD2,798dD",
    "1,7a40D1,7a81D1,7bc0D1,7df4D1,7e09D1,7e41D1,7f72D1,8005D1,81edD1,8279D1,8279D1,8457D1,8910D1",
    ",8996D1,8b01D1,8b39D1,8cd3D1,8d08D1,8fb6D1,9038D1,96e3D1,97ffD1,983bD1,6075D1,242eeD1,8218D2",
    "K1,4e26D1,51b5D1,5168D1,4f80D1,5145D1,5180D1,52c7D1,52faD1,559dD1,5555D1,5599D1,55e2D1,585aD",
    "1,58b3D1,5944D1,5954D1,5a62D1,5b28D1,5ed2D1,5ed9D1,5f69D1,5fadD1,60d8D1,614eD1,6108D1,618eD1",
    ",6160D1,61f2D1,6234D1,63c4D1,641cD1,6452D1,6556D1,6674D1,6717D1,671bD1,6756D1,6b79D1,6bbaD1,",
    "6d41D1,6edbD1,6ecbD1,6f22D1,701eD1,716eD1,77a7D1,7235D1,72afD1,732aD1,7471D1,7506D1,753bD1,7",
    "61dD1,761fD1,76caD1,76dbD1,76f4D1,774aD1,7740D1,78ccD1,7ab1D1,7bc0D1,7c7bD1,7d5bD1,7df4D1,7f",
    "3eD1,8005D1,8352D1,83efD1,8779D1,8941D1,8986D1,8996D1,8abfD1,8af8D1,8acbD1,8b01D1,8afeD1,8ae",
    "dD1,8b39D1,8b8aD1,8d08D1,8f38D1,9072D1,9199D1,9276D1,967cD1,96e3D1,9756D1,97dbD1,97ffD1,980b",
    "D1,983bD1,9b12D1,9f9cD1,2284aD1,22844D1,233d5D1,3b9dD1,4018D1,4039D1,25249D1,25cd0D1,27ed3D1",
    ",9f43D1,9f8eD43K1,5d9,5b4D1K1,5f2,5b7DaK1,5e9,5c1D1,5e9,5c2D1,5e9,5bc,5c1D1,5e9,5bc,5c2D1,5d",
    "0,5b7D1,5d0,5b8D1,5d0,5bcD1,5d1,5bcD1,5d2,5bcD1,5d3,5bcD1,5d4,5bcD1,5d5,5bcD1,5d6,5bcD1K1,5d",
    "8,5bcD1,5d9,5bcD1,5da,5bcD1,5db,5bcD1,5dc,5bcD1K1,5de,5bcD1K1,5e0,5bcD1,5e1,5bcD1K1,5e3,5bcD",
    "1,5e4,5bcD1K1,5e6,5bcD1,5e7,5bcD1,5e8,5bcD1,5e9,5bcD1,5ea,5bcD1,5d5,5b9D1,5d1,5bfD1,5db,5bfD",
    "1,5e4,5bfD154bK1,11099,110baD1K1,1109b,110baDeK1,110a5,110baD82K1,11131,11127D1,11132,11127D",
    "21bK1,11347,1133eD1,11347,11357D16eK1,114b9,114baD1,114b9,114b0D1K1,114b9,114bdDfbK1,115b8,1",
    "15afD1,115b9,115afD37cK1,11935,11930Db825K1,1d157,1d165D1,1d158,1d165D1,1d158,1d165,1d16eD1,",
    "1d158,1d165,1d16fD1,1d158,1d165,1d170D1,1d158,1d165,1d171D1,1d158,1d165,1d172D56K1,1d1b9,1d1",
    "65D1,1d1ba,1d165D1,1d1b9,1d165,1d16eD1,1d1ba,1d165,1d16eD1,1d1b9,1d165,1d16fD1,1d1ba,1d165,1",
    "d16fD1263fK1,4e3dD1,4e38D1,4e41D1,20122D1,4f60D1,4faeD1,4fbbD1,5002D1,507aD1,5099D1,50e7D1,5",
    "0cfD1,349eD1,2063aD1,514dD1,5154D1,5164D1,5177D1,2051cD1,34b9D1,5167D1,518dD1,2054bD1,5197D1",
    ",51a4D1,4eccD1,51acD1,51b5D1,291dfD1,51f5D1,5203D1,34dfD1,523bD1,5246D1,5272D1,5277D1,3515D1",
    ",52c7D1,52c9D1,52e4D1,52faD2,5305D1,5317D1,5349D1,5351D1,535aD1,5373D1,537dD1,537fD1,537fD1,",
    "537fD1,20a2cD1,7070D1,53caD1,53dfD1,20b63D1,53ebD1,53f1D1,5406D1,549eD1,5438D1,5448D1,5468D1",
    ",54a2D1,54f6D1,5510D1,5553D1,5563D1,5584D1,5584D1,5599D1,55abD1,55b3D1,55c2D1,5716D1,5606D1,",
    "5717D1,5651D1,5674D1,5207D1,58eeD1,57ceD1,57f4D1,580dD1,578bD1,5832D1,5831D1,58acD1,214e4D1,",
    "58f2D1,58f7D1,5906D1,591aD1,5922D1,5962D1,216a8D1,216eaD1,59ecD1,5a1bD1,5a27D1,59d8D1,5a66D1",
    ",36eeD1,36fcD1,5b08D1,5b3eD1,5b3eD1,219c8D1,5bc3D1,5bd8D1,5be7D1,5bf3D1,21b18D1,5bffD1,5c06D",
    "1,5f53D1,5c22D1,3781D1,5c60D1,5c6eD1,5cc0D1,5c8dD1,21de4D1,5d43D1,21de6D1,5d6eD1,5d6bD1,5d7c",
    "D2,5de1D1,382fD1,5dfdD1,5e28D1,5e3dD1,5e69D1,3862D1,22183D1,387cD1,5eb0D1,5eb3D1,5eb6D1,5eca",
    "D1,2a392D1,5efeD1,22331D1,22331D1,8201D1,5f22D1,5f22D1,38c7D1,232b8D1,261daD1,5f62D1,5f6bD1,",
    "38e3D1,5f9aD1,5fcdD1,5fd7D1,5ff9D1,6081D1,393aD1,391cD1,6094D1,226d4D1,60c7D1,6148D1,614cD1,",
    "614eD1,614cD1,617aD1,618eD1,61b2D1,61a4D1,61afD1,61deD1,61f2D1,61f6D1,6210D1,621bD1,625dD1,6",
    "2b1D1,62d4D1,6350D1,22b0cD1,633dD1,62fcD1,6368D1,6383D1,63e4D1,22bf1D1,6422D1,63c5D1,63a9D1,",
    "3a2eD1,6469D1,647eD1,649dD1,6477D1,3a6cD1,654fD1,656cD1,2300aD1,65e3D1,66f8D1,6649D1,3b19D1,",
    "6691D1,3b08D1,3ae4D1,5192D1,5195D1,6700D1,669cD1,80adD1,43d9D1,6717D1,671bD1,6721D1,675eD1,6",
    "753D1,233c3D1,3b49D1,67faD1,6785D1,6852D1,6885D1,2346dD1,688eD1,681fD1,6914D1,3b9dD1,6942D1,",
    "69a3D1,69eaD1,6aa8D1,236a3D1,6adbD1,3c18D1,6b21D1,238a7D1,6b54D1,3c4eD1,6b72D1,6b9fD2,6bbaD1",
    ",23a8dD1,21d0bD1,23afaD1,6c4eD1,23cbcD1,6cbfD1,6ccdD1,6c67D1,6d16D1,6d3eD1,6d77D1,6d41D1,6d6",
    "9D1,6d78D1,6d85D1,23d1eD1,6d34D1,6e2fD1,6e6eD1,3d33D1,6ecbD1,6ec7D1,23ed1D1,6df9D1,6f6eD1,23",
    "f5eD1,23f8eD1,6fc6D1,7039D1,701eD1,701bD1,3d96D1,704aD1,707dD1,7077D1,70adD1,20525D1,7145D1,",
    "24263D1,719cD1,243abD1,7228D1,7235D1,7250D1,24608D1,7280D1,7295D1,24735D1,24814D1,737aD1,738",
    "bD1,3eacD1,73a5D1,3eb8D1,3eb8D1,7447D1,745cD1,7471D1,7485D1,74caD1,3f1bD1,7524D1,24c36D1,753",
    "eD1,24c92D1,7570D1,2219fD1,7610D1,24fa1D1,24fb8D1,25044D1,3ffcD1,4008D1,76f4D1,250f3D1,250f2",
    "D1,25119D1,25133D2,771eD1,771fD1,774aD1,4039D1,778bD1,4046D1,4096D1,2541dD1,784eD1,788cD1,78",
    "ccD1,40e3D1,25626D1,7956D1,2569aD1,256c5D1,798fD1,79ebD1,412fD1,7a40D1,7a4aD1,7a4fD1,2597cD1",
    ",25aa7D1,25aa7D1,7aeeD1,4202D1,25babD1,7bc6D1,7bc9D1,4227D1,25c80D1,7cd2D1,42a0D1,7ce8D1,7ce",
    "3D1,7d00D1,25f86D1,7d63D1,4301D1,7dc7D1,7e02D1,7e45D1,4334D1,26228D1,26247D1,4359D1,262d9D1,",
    "7f7aD1,2633eD1,7f95D1,7ffaD1,8005D1,264daD1,26523D1,8060D1,265a8D1,8070D1,2335fD1,43d5D1,80b",
    "2D1,8103D1,440bD1,813eD1,5ab5D1,267a7D1,267b5D1,23393D1,2339cD1,8201D1,8204D1,8f9eD1,446bD1,",
    "8291D1,828bD1,829dD1,52b3D1,82b1D1,82b3D1,82bdD1,82e6D1,26b3cD1,82e5D1,831dD1,8363D1,83adD1,",
    "8323D1,83bdD1,83e7D1,8457D1,8353D1,83caD1,83ccD1,83dcD1,26c36D1,26d6bD1,26cd5D1,452bD1,84f1D",
    "1,84f3D1,8516D1,273caD1,8564D1,26f2cD1,455dD1,4561D1,26fb1D1,270d2D1,456bD1,8650D1,865cD1,86",
    "67D1,8669D1,86a9D1,8688D1,870eD1,86e2D1,8779D1,8728D1,876bD1,8786D1,45d7D1,87e1D1,8801D1,45f",
    "9D1,8860D1,8863D1,27667D1,88d7D1,88deD1,4635D1,88faD1,34bbD1,278aeD1,27966D1,46beD1,46c7D1,8",
    "aa0D1,8aedD1,8b8aD1,8c55D1,27ca8D1,8cabD1,8cc1D1,8d1bD1,8d77D1,27f2fD1,20804D1,8dcbD1,8dbcD1",
    ",8df0D1,208deD1,8ed4D1,8f38D1,285d2D1,285edD1,9094D1,90f1D1,9111D1,2872eD1,911bD1,9238D2,92d",
    "7D1,927cD1,93f9D1,9415D1,28bfaD1,958bD1,4995D1,95b7D1,28d77D1,49e6D1,96c3D1,5db2D1,9723D1,29",
    "145D1,2921aD1,4a6eD1,4a76D1,97e0D1,2940aD1,4ab2D1,29496D1,980bD1,980bD1,9829D1,295b6D1,98e2D",
    "1,4b33D1,9929D1,99a7D1,99c2D1,99feD1,4bceD1,29b30D1,9b12D1,9c40D1,9cfdD1,4cceD1,4cedD1,9d67D",
    "1,2a0ceD1,4cf8D1,2a105D1,2a20eD1,2a291D1,9ebbD1,4d56D1,9ef9D1,9efeD1,9f05D1,9f0fD1,9f16D1,9f",
    "3bD1,2a600De05e2K"]

/-- The stored decompositions. -/
def decompositionTable : Table := Table.ofLines decompositionLines

/-- The first Hangul syllable. -/
def hangulBase : Nat := 0xAC00

/-- How many Hangul syllables there are. -/
def hangulCount : Nat := 11172

/-- The canonical decomposition of a character. -/
def decompose (c : Char) : List Char :=
  let code := c.toNat
  if hangulBase ≤ code ∧ code < hangulBase + hangulCount then
    let index := code - hangulBase
    let leading := Char.ofNat (0x1100 + index / 588)
    let vowel := Char.ofNat (0x1161 + index % 588 / 28)
    if index % 28 = 0 then [leading, vowel]
    else [leading, vowel, Char.ofNat (0x11A7 + index % 28)]
  else
    match decompositionTable.find? code with
    | some ⟨first, 'D', [target]⟩ => [Char.ofNat (target + (code - first))]
    | some ⟨_, 'D', targets⟩ => targets.map Char.ofNat
    | _ => [c]

end Unicode
end LinkFacts
