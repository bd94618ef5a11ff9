/-!
# Blank characters

The characters with the Unicode property `White_Space`, and trimming by that property.  Link
targets and counts are trimmed this way before they are read.
-/

namespace LinkFacts
namespace Text

/-- The characters with the Unicode property `White_Space`. -/
def isBlank (c : Char) : Bool :=
  let code := c.toNat
  (9 ≤ code && code ≤ 13) || code == 0x20 || code == 0x85 || code == 0xA0 || code == 0x1680 ||
    (0x2000 ≤ code && code ≤ 0x200A) || code == 0x2028 || code == 0x2029 || code == 0x202F ||
    code == 0x205F || code == 0x3000

/-- A list without its longest tail that satisfies `test`.  It is `List.rdropWhile`, spelled out
because what runs is built on core alone. -/
def dropTail (test : Char → Bool) (cs : List Char) : List Char :=
  (cs.reverse.dropWhile test).reverse

/-- The characters between the leading and the trailing ones that satisfy `test`. -/
def strip (test : Char → Bool) (cs : List Char) : List Char :=
  dropTail test (cs.dropWhile test)

/-- A text without its leading and trailing blank characters. -/
def trim (text : String) : String :=
  String.ofList (strip isBlank text.toList)

end Text
end LinkFacts
