/-!
# Escaped markup

The characters that have a meaning in markup are written as entities, so that a text can stand
between tags and between quotes.
-/

namespace LinkFacts
namespace Render

/-- How a character is written in markup. -/
def escapeChar : Char → List Char
  | '&' => "&amp;".toList
  | '<' => "&lt;".toList
  | '>' => "&gt;".toList
  | '"' => "&quot;".toList
  | '\'' => "&#39;".toList
  | c => [c]

/-- The characters of a text as they are written in markup. -/
def escapeChars (cs : List Char) : List Char := cs.flatMap escapeChar

/-- A text as it is written in markup. -/
def escape (text : String) : String := String.ofList (escapeChars text.toList)

end Render
end LinkFacts
