import LinkFacts.Render.Escape

/-!
# Escaped text

An escaped text has none of the characters that open or close a tag or a quote.
-/

namespace LinkFacts
namespace Render

/-- The characters that open or close a tag or a quote. -/
def delimiters : List Char := ['<', '>', '"', '\'']

private theorem notMem_escapeChar {c : Char} (delimits : c ∈ delimiters) (d : Char) :
    c ∉ escapeChar d := by
  simp only [delimiters, List.mem_cons, List.not_mem_nil, or_false] at delimits
  unfold escapeChar
  split
  case h_6 _ _ openTag closeTag quote apostrophe =>
    intro written
    obtain rfl := List.mem_singleton.mp written
    obtain same | same | same | same := delimits
    · exact openTag same
    · exact closeTag same
    · exact quote same
    · exact apostrophe same
  -- no entity has one of them
  all_goals
    obtain rfl | rfl | rfl | rfl := delimits <;> decide

theorem notMem_escape {c : Char} (delimits : c ∈ delimiters) (text : String) :
    c ∉ (escape text).toList := by
  rw [escape, String.toList_ofList, escapeChars, List.mem_flatMap]
  rintro ⟨d, -, written⟩
  exact notMem_escapeChar delimits d written

end Render
end LinkFacts
