import LinkFacts.Facts.Basic

/-!
# Display order

The order in which facts are shown: the well-known ones first, all others in key order.
-/

namespace LinkFacts
namespace Render

/-- The keys that are shown first, in this order. -/
def wellKnown : List String := ["version", "stars", "forks"]

/-- The entries of facts whose key is well known, in display order. -/
def leading (entries : List (String × String)) : List (String × String) :=
  wellKnown.flatMap fun key => entries.filter (·.1 = key)

/-- The entries of facts in display order. -/
def displayed (facts : Facts) : List (String × String) :=
  leading facts.entries ++ facts.entries.filter fun entry => !wellKnown.contains entry.1

end Render
end LinkFacts
