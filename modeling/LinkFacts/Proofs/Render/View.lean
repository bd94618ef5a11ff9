import LinkFacts.Proofs.Render.Display
import LinkFacts.Render.Renderer

/-!
# What templates see

Templates see all facts and nothing else, in an order that the keys determine: the well-known keys
that are there, and behind them the other keys by their bytes.  So what is rendered depends on the
mapping alone, and not on how the facts were put together.
-/

namespace LinkFacts
namespace Render

open Facts (ext_get? get?_ofList lastValue?)

/-- An item of the list that templates see. -/
def item (entry : String × String) : Template.Value :=
  .map [("key", .text entry.1), ("value", .text entry.2)]

/-- Templates see all facts in an order that depends on the keys alone; so whatever the template, the
same mapping is rendered to the same markup, in whatever order and however often its pairs were
given. -/
theorem view_canonical :
    (∀ facts, ∃ shown, Arranged facts shown ∧
      scope facts = [("facts", .list (shown.map item))]) ∧
    (∀ template facts other, (∀ key, facts.get? key = other.get? key) →
      render template facts = render template other) ∧
    ∀ template pairs others, (∀ key, lastValue? pairs key = lastValue? others key) →
      render template (Facts.ofList pairs) = render template (Facts.ofList others) := by
  refine ⟨fun facts => ⟨displayed facts, arranged_displayed facts, rfl⟩, ?_, ?_⟩
  · intro template facts other same
    rw [ext_get? same]
  · intro template pairs others same
    have collected : Facts.ofList pairs = Facts.ofList others := by
      apply ext_get?
      intro key
      rw [get?_ofList, get?_ofList, same]
    rw [collected]

/-- A list in which a later pair replaces an earlier one is rendered like the list without it, in
another order. -/
theorem replaced_pair_unseen :
    (∀ key, lastValue? [("stars", "1"), ("é", "x"), ("stars", "2")] key =
      lastValue? [("stars", "2"), ("é", "x")] key) ∧
    ∀ template, render template (.ofList [("stars", "1"), ("é", "x"), ("stars", "2")]) =
      render template (.ofList [("stars", "2"), ("é", "x")]) := by
  have same : ∀ key, lastValue? [("stars", "1"), ("é", "x"), ("stars", "2")] key =
      lastValue? [("stars", "2"), ("é", "x")] key := by
    intro key
    simp only [lastValue?, List.reverse_cons, List.reverse_nil, List.nil_append, List.cons_append,
      Naming.lookup_cons_ite]
    by_cases stars : key = "stars"
    · subst stars
      rfl
    · simp [stars]
  exact ⟨same, fun template => view_canonical.2.2 template _ _ same⟩

end Render
end LinkFacts
