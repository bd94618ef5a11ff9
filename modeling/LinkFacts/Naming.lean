/-!
# Names

Things that are found by name: a list of pairs in which no name repeats.
-/

namespace LinkFacts
namespace Naming

/-- Puts a thing under a name in place of an earlier one. -/
def put {α : Type} (name : String) (value : α) (entries : List (String × α)) : List (String × α) :=
  (name, value) :: entries.filter (·.1 ≠ name)

/-- Removes a name. -/
def remove {α : Type} (name : String) (entries : List (String × α)) : List (String × α) :=
  entries.filter (·.1 ≠ name)

/-- How often each of the names occurs. -/
def tally (names : List String) : List (String × Nat) :=
  names.eraseDups.map fun name => (name, names.count name)

end Naming
end LinkFacts
