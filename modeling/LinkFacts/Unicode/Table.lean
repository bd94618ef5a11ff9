import LinkFacts.Text.Digits

/-!
# Tables of code points

A property of code points is stored as the sequence of its runs.  The text of a table gives, for
each run, hexadecimal numbers separated by commas and then an upper case letter: the first number
is the length of the run, the others are its payload, and the letter is its kind.
-/

namespace LinkFacts
namespace Unicode

/-- Neighbouring code points with one entry. -/
structure Run where
  /-- The first code point. -/
  first : Nat
  /-- What kind of entry it is. -/
  kind : Char
  /-- What the kind is about. -/
  payload : List Nat

/-- How far the text of a table has been read. -/
structure Progress where
  /-- The first code point of the next run. -/
  position : Nat
  /-- The finished numbers of the next run, the last one first. -/
  numbers : List Nat
  /-- The number being read. -/
  current : Nat
  /-- The finished runs. -/
  runs : Array Run

/-- Reads one character of the text of a table. -/
def Progress.step (progress : Progress) (c : Char) : Progress :=
  if c = ',' then { progress with numbers := progress.current :: progress.numbers, current := 0 }
  else if 'A' ≤ c ∧ c ≤ 'Z' then
    match (progress.current :: progress.numbers).reverse with
    | [] => progress
    | length :: payload =>
      ⟨progress.position + length, [], 0, progress.runs.push ⟨progress.position, c, payload⟩⟩
  else
    { progress with current := progress.current * 16 + (Text.digitValue? c).getD 0 }

/-- The runs of a property in ascending order; the first one starts at zero. -/
structure Table where
  /-- The runs. -/
  runs : Array Run

namespace Table

/-- Reads one line of the text of a table. -/
def readLine (progress : Progress) (line : String) : Progress := line.foldl Progress.step progress

/-- The table whose text goes over the given lines. -/
def ofLines (lines : List String) : Table := ⟨(lines.foldl readLine ⟨0, [], 0, #[]⟩).runs⟩

/-- The index of the last run from `low` to below `high` that starts at or before a code point. -/
def locate (table : Table) (code low high : Nat) : Nat :=
  if high ≤ low + 1 then low
  else
    let middle := (low + high) / 2
    match table.runs[middle]? with
    | none => low
    | some run =>
      if run.first ≤ code then table.locate code middle high else table.locate code low middle
termination_by high - low

/-- The run that holds a code point. -/
def find? (table : Table) (code : Nat) : Option Run :=
  table.runs[table.locate code 0 table.runs.size]?

/-- The kind of a code point's run. -/
def kindOf (table : Table) (c : Char) : Char :=
  match table.find? c.toNat with
  | some run => run.kind
  | none => ' '

end Table
end Unicode
end LinkFacts
