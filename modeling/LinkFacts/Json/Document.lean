import LinkFacts.Json.Numeral
import LinkFacts.Json.Quoted

/-!
# Reading documents

A value, a list and an object are read from the front of a text.  The readers of items and members
take the reader of what they contain, so that an object whose values have a known shape is refused
at the first value that does not fit.  Containers nest at most 127 deep.
-/

namespace LinkFacts
namespace Json

open Text

/-- How many containers may be open at once. -/
def greatestDepth : Nat := 127

/-- Reads the letters of a keyword. -/
def readKeyword : List Char → (source : List Char) → Except Fault { rest : List Char //
    rest.length ≤ source.length }
  | [], source => .ok ⟨source, Nat.le_refl _⟩
  | _ :: _, [] => .error .unfinished
  | letter :: letters, c :: rest =>
    if c = letter then
      match readKeyword letters rest with
      | .error fault => .error fault
      | .ok rest' => .ok ⟨rest'.1, Nat.le_succ_of_le rest'.2⟩
    else .error .malformed

/-- Reads the values of a list after its opening bracket or after a value; `first` tells which. -/
def readItems {α : Type} (element : Reader α) (first : Bool) (source : List Char) :
    Except Fault (Taken (List α) source) :=
  have hskip : (skipSpace source).length ≤ source.length := skipSpace_length source
  match hs : skipSpace source with
  | [] => .error .unfinished
  | ']' :: rest => .ok ⟨[], rest, by rw [hs] at hskip; exact hskip⟩
  | c :: rest =>
    let start : Except Fault { text : List Char // text.length ≤ source.length } :=
      if first then .ok ⟨c :: rest, by rw [hs] at hskip; exact hskip⟩
      else if c = ',' then
        match hn : skipSpace rest with
        | [] => .error .unfinished
        | ']' :: _ => .error .malformed
        | d :: more => .ok ⟨d :: more, by
            have := skipSpace_length rest
            rw [hn] at this
            rw [hs] at hskip
            simp only [List.length_cons] at this hskip ⊢
            omega⟩
      else .error .malformed
    match start with
    | .error fault => .error fault
    | .ok ⟨text, htext⟩ =>
      match element text with
      | .error fault => .error fault
      | .ok item =>
        have : item.rest.length < source.length := Nat.lt_of_lt_of_le item.shorter htext
        match readItems element false item.rest with
        | .error fault => .error fault
        | .ok items => .ok ((items.map (item.value :: ·)).within (Nat.le_of_lt this))
termination_by source.length

/-- Reads a key, its colon and the value after it. -/
def readMember {α : Type} (element : Reader α) : Reader (String × α) := fun source =>
  match source with
  | [] => .error .unfinished
  | c :: rest =>
    if c = '"' then
      match readQuoteBody rest with
      | .error fault => .error fault
      | .ok key =>
        match hc : skipSpace key.rest with
        | [] => .error .unfinished
        | ':' :: after =>
          match element (skipSpace after) with
          | .error fault => .error fault
          | .ok value =>
            .ok ⟨(String.ofList key.value, value.value), value.rest, by
              have h₁ := value.shorter
              have h₂ := skipSpace_length after
              have h₃ := skipSpace_length key.rest
              have h₄ := key.shorter
              rw [hc] at h₃
              simp only [List.length_cons] at h₃ ⊢
              omega⟩
        | _ :: _ => .error .malformed
    else .error .malformed

/-- Reads the members of an object after its opening brace or after a member. -/
def readMembers {α : Type} (element : Reader α) (first : Bool) (source : List Char) :
    Except Fault (Taken (List (String × α)) source) :=
  have hskip : (skipSpace source).length ≤ source.length := skipSpace_length source
  match hs : skipSpace source with
  | [] => .error .unfinished
  | '}' :: rest => .ok ⟨[], rest, by rw [hs] at hskip; exact hskip⟩
  | c :: rest =>
    let start : Except Fault { text : List Char // text.length ≤ source.length } :=
      if first then .ok ⟨c :: rest, by rw [hs] at hskip; exact hskip⟩
      else if c = ',' then .ok ⟨skipSpace rest, by
        have := skipSpace_length rest
        rw [hs] at hskip
        simp only [List.length_cons] at hskip
        omega⟩
      else .error .malformed
    match start with
    | .error fault => .error fault
    | .ok ⟨text, htext⟩ =>
      match readMember element text with
      | .error fault => .error fault
      | .ok member =>
        have : member.rest.length < source.length := Nat.lt_of_lt_of_le member.shorter htext
        match readMembers element false member.rest with
        | .error fault => .error fault
        | .ok members => .ok ((members.map (member.value :: ·)).within (Nat.le_of_lt this))
termination_by source.length

/-- Reads a value other than a list or an object. -/
def readScalar : Reader Value := fun source =>
  match source with
  | [] => .error .unfinished
  | 'n' :: rest => keyword "ull".toList .null rest
  | 't' :: rest => keyword "rue".toList (.flag true) rest
  | 'f' :: rest => keyword "alse".toList (.flag false) rest
  | '"' :: rest =>
    match readQuoteBody rest with
    | .error fault => .error fault
    | .ok taken => .ok (taken.map (Value.text ∘ String.ofList)).afterOne
  | '-' :: rest =>
    match readNumeral true rest with
    | .error fault => .error fault
    | .ok taken => .ok (taken.map Value.number).afterOne
  | c :: rest =>
    if isDecimal c then
      match readNumeral false (c :: rest) with
      | .error fault => .error fault
      | .ok taken => .ok (taken.map Value.number)
    else .error .malformed
where
  /-- The rest of a keyword stands for a value. -/
  keyword (letters : List Char) (value : Value) {c : Char} (rest : List Char) :
      Except Fault (Taken Value (c :: rest)) :=
    match readKeyword letters rest with
    | .error fault => .error fault
    | .ok rest' => .ok ⟨value, rest'.1, Nat.lt_succ_of_le rest'.2⟩

/-- Reads a value that opens at most `depth` containers inside each other. -/
def readValue : Nat → Reader Value
  | 0, source =>
    match source with
    | '[' :: _ => .error .malformed
    | '{' :: _ => .error .malformed
    | other => readScalar other
  | depth + 1, source =>
    match source with
    | '[' :: rest =>
      match readItems (readElement depth) true rest with
      | .error fault => .error fault
      | .ok taken => .ok (taken.map Value.list).afterOne
    | '{' :: rest =>
      match readMembers (readElement depth) true rest with
      | .error fault => .error fault
      | .ok taken => .ok (taken.map Value.object).afterOne
    | other => readScalar other
where
  /-- A contained value. -/
  readElement (depth : Nat) : Reader Value := fun source => readValue depth source

/-- Refuses a text that does not start an object: for what it is, or for being malformed. -/
def refuseStart {α : Type} (source : List Char) : Except Fault α :=
  match source with
  | '[' :: _ => .error .unsuitable
  | other =>
    match readScalar other with
    | .error fault => .error fault
    | .ok _ => .error .unsuitable

/-- Reads an object whose values are read by `element`, which may open `depth - 1` containers. -/
def readObject {α : Type} (element : Nat → Reader α) : Nat → Reader (List (String × α))
  | 0, source =>
    match source with
    | '{' :: _ => .error .malformed
    | other => refuseStart other
  | depth + 1, source =>
    match source with
    | '{' :: rest =>
      match readMembers (element depth) true rest with
      | .error fault => .error fault
      | .ok taken => .ok taken.afterOne
    | other => refuseStart other

/-- Reads a whole document: one value between blank characters. -/
def readDocument {α : Type} (reader : Reader α) (source : List Char) : Except Fault α :=
  match reader (skipSpace source) with
  | .error fault => .error fault
  | .ok taken => if (skipSpace taken.rest).isEmpty then .ok taken.value else .error .malformed

end Json
end LinkFacts
