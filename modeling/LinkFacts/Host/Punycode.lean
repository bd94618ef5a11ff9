import LinkFacts.Text.Digits

/-!
# Punycode

The ASCII form of a label: its ASCII characters, and then where the others have to be inserted, as
a sequence of generalized variable-length integers.
-/

namespace LinkFacts
namespace Host

namespace Punycode

/-- The radix of the digits. -/
def base : Nat := 36

/-- The least threshold of a digit. -/
def leastThreshold : Nat := 1

/-- The greatest threshold of a digit. -/
def greatestThreshold : Nat := 26

/-- The first bias. -/
def firstBias : Nat := 72

/-- The first code point that is inserted. -/
def firstInserted : Nat := 128

/-- Numbers stay below this bound. -/
def bound : Nat := Nat.pow 2 32

/-- Divides a delta until it is small, and counts the divisions in steps of the radix. -/
def settleBias (delta steps : Nat) : Nat :=
  if h : (base - leastThreshold) * greatestThreshold / 2 < delta then
    settleBias (delta / (base - leastThreshold)) (steps + base)
  else steps + (base - leastThreshold + 1) * delta / (delta + 38)
termination_by delta
decreasing_by
  simp only [base, leastThreshold, greatestThreshold] at h ⊢
  omega

/-- The bias after a delta that was followed by `count` characters. -/
def adapt (delta count : Nat) (first : Bool) : Nat :=
  let damped := if first then delta / 700 else delta / 2
  settleBias (damped + damped / count) 0

/-- The threshold of the digit at a position. -/
def threshold (position bias : Nat) : Nat :=
  if position ≤ bias then leastThreshold
  else if bias + greatestThreshold ≤ position then greatestThreshold
  else position - bias

/-- The value of a digit. -/
def digit? (c : Char) : Option Nat :=
  if 'a' ≤ c ∧ c ≤ 'z' then some (c.toNat - 'a'.toNat)
  else if 'A' ≤ c ∧ c ≤ 'Z' then some (c.toNat - 'A'.toNat)
  else if '0' ≤ c ∧ c ≤ '9' then some (c.toNat - '0'.toNat + 26)
  else none

/-- The digit of a value. -/
def digitChar (value : Nat) : Char :=
  if value < 26 then Char.ofNat ('a'.toNat + value) else Char.ofNat ('0'.toNat + (value - 26))

/-- Reads the digits of a delta and adds them to `index`. -/
def readDelta (bias : Nat) : Nat → Nat → Nat → List Char → Option (Nat × List Char)
  | _, _, _, [] => none
  | index, weight, position, c :: rest =>
    match digit? c with
    | none => none
    | some digit =>
      let next := index + digit * weight
      let least := threshold position bias
      if bound ≤ next then none
      else if digit < least then some (next, rest)
      else if bound ≤ weight * (base - least) then none
      else readDelta bias next (weight * (base - least)) (position + base) rest

private theorem readDelta_length {bias index weight position : Nat} {source : List Char}
    {read : Nat × List Char} (h : readDelta bias index weight position source = some read) :
    read.2.length < source.length := by
  fun_induction readDelta bias index weight position source with
  | case1 => simp at h
  | case2 => simp at h
  | case3 => simp at h
  | case4 => cases h; simp
  | case5 => simp at h
  | case6 index weight position c rest digit hdigit next least _ _ _ ih =>
    have := ih h
    simp only [List.length_cons]
    omega

/-- Inserts characters into the ones known so far. -/
def insertAll (known : List Char) (code index bias : Nat) (source : List Char) :
    Option (List Char) :=
  if source.isEmpty then some known
  else
    match hread : readDelta bias index 1 base source with
    | none => none
    | some (next, rest) =>
      have : rest.length < source.length := readDelta_length hread
      let count := known.length + 1
      let inserted := code + next / count
      if bound ≤ inserted then none
      else if !inserted.isValidChar then none
      else
        let place := next % count
        insertAll (known.take place ++ Char.ofNat inserted :: known.drop place) inserted (place + 1)
          (adapt (next - index) count (index = 0)) rest
termination_by source.length

/-- The characters before the last hyphen and those after it, if there is a hyphen. -/
def splitLastHyphen? (cs : List Char) : Option (List Char × List Char) :=
  let after := cs.reverse.takeWhile (· ≠ '-')
  match cs.reverse.drop after.length with
  | [] => none
  | _ :: before => some (before.reverse, after.reverse)

/-- The text with the given ASCII form. -/
def decode (cs : List Char) : Option (List Char) :=
  match splitLastHyphen? cs with
  | none => insertAll [] firstInserted 0 firstBias cs
  | some ([], _) => none
  | some (before, after) => insertAll before firstInserted 0 firstBias after

/-- Writes the digits of a delta; the remaining value shrinks with every digit. -/
def writeDelta (bias value position : Nat) : List Char :=
  let least := threshold position bias
  if value < least then [digitChar value]
  else if _ : 1 ≤ least ∧ least ≤ value then
    digitChar (least + (value - least) % (base - least)) ::
      writeDelta bias ((value - least) / (base - least)) (position + base)
  else []
termination_by value
decreasing_by
  exact Nat.lt_of_le_of_lt (Nat.div_le_self _ _) (Nat.sub_lt (by omega) (by omega))

/-- The state of an encoder between two code points. -/
structure Encoder where
  /-- How far the next insertion is away. -/
  delta : Nat
  /-- The bias of the next insertion. -/
  bias : Nat
  /-- How many characters have been handled. -/
  handled : Nat
  /-- What has been written. -/
  written : List Char

/-- Passes one character of the text in the round of a code point. -/
def Encoder.visit (basics code : Nat) (encoder : Encoder) (c : Char) : Encoder :=
  if c.toNat < code then { encoder with delta := encoder.delta + 1 }
  else if c.toNat = code then
    { delta := 0
      bias := adapt encoder.delta (encoder.handled + 1) (encoder.handled = basics)
      handled := encoder.handled + 1
      written := encoder.written ++ writeDelta encoder.bias encoder.delta base }
  else encoder

/-- Writes the characters of each code point in ascending order. -/
def encodeRounds (cs : List Char) (basics : Nat) : Nat → List Nat → Encoder → Encoder
  | _, [], encoder => encoder
  | previous, code :: codes, encoder =>
    let start :=
      { encoder with delta := encoder.delta + (code - previous) * (encoder.handled + 1) }
    let done := cs.foldl (Encoder.visit basics code) start
    encodeRounds cs basics (code + 1) codes { done with delta := done.delta + 1 }

/-- The distinct code points of the characters that are not ASCII, in ascending order. -/
def insertedCodes (cs : List Char) : List Nat :=
  ((cs.filter (!Text.isAscii ·)).map Char.toNat).mergeSort.eraseReps

/-- The ASCII form of a text. -/
def encode (cs : List Char) : List Char :=
  let basics := cs.filter Text.isAscii
  let start := if basics.isEmpty then [] else basics ++ ['-']
  (encodeRounds cs basics.length firstInserted (insertedCodes cs)
    ⟨0, firstBias, basics.length, start⟩).written

end Punycode

end Host
end LinkFacts
