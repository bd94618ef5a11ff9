import LinkFacts.Json.Cursor
import LinkFacts.Text.Digits

/-!
# Reading numbers

Integers within 64 bits are exact.  Other numbers collect their digits into one natural below
`2 ^ 64`; digits that do not fit only move the exponent, and decimals that do not fit are dropped.
The double is that natural, rounded, times or divided by one power of ten, rounded again.
-/

namespace LinkFacts
namespace Json

open Text Decimal

/-- The significant digits of a number lie below this bound. -/
def significandBound : Nat := Nat.pow 2 64

/-- Divides by powers of ten, at most `10 ^ 308` at a time. -/
def scaleDown (value : Magnitude) (exponent : Nat) : Magnitude :=
  if exponent ≤ 308 then value.div (Magnitude.powerOfTen exponent)
  else if value.isZero then value
  else scaleDown (value.div (Magnitude.powerOfTen 308)) (exponent - 308)
termination_by exponent

/-- The double `significand * 10 ^ exponent`, unless it is out of range. -/
def scaled? (significand : Nat) (exponent : Int) : Except Fault Magnitude :=
  let value := Magnitude.ofNat significand
  if exponent < 0 then .ok (scaleDown value (-exponent).toNat)
  else if exponent ≤ 308 then
    match value.mul (Magnitude.powerOfTen exponent.toNat) with
    | .infinite => .error .malformed
    | product => .ok product
  else if value.isZero then .ok value
  else .error .malformed

/-- Adds digits to a significand while they fit; returns it, the number of digits added, and the
text from the first digit that did not fit or the first other character. -/
def accumulate : Nat → Nat → List Char → Nat × Nat × List Char
  | significand, count, [] => (significand, count, [])
  | significand, count, c :: rest =>
    if isDecimal c && significand * 10 + (digitValue? c).getD 0 < significandBound then
      accumulate (significand * 10 + (digitValue? c).getD 0) (count + 1) rest
    else (significand, count, c :: rest)

private theorem accumulate_length (significand count : Nat) (source : List Char) :
    (accumulate significand count source).2.2.length ≤ source.length := by
  fun_induction accumulate significand count source with
  | case1 => simp
  | case2 significand count c rest hfits ih => simp only [List.length_cons]; omega
  | case3 => simp

/-- Skips digits and counts them. -/
def skipDigits (source : List Char) : Nat × List Char :=
  ((source.takeWhile isDecimal).length, source.dropWhile isDecimal)

private theorem skipDigits_length (source : List Char) :
    (skipDigits source).2.length ≤ source.length :=
  (List.dropWhile_suffix _).length_le

/-- Exponents beyond this bound are not formed. -/
def exponentBound : Nat := Nat.pow 2 31

/-- A rest that is no longer than the source. -/
abbrev Remaining (source : List Char) := { rest : List Char // rest.length ≤ source.length }

/-- Reads the digits of an exponent; `none` where it grows beyond the bound. -/
def readExponentDigits : Nat → List Char → Option Nat × List Char
  | exponent, [] => (some exponent, [])
  | exponent, c :: rest =>
    if isDecimal c then
      let next := exponent * 10 + (digitValue? c).getD 0
      if next < exponentBound then readExponentDigits next rest else (none, rest)
    else (some exponent, c :: rest)

private theorem readExponentDigits_length (exponent : Nat) (source : List Char) :
    (readExponentDigits exponent source).2.length ≤ source.length := by
  fun_induction readExponentDigits exponent source with
  | case1 => simp
  | case2 exponent c rest hdigit next hfits ih => simp only [List.length_cons]; omega
  | case3 => simp
  | case4 => simp

/-- Reads what follows the exponent mark and forms the double. -/
def readExponent (significand : Nat) (start : Int) (source : List Char) :
    Except Fault (Magnitude × Remaining source) :=
  let signs : Bool × List Char := match source with
    | '+' :: rest => (true, rest)
    | '-' :: rest => (false, rest)
    | _ => (true, source)
  have signs_length : signs.2.length ≤ source.length := by
    simp only [signs]; split <;> simp
  match hdigits : signs.2 with
  | [] => .error .unfinished
  | c :: rest =>
    if isDecimal c then
      match hread : readExponentDigits ((digitValue? c).getD 0) rest with
      | (some exponent, rest') =>
        have hrest : rest'.length ≤ source.length := by
          have := readExponentDigits_length ((digitValue? c).getD 0) rest
          rw [hread] at this
          rw [hdigits] at signs_length
          simp only [List.length_cons] at signs_length
          exact Nat.le_trans this (by omega)
        match scaled? significand (if signs.1 then start + exponent else start - exponent) with
        | .error fault => .error fault
        | .ok value => .ok (value, ⟨rest', hrest⟩)
      | (none, rest') =>
        have hrest : (skipDigits rest').2.length ≤ source.length := by
          have := readExponentDigits_length ((digitValue? c).getD 0) rest
          rw [hread] at this
          rw [hdigits] at signs_length
          simp only [List.length_cons] at signs_length
          exact Nat.le_trans (skipDigits_length rest') (Nat.le_trans this (by omega))
        if signs.1 && significand != 0 then .error .malformed
        else .ok (.zero, ⟨(skipDigits rest').2, hrest⟩)
    else .error .malformed

/-- Reads an exponent if its mark follows, and forms the double. -/
def readScaled (significand : Nat) (exponent : Int) (source : List Char) :
    Except Fault (Magnitude × Remaining source) :=
  match source with
  | c :: rest =>
    if c == 'e' || c == 'E' then
      match readExponent significand exponent rest with
      | .error fault => .error fault
      | .ok (value, rest') =>
        .ok (value, ⟨rest'.1, Nat.le_trans rest'.2 (by simp)⟩)
    else
      match scaled? significand exponent with
      | .error fault => .error fault
      | .ok value => .ok (value, ⟨c :: rest, Nat.le_refl _⟩)
  | [] =>
    match scaled? significand exponent with
    | .error fault => .error fault
    | .ok value => .ok (value, ⟨[], Nat.le_refl _⟩)

/-- Reads the decimals after a point, then an exponent, and forms the double. -/
def readDecimals (significand : Nat) (exponent : Int) (source : List Char) :
    Except Fault (Magnitude × Remaining source) :=
  match hread : accumulate significand 0 source with
  | (significand', count, rest) =>
    have hrest : rest.length ≤ source.length := by
      have := accumulate_length significand 0 source
      rw [hread] at this
      exact this
    match rest with
    | [] =>
      if count = 0 then .error .unfinished
      else
        match readScaled significand' (exponent - count) [] with
        | .error fault => .error fault
        | .ok (value, rest') => .ok (value, ⟨rest'.1, Nat.le_trans rest'.2 hrest⟩)
    | c :: more =>
      if isDecimal c then
        match readScaled significand' (exponent - count) (skipDigits (c :: more)).2 with
        | .error fault => .error fault
        | .ok (value, rest') =>
          .ok (value, ⟨rest'.1,
            Nat.le_trans rest'.2 (Nat.le_trans (skipDigits_length (c :: more)) hrest)⟩)
      else if count = 0 then .error .malformed
      else
        match readScaled significand' (exponent - count) (c :: more) with
        | .error fault => .error fault
        | .ok (value, rest') => .ok (value, ⟨rest'.1, Nat.le_trans rest'.2 hrest⟩)

/-- Reads what may follow the integer digits: decimals, an exponent, or nothing. -/
def readFraction (significand : Nat) (exponent : Int) (source : List Char) :
    Except Fault (Magnitude × Remaining source) :=
  match source with
  | '.' :: rest =>
    match readDecimals significand exponent rest with
    | .error fault => .error fault
    | .ok (value, rest') => .ok (value, ⟨rest'.1, Nat.le_trans rest'.2 (by simp)⟩)
  | other => readScaled significand exponent other

/-- An integer within 64 bits, or a double if it is below the least one or minus zero. -/
def integer (minus : Bool) (value : Nat) : Number :=
  if !minus then .natural value
  else if value = 0 || Nat.pow 2 63 < value then .real ⟨true, Magnitude.ofNat value⟩
  else .negative value

/-- A point or an exponent mark follows. -/
def startsFraction : List Char → Bool
  | c :: _ => c == '.' || c == 'e' || c == 'E'
  | [] => false

/-- Reads the digits of an integer that starts with `c`; a leading zero stands alone. -/
def readInteger (c : Char) (rest : List Char) : Nat × List Char :=
  if c == '0' then (0, rest)
  else
    let digits := accumulate ((digitValue? c).getD 0) 0 rest
    (digits.1, digits.2.2)

theorem readInteger_length (c : Char) (rest : List Char) :
    (readInteger c rest).2.length < (c :: rest).length := by
  unfold readInteger
  split
  · exact Nat.lt_succ_self _
  · exact Nat.lt_succ_of_le (accumulate_length _ _ _)

private theorem skipDigits_readInteger_length (c : Char) (rest : List Char) :
    (skipDigits (readInteger c rest).2).2.length < (c :: rest).length :=
  Nat.lt_of_le_of_lt (skipDigits_length _) (readInteger_length c rest)

/-- Reads a number after its sign. -/
def readNumeral (minus : Bool) : Reader Number := fun source =>
  match source with
  | [] => .error .unfinished
  | c :: rest =>
    if !isDecimal c then .error .malformed
    else if c == '0' && (match rest with | d :: _ => isDecimal d | [] => false) then
      .error .malformed
    else
      let whole := readInteger c rest
      let overflow := skipDigits whole.2
      if overflow.1 = 0 && !startsFraction whole.2 then
        .ok ⟨integer minus whole.1, whole.2, readInteger_length c rest⟩
      else
        match readFraction whole.1 overflow.1 overflow.2 with
        | .error fault => .error fault
        | .ok (value, after) =>
          .ok ⟨.real ⟨minus, value⟩, after.1,
            Nat.lt_of_le_of_lt after.2 (skipDigits_readInteger_length c rest)⟩

end Json
end LinkFacts
