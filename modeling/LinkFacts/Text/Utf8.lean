/-!
# Bytes of a text

The UTF-8 form of a text as a list of byte values, and reading it back.  Malformed parts are
either refused or replaced by U+FFFD, one for each maximal part of a well-formed sequence.
-/

namespace LinkFacts
namespace Text

/-- The UTF-8 bytes of one character. -/
def encodeChar (c : Char) : List Nat :=
  let code := c.toNat
  if code < 0x80 then [code]
  else if code < 0x800 then [0xC0 + code / 0x40, 0x80 + code % 0x40]
  else if code < 0x10000 then
    [0xE0 + code / 0x1000, 0x80 + code / 0x40 % 0x40, 0x80 + code % 0x40]
  else
    [0xF0 + code / 0x40000, 0x80 + code / 0x1000 % 0x40, 0x80 + code / 0x40 % 0x40,
      0x80 + code % 0x40]

/-- The UTF-8 bytes of a text. -/
def encodeUtf8 (cs : List Char) : List Nat := cs.flatMap encodeChar

/-- How many bytes follow a leading byte, and the range that the first of them must lie in. -/
def leadShape? (lead : Nat) : Option (Nat × Nat × Nat) :=
  if 0xC2 ≤ lead && lead ≤ 0xDF then some (1, 0x80, 0xBF)
  else if lead == 0xE0 then some (2, 0xA0, 0xBF)
  else if lead == 0xED then some (2, 0x80, 0x9F)
  else if 0xE1 ≤ lead && lead ≤ 0xEF then some (2, 0x80, 0xBF)
  else if lead == 0xF0 then some (3, 0x90, 0xBF)
  else if lead == 0xF4 then some (3, 0x80, 0x8F)
  else if 0xF1 ≤ lead && lead ≤ 0xF3 then some (3, 0x80, 0xBF)
  else none

/-- The payload of a leading byte with the given number of followers. -/
def leadPayload (lead followers : Nat) : Nat :=
  match followers with
  | 1 => lead - 0xC0
  | 2 => lead - 0xE0
  | _ => lead - 0xF0

/-- Reads the followers of a character; `none` where the sequence breaks off. -/
def readFollowers : Nat → Nat → Nat → Nat → List Nat → Option Nat × List Nat
  | 0, _, _, value, bytes => (some value, bytes)
  | _ + 1, _, _, _, [] => (none, [])
  | count + 1, low, high, value, byte :: bytes =>
    if low ≤ byte && byte ≤ high then
      readFollowers count 0x80 0xBF (value * 0x40 + (byte - 0x80)) bytes
    else (none, byte :: bytes)

private theorem readFollowers_length (count low high value : Nat) (bytes : List Nat) :
    (readFollowers count low high value bytes).2.length ≤ bytes.length := by
  fun_induction readFollowers count low high value bytes with
  | case1 => simp
  | case2 => simp
  | case3 count low high value byte bytes hrange ih => simp only [List.length_cons]; omega
  | case4 => simp

/-- Decodes UTF-8; every malformed part becomes `none`. -/
def decodeUtf8 : List Nat → List (Option Char)
  | [] => []
  | lead :: bytes =>
    if lead < 0x80 then some (Char.ofNat lead) :: decodeUtf8 bytes
    else
      match leadShape? lead with
      | none => none :: decodeUtf8 bytes
      | some (followers, low, high) =>
        let read := readFollowers followers low high (leadPayload lead followers) bytes
        read.1.map Char.ofNat :: decodeUtf8 read.2
termination_by bytes => bytes.length
decreasing_by
  all_goals
    simp only [List.length_cons]
    first
    | omega
    | exact Nat.lt_succ_of_le (readFollowers_length ..)

/-- The text with the given UTF-8 bytes, if they are well formed. -/
def decodeUtf8? (bytes : List Nat) : Option (List Char) :=
  (decodeUtf8 bytes).mapM id

/-- The text with the given UTF-8 bytes, with U+FFFD for every malformed part. -/
def decodeUtf8Lossy (bytes : List Nat) : List Char :=
  (decodeUtf8 bytes).map (·.getD (Char.ofNat 0xFFFD))

end Text
end LinkFacts
