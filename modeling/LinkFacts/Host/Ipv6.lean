import LinkFacts.Host.Ipv4

/-!
# Addresses of eight pieces

Hexadecimal pieces with colons between them; a double colon stands for at least one zero piece,
and the last two pieces may be four decimal bytes.  Written, the first longest run of at least two
zero pieces becomes a double colon.
-/

namespace LinkFacts
namespace Host

open Text

/-- The pieces read so far, the last one first, and how many stand before the double colon. -/
structure Pieces where
  /-- The pieces. -/
  values : List Nat
  /-- The number of pieces up to the first zero that the double colon stands for. -/
  gap : Option Nat

namespace Pieces

/-- Adds a piece. -/
def push (pieces : Pieces) (value : Nat) : Pieces :=
  { pieces with values := value :: pieces.values }

/-- Adds the first zero of a double colon. -/
def openGap (pieces : Pieces) : Pieces :=
  ⟨0 :: pieces.values, some (pieces.values.length + 1)⟩

/-- The eight pieces: zeros fill the gap, and without a gap there have to be eight. -/
def complete? (pieces : Pieces) : Option (List Nat) :=
  let values := pieces.values.reverse
  match pieces.gap with
  | some gap => some (values.take gap ++ List.replicate (8 - values.length) 0 ++ values.drop gap)
  | none => if values.length = 8 then some values else none

end Pieces

/-- A decimal byte without a leading zero. -/
def readByte? (cs : List Char) : Option Nat :=
  match cs with
  | '0' :: _ :: _ => none
  | _ =>
    match readDigits? 10 cs with
    | some value => if value ≤ 255 then some value else none
    | none => none

/-- Four decimal bytes with dots between them, as two pieces. -/
def readDotted? (cs : List Char) : Option (Nat × Nat) :=
  match (cs.splitOn '.').mapM readByte? with
  | some [a, b, c, d] => some (a * 256 + b, c * 256 + d)
  | _ => none

/-- The hexadecimal digits at the front, at most four, and what follows them. -/
def takePiece (source : List Char) : List Char × List Char :=
  let digits := (source.take 4).takeWhile isHex
  (digits, source.drop digits.length)

/-- Reads the pieces of an address after the first ones. -/
def readPieces (pieces : Pieces) (source : List Char) : Option Pieces :=
  match source with
  | [] => some pieces
  | c :: rest =>
    if pieces.values.length = 8 then none
    else if c = ':' then
      if pieces.gap.isSome then none else readPieces pieces.openGap rest
    else
      let taken := takePiece (c :: rest)
      let piece := foldDigits 16 0 taken.1
      match h : taken.2 with
      | [] => some (pieces.push piece)
      | '.' :: _ =>
        if taken.1.isEmpty || 6 < pieces.values.length then none
        else
          match readDotted? (c :: rest) with
          | some (high, low) => some ((pieces.push high).push low)
          | none => none
      | ':' :: after =>
        have : after.length < rest.length + 1 := by
          have hdrop := congrArg List.length h
          simp only [taken, takePiece, List.length_drop, List.length_cons] at hdrop
          omega
        if after.isEmpty then none else readPieces (pieces.push piece) after
      | _ => none
termination_by source.length

/-- Reads an address between its brackets. -/
def readIpv6? (source : List Char) : Option (List Nat) :=
  match source with
  | ':' :: ':' :: rest => (readPieces (Pieces.openGap ⟨[], none⟩) rest).bind Pieces.complete?
  | ':' :: _ => none
  | [] => none
  | [_] => none
  | other => (readPieces ⟨[], none⟩ other).bind Pieces.complete?

/-- The lengths of the runs of zeros that start at each place. -/
def zeroRuns : List Nat → List Nat
  | [] => []
  | value :: rest =>
    let runs := zeroRuns rest
    (if value = 0 then runs.headD 0 + 1 else 0) :: runs

/-- Pieces with colons between them. -/
def writePieces (values : List Nat) : List Char :=
  List.intercalate [':'] (values.map (writeDigits 16))

/-- Writes an address without brackets. -/
def writeIpv6 (values : List Nat) : List Char :=
  let runs := zeroRuns values
  let longest := runs.foldl max 0
  if longest < 2 then writePieces values
  else
    let start := runs.idxOf longest
    writePieces (values.take start) ++ [':', ':'] ++ writePieces (values.drop (start + longest))

end Host
end LinkFacts
