import LinkFacts.Text.Digits
import LinkFacts.Text.Utf8

/-!
# Percent encoding

Writing bytes as a percent sign and two hexadecimal digits, and reading them back.
-/

namespace LinkFacts
namespace Text

/-- One byte as a percent sign and two upper case digits. -/
def percentByte (byte : Nat) : List Char :=
  '%' :: (writePadded 16 2 byte).map Char.toUpper

/-- Encodes the characters that are not ASCII or that `encoded` selects. -/
def percentEncode (encoded : Char → Bool) (cs : List Char) : List Char :=
  cs.flatMap fun c =>
    if isAscii c && !encoded c then [c] else (encodeChar c).flatMap percentByte

/-- The bytes of a text in which a percent sign and two digits stand for one byte. -/
def percentDecode : List Char → List Nat
  | '%' :: high :: low :: rest =>
    match digitValue? high, digitValue? low with
    | some first, some second => (first * 16 + second) :: percentDecode rest
    | _, _ => encodeChar '%' ++ percentDecode (high :: low :: rest)
  | c :: rest => encodeChar c ++ percentDecode rest
  | [] => []

end Text
end LinkFacts
