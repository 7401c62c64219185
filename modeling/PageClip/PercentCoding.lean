import PageClip.Charset
import PageClip.JsonText

/-! Percent encoding of characters that a part of a URL cannot hold as they are. -/

namespace PageClip

def isHexDigit (c : Char) : Bool := (hexValue? c).isSome

def percentByte (b : UInt8) : Text := '%' :: (hexDigits 2 b.toNat).map Char.toUpper

def percentChar (c : Char) : Text := (String.utf8EncodeChar c).flatMap percentByte

/-- Encodes all but the safe characters and the escapes that are already there. -/
def percentEncode (safe : Char → Bool) : Text → Text
  | [] => []
  | '%' :: a :: b :: t =>
    if isHexDigit a && isHexDigit b then '%' :: a :: b :: percentEncode safe t
    else (if safe '%' then ['%'] else percentChar '%') ++ percentEncode safe (a :: b :: t)
  | c :: t => (if safe c then [c] else percentChar c) ++ percentEncode safe t

/-- The bytes of a text whose escapes are resolved. -/
def percentDecode : Text → Bytes
  | [] => []
  | '%' :: a :: b :: t =>
    match hexValue? a, hexValue? b with
    | some x, some y => UInt8.ofNat (x * 16 + y) :: percentDecode t
    | _, _ => 0x25 :: percentDecode (a :: b :: t)
  | c :: t => String.utf8EncodeChar c ++ percentDecode t

/-- Printable ASCII, without the characters of a text. -/
def printableExcept (excluded : String) (c : Char) : Bool :=
  0x20 ≤ c.toNat && c.toNat < 0x7f && !excluded.toList.contains c

end PageClip
