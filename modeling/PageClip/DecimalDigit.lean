import PageClip.CodeTable

/-! Integers in the digits of any script. -/

namespace PageClip

/-- The zeros, in hexadecimal codes; the other nine digits follow each of them. -/
def zeroRows : List String := [
  "30 660 6f0 7c0 966 9e6 a66 ae6 b66 be6 c66 ce6 d66 de6 e50 ed0 f20 1040 1090 17e0 1810 1946",
  "19d0 1a80 1a90 1b50 1bb0 1c40 1c50 a620 a8d0 a900 a9d0 a9f0 aa50 abf0 ff10 104a0 10d30 11066",
  "110f0 11136 111d0 112f0 11450 114d0 11650 116c0 11730 118e0 11950 11c50 11d50 11da0 16a60",
  "16ac0 16b50 1d7ce 1d7d8 1d7e2 1d7ec 1d7f6 1e140 1e2f0 1e950 1fbf0"]

def zeroCodes : List Nat := (rowEntries zeroRows).map hexNumber

/-- The value of a decimal digit of any script. -/
def digitValue? (c : Char) : Option Nat :=
  (zeroCodes.find? fun z => z ≤ c.toNat && c.toNat < z + 10).map (c.toNat - ·)

inductive DecimalFault where
  | malformed
  | tooLong (digits : Nat)
  deriving DecidableEq, Repr

/-- The spaces around an integer, which the separators U+001C to U+001F are none of. -/
def isDecimalBlank (c : Char) : Bool := isBlank c && !(28 ≤ c.toNat && c.toNat ≤ 31)

/-- Digits with single underscores between them, `behindDigit` telling whether one may come. -/
def digitsBetween (behindDigit : Bool) : Text → Option (List Nat × Text)
  | [] => if behindDigit then some ([], []) else none
  | c :: t =>
    match digitValue? c with
    | some d => (digitsBetween true t).map fun r => (d :: r.1, r.2)
    | none =>
      if !behindDigit then none
      else if c == '_' then digitsBetween false t
      else some ([], c :: t)

/-- An integer with blanks around it, a sign, and single underscores between its digits. -/
def readDecimal (t : Text) : Except DecimalFault Int :=
  let (negative, digits) := match t.dropWhile isDecimalBlank with
    | '-' :: r => (true, r)
    | '+' :: r => (false, r)
    | r => (false, r)
  match digitsBetween false digits with
  | none => .error .malformed
  | some (digits, rest) =>
    if maxDigits < digits.length then .error (.tooLong digits.length)
    else if !rest.all isDecimalBlank then .error .malformed
    else
      let n : Int := joinDigits 10 digits
      .ok (if negative then -n else n)

end PageClip
