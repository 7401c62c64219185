import PageClip.Text

/-! Binary64 numbers as exact values, the number nearest to a decimal, and the shortest
decimal that reads back. All of it is arithmetic on natural numbers. -/

namespace PageClip

/-- A finite number is `mantissa · 2 ^ exponent` with `mantissa < 2 ^ 53` and
`-1074 ≤ exponent`. -/
inductive Binary64 where
  | nan
  | infinite (negative : Bool)
  | finite (negative : Bool) (mantissa : Nat) (exponent : Int)
  deriving DecidableEq, Repr

/-- Division to the nearest whole number; a half goes to the even neighbour. -/
def roundDiv (num den : Nat) : Nat :=
  let q := num / den
  let r := num % den
  if 2 * r < den then q
  else if den < 2 * r then q + 1
  else if q % 2 = 0 then q else q + 1

/-- A power of a base as a numerator and a denominator. -/
def powerRatio (base : Nat) (e : Int) : Nat × Nat :=
  match e with
  | .ofNat n => (Nat.pow base n, 1)
  | .negSucc n => (1, Nat.pow base (n + 1))

/-- The whole part of the binary logarithm of a positive ratio. -/
def ratioLog2 (num den : Nat) : Int :=
  let k : Int := (num.log2 : Int) - (den.log2 : Int)
  let (a, b) := powerRatio 2 k
  if den * a ≤ num * b then k else k - 1

/-- The number nearest to a positive ratio. -/
def Binary64.ofRatio (negative : Bool) (num den : Nat) : Binary64 :=
  let e := max (-1074) (ratioLog2 num den - 52)
  let (a, b) := powerRatio 2 e
  let m := roundDiv (num * b) (den * a)
  let (m, e) := if m = Nat.pow 2 53 then (Nat.pow 2 52, e + 1) else (m, e)
  if 971 < e then .infinite negative else .finite negative m e

def digitCount (n : Nat) : Nat := (Nat.toDigits 10 n).length

/-- The number nearest to `digits · 10 ^ exponent`. -/
def Binary64.ofDecimal (negative : Bool) (digits : Nat) (exponent : Int) : Binary64 :=
  let size := (digitCount digits : Int) + exponent
  if digits = 0 ∨ size < -400 then .finite negative 0 (-1074)
  else if 400 < size then .infinite negative
  else
    let (a, b) := powerRatio 10 exponent
    .ofRatio negative (digits * a) b

/-- The exponent `p` with `10 ^ (p - 1) ≤ mantissa · 2 ^ exponent < 10 ^ p`. -/
def decimalMagnitude (mantissa : Nat) (exponent : Int) : Int :=
  let (a, b) := powerRatio 2 exponent
  if b ≤ mantissa * a then digitCount (mantissa * a / b)
  else 1 - (digitCount ((b - 1) / (mantissa * a)) : Int)

/-- The decimal with `count` digits that is nearest to the number, if it reads back: its
digits, of two neighbours that both read back the nearer. Ends of the interval of reals that
round to the number belong to it when the mantissa is even. -/
def decimalOfCount? (mantissa : Nat) (exponent : Int) (count : Nat) : Option Nat :=
  let q := decimalMagnitude mantissa exponent - count
  let (a, b) := powerRatio 10 q
  let (c, d) := powerRatio 2 (exponent - 2)
  let unit := a * d
  let scale := c * b
  let value := 4 * mantissa * scale
  let low := (4 * mantissa - if mantissa = Nat.pow 2 52 ∧ -1074 < exponent then 1 else 2) * scale
  let high := (4 * mantissa + 2) * scale
  let reads (n : Nat) : Bool :=
    if mantissa % 2 = 0 then low ≤ n * unit && n * unit ≤ high
    else low < n * unit && n * unit < high
  let below := value / unit
  let above := below + 1
  let down := value - below * unit
  let up := above * unit - value
  match reads below, reads above with
  | true, true =>
    if down < up then some below
    else if up < down then some above
    else if below % 2 = 0 then some below else some above
  | true, false => some below
  | false, true => some above
  | false, false => none

/-- The shortest decimal that reads back, as digits and the exponent of the last one. -/
def shortestDecimal (mantissa : Nat) (exponent : Int) : Nat × Int :=
  let p := decimalMagnitude mantissa exponent
  let found := (List.range 17).findSome? fun i =>
    (decimalOfCount? mantissa exponent (i + 1)).map fun digits => (digits, p - (i + 1))
  found.getD (mantissa, exponent)

def trimZeros (digits : Text) : Text := (digits.reverse.dropWhile (· == '0')).reverse

/-- Decimal text: positional when the point falls between four zeros after it and sixteen
digits before it, else with an exponent of at least two digits. -/
def decimalText (digits : Nat) (exponent : Int) : Text :=
  let all := Nat.toDigits 10 digits
  let ds := trimZeros all
  let point := (all.length : Int) + exponent
  if -4 < point ∧ point ≤ 16 then
    if point ≤ 0 then ['0', '.'] ++ List.replicate (-point).toNat '0' ++ ds
    else if (ds.length : Int) ≤ point then
      ds ++ List.replicate (point - ds.length).toNat '0' ++ ['.', '0']
    else ds.take point.toNat ++ ['.'] ++ ds.drop point.toNat
  else
    let e := point - 1
    let size := Nat.toDigits 10 e.natAbs
    ds.take 1 ++ (if ds.length ≤ 1 then [] else '.' :: ds.drop 1) ++
      ['e', if e < 0 then '-' else '+'] ++ (if size.length < 2 then '0' :: size else size)

def Binary64.display : Binary64 → Text
  | .nan => "nan".toList
  | .infinite negative => (if negative then ['-'] else []) ++ "inf".toList
  | .finite negative m e =>
    (if negative then ['-'] else []) ++
      if m = 0 then "0.0".toList else
        let (digits, exponent) := shortestDecimal m e
        decimalText digits exponent

/-- Whether the number is finite and whole. -/
def Binary64.isWhole : Binary64 → Bool
  | .finite _ m (.negSucc n) => m % Nat.pow 2 (n + 1) == 0
  | .finite .. => true
  | _ => false

/-- The parts of a number's text: a sign, whole digits, digits of a fraction, and an exponent. -/
structure NumberText where
  negative : Bool
  whole : Text
  fraction : Text
  exponent : Option (Bool × Text)
  deriving DecidableEq, Repr

def digitsValue (t : Text) : Nat := t.foldl (fun n c => 10 * n + (c.toNat - 48)) 0

def NumberText.value (n : NumberText) : Binary64 :=
  let e : Int := match n.exponent with
    | none => 0
    | some (negative, digits) => if negative then -(digitsValue digits : Int) else digitsValue digits
  .ofDecimal n.negative (digitsValue (n.whole ++ n.fraction)) (e - n.fraction.length)

end PageClip
