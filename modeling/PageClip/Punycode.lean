import PageClip.CodeTable

/-! Punycode: text of any script in letters and digits. -/

namespace PageClip

def punycodeDigit (d : Nat) : Char :=
  if d < 26 then Char.ofNat (97 + d) else Char.ofNat (48 + (d - 26))

def adaptBias (delta points : Nat) (first : Bool) : Nat :=
  let delta := if first then delta / 700 else delta / 2
  reduce (delta + delta / points) 0
where
  reduce (delta k : Nat) : Nat :=
    if _h : 455 < delta then reduce (delta / 35) (k + 36) else k + 36 * delta / (delta + 38)
  termination_by delta
  decreasing_by omega

def digitThreshold (k bias : Nat) : Nat :=
  if k ≤ bias then 1 else if bias + 26 ≤ k then 26 else k - bias

theorem digitThreshold_pos (k bias : Nat) : 1 ≤ digitThreshold k bias := by
  unfold digitThreshold
  split
  · exact Nat.le_refl 1
  · split <;> omega

theorem digit_quotient_lt {q t : Nat} (n : Nat) (ht : 1 ≤ t) (h : ¬q < t) : (q - t) / n < q := by
  have := Nat.div_le_self (q - t) n
  omega

/-- A number in digits of varying base: the threshold of the digit at `k` follows the bias. -/
def variableDigits (q k bias : Nat) : Text :=
  if h : q < digitThreshold k bias then [punycodeDigit q]
  else
    let t := digitThreshold k bias
    punycodeDigit (t + (q - t) % (36 - t)) :: variableDigits ((q - t) / (36 - t)) (k + 36) bias
termination_by q
decreasing_by exact digit_quotient_lt _ (digitThreshold_pos k bias) h

structure PunycodeState where
  delta : Nat
  bias : Nat
  done : Nat
  out : Text

/-- Passes over the text once for one code point, which is the least not yet written. -/
def punycodePass (code basic : Nat) (s : PunycodeState) (t : Text) : PunycodeState :=
  let s := t.foldl (fun s c =>
    if c.toNat < code then { s with delta := s.delta + 1 }
    else if c.toNat = code then
      { delta := 0
        bias := adaptBias s.delta (s.done + 1) (s.done == basic)
        done := s.done + 1
        out := s.out ++ variableDigits s.delta 36 s.bias }
    else s) s
  { s with delta := s.delta + 1 }

def punycode (t : Text) : Text :=
  let basic := t.filter fun c => c.toNat < 128
  let codes := ((codesOf t).filter (128 ≤ ·)).mergeSort.eraseDups
  let start : PunycodeState :=
    ⟨0, 72, basic.length, basic ++ if basic.isEmpty then [] else ['-']⟩
  let (s, _) := codes.foldl (fun (s, next) code =>
    let s := { s with delta := s.delta + (code - next) * (s.done + 1) }
    (punycodePass code basic.length s t, code + 1)) (start, 128)
  s.out

def punycodeValue? (c : Char) : Option Nat :=
  if c.isDigit then some (c.toNat - 22)
  else if c.isLower then some (c.toNat - 97)
  else if c.isUpper then some (c.toNat - 65)
  else none

/-- Reads a number that `variableDigits` writes, adding `weight` times its digits to `sum`. -/
def variableNumber? (k bias weight sum : Nat) : Text → Option (Nat × Text)
  | [] => none
  | c :: t =>
    match punycodeValue? c with
    | none => none
    | some d =>
      let threshold := digitThreshold k bias
      if d < threshold then some (sum + d * weight, t)
      else variableNumber? (k + 36) bias (weight * (36 - threshold)) (sum + d * weight) t

theorem variableNumber?_length {k bias weight sum n : Nat} {t r : Text}
    (h : variableNumber? k bias weight sum t = some (n, r)) : r.length < t.length := by
  induction t generalizing k weight sum with
  | nil => simp [variableNumber?] at h
  | cons c t ih =>
    rw [variableNumber?] at h
    split at h
    · exact absurd h (by simp)
    · dsimp only at h
      split at h
      · simp only [Option.some.injEq, Prod.mk.injEq] at h
        simp [← h.2]
      · exact Nat.lt_succ_of_lt (ih h)

/-- Inserts the codes that the digits tell into `codes`: each number is how far to go on from
the place behind the last one, round after round with the next code. -/
def insertCodes (first : Bool) (code place bias : Nat) (codes : Codes) (digits : Text) :
    Option Codes :=
  match digits with
  | [] => some codes
  | c :: t =>
    match _h : variableNumber? 36 bias 1 0 (c :: t) with
    | none => none
    | some (delta, rest) =>
      let size := codes.length + 1
      let code := code + (place + delta) / size
      let place := (place + delta) % size
      if 0x10ffff < code then none
      else insertCodes false code (place + 1) (adaptBias delta size first)
        (codes.insertIdx place code) rest
termination_by digits.length
decreasing_by exact variableNumber?_length _h

/-- The codes of a text in punycode; its plain characters end at the last hyphen. -/
def punycodeCodes? (t : Text) : Option Codes :=
  let (plain, digits) := (cutAtLast? '-' t).getD ([], t)
  insertCodes true 128 0 72 (codesOf plain) digits

/-- A label of a host name in ASCII. -/
def asciiLabel (t : Text) : Text :=
  if t.all fun c => c.toNat < 128 then t else "xn--".toList ++ punycode t

end PageClip
