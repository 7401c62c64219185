import PageClip.Value

/-! Reading JSON. Objects keep the order of their keys, the last value of a repeated key
wins, and a fault is located by how many characters were still unread. Lists and objects are
read to a bounded depth, and integers to a bounded size. -/

namespace PageClip

def isJsonBlank (c : Char) : Bool := c == ' ' || c == '\t' || c == '\n' || c == '\r'

def skipJsonBlanks (t : Text) : Text := t.dropWhile isJsonBlank

theorem skipJsonBlanks_length_le (t : Text) : (skipJsonBlanks t).length ≤ t.length :=
  length_dropWhile_le isJsonBlank t

def hexValue? (c : Char) : Option Nat :=
  if c.isDigit then some (c.toNat - 48)
  else if 'a' ≤ c && c ≤ 'f' then some (c.toNat - 87)
  else if 'A' ≤ c && c ≤ 'F' then some (c.toNat - 55)
  else none

def hexQuad? (a b c d : Char) : Option Nat := do
  some ((((← hexValue? a) * 16 + (← hexValue? b)) * 16 + (← hexValue? c)) * 16 + (← hexValue? d))

/-- The character of an escape that is no number. -/
def jsonEscape? : Char → Option Char
  | '"' => some '"'
  | '\\' => some '\\'
  | '/' => some '/'
  | 'b' => some '\x08'
  | 'f' => some '\x0c'
  | 'n' => some '\n'
  | 'r' => some '\r'
  | 't' => some '\t'
  | _ => none

/-- The character of one code unit; half of a pair alone is a replacement character. -/
def unitChar (n : Nat) : Char := if 0xd800 ≤ n ∧ n < 0xe000 then '\ufffd' else Char.ofNat n

/-- The second half of a pair, written as an escape at the head of the text. -/
def lowHalf? (t : Text) : Except Nat (Option (Nat × Text)) :=
  match t with
  | '\\' :: 'u' :: a :: b :: c :: d :: e :: r =>
    match hexQuad? a b c d with
    | none => .error (r.length + 6)
    | some n => if 0xdc00 ≤ n ∧ n < 0xe000 then .ok (some (n, e :: r)) else .ok none
  | _ => .ok none

theorem lowHalf?_length {t r : Text} {n : Nat} (h : lowHalf? t = .ok (some (n, r))) :
    r.length ≤ t.length := by
  unfold lowHalf? at h
  split at h
  · split at h
    · exact absurd h (by simp)
    · split at h
      · simp only [Except.ok.injEq, Option.some.injEq, Prod.mk.injEq] at h
        rw [← h.2]
        simp only [List.length_cons]
        omega
      · exact absurd h (by simp)
  · exact absurd h (by simp)

/-- The characters up to the closing quote and the text behind it. An unclosed string is
located at `start`. -/
def jsonString (start : Nat) (t : Text) : Except Nat (Text × Text) :=
  match t with
  | [] => .error start
  | '"' :: r => .ok ([], r)
  | '\\' :: 'u' :: a :: b :: c :: d :: e :: r =>
    match hexQuad? a b c d with
    | none => .error (r.length + 6)
    | some n =>
      if 0xd800 ≤ n ∧ n < 0xdc00 then
        match _h : lowHalf? (e :: r) with
        | .error at_ => .error at_
        | .ok none => (jsonString start (e :: r)).map fun s => (unitChar n :: s.1, s.2)
        | .ok (some (low, rest)) => (jsonString start rest).map fun s =>
            (Char.ofNat (0x10000 + (n - 0xd800) * 0x400 + (low - 0xdc00)) :: s.1, s.2)
      else (jsonString start (e :: r)).map fun s => (unitChar n :: s.1, s.2)
  | '\\' :: 'u' :: r => .error (r.length + 1)
  | '\\' :: c :: r =>
    match jsonEscape? c with
    | some x => (jsonString start r).map fun s => (x :: s.1, s.2)
    | none => .error (r.length + 2)
  | ['\\'] => .error start
  | c :: r =>
    if c.toNat < 32 then .error (r.length + 1)
    else (jsonString start r).map fun s => (c :: s.1, s.2)
termination_by t.length
decreasing_by
  all_goals simp only [List.length_cons]
  any_goals omega
  have h := lowHalf?_length (by assumption)
  simp only [List.length_cons] at h
  omega

theorem Except.map_eq_ok {ε α β : Type} {f : α → β} {x : Except ε α} {b : β}
    (h : x.map f = .ok b) : ∃ a, x = .ok a ∧ f a = b := by
  cases x with
  | error => simp [Except.map] at h
  | ok a => exact ⟨a, rfl, by simpa [Except.map] using h⟩

theorem jsonString_length {start : Nat} {t s r : Text} (h : jsonString start t = .ok (s, r)) :
    r.length < t.length := by
  fun_induction jsonString start t generalizing s r
  all_goals try (simp at h; done)
  all_goals try
    obtain ⟨⟨s', r'⟩, hs, e⟩ := Except.map_eq_ok h
    simp only [Prod.mk.injEq] at e
    obtain ⟨rfl, rfl⟩ := e
  case case2 => simp_all
  case case6 ih =>
    have := ih hs
    have := lowHalf?_length (by assumption)
    simp only [List.length_cons] at *
    omega
  all_goals
    rename_i ih
    have := ih hs
    simp only [List.length_cons] at *
    omega

/-- Whole digits without a leading zero. -/
def wholeDigits? : Text → Option (Text × Text)
  | '0' :: t => some (['0'], t)
  | c :: t => if c.isDigit then some (c :: t.takeWhile Char.isDigit, t.dropWhile Char.isDigit) else none
  | [] => none

theorem wholeDigits?_length {t d r : Text} (h : wholeDigits? t = some (d, r)) :
    r.length < t.length := by
  unfold wholeDigits? at h
  split at h
  · simp_all
  · rename_i t _
    split at h
    · have := length_dropWhile_le Char.isDigit t
      simp only [Option.some.injEq, Prod.mk.injEq] at h
      rw [← h.2]
      simp only [List.length_cons]
      omega
    · exact absurd h (by simp)
  · exact absurd h (by simp)

/-- The digits of a fraction, if a point and a digit come next. -/
def fractionDigits (t : Text) : Text × Text :=
  match t with
  | '.' :: c :: r => if c.isDigit then ((c :: r).takeWhile Char.isDigit, (c :: r).dropWhile Char.isDigit) else ([], t)
  | _ => ([], t)

theorem fractionDigits_length_le (t : Text) : (fractionDigits t).2.length ≤ t.length := by
  unfold fractionDigits
  split
  · rename_i c r
    split
    · have := length_dropWhile_le Char.isDigit (c :: r)
      simp only [List.length_cons] at *
      omega
    · exact Nat.le_refl _
  · exact Nat.le_refl _

/-- Sign and digits of an exponent, if there is a whole one. -/
def exponentDigits (t : Text) : Option (Bool × Text) × Text :=
  match t with
  | e :: r =>
    let (negative, r) := match r with
      | '-' :: r => (true, r)
      | '+' :: r => (false, r)
      | r => (false, r)
    match r.takeWhile Char.isDigit with
    | [] => (none, t)
    | c :: digits =>
      if e == 'e' || e == 'E' then (some (negative, c :: digits), r.dropWhile Char.isDigit)
      else (none, t)
  | [] => (none, t)

theorem exponentDigits_length_le (t : Text) : (exponentDigits t).2.length ≤ t.length := by
  unfold exponentDigits
  split
  · rename_i e r
    dsimp only
    split
    · exact Nat.le_refl _
    · split
      · have := length_dropWhile_le Char.isDigit
          (match r with
            | '-' :: r => (true, r)
            | '+' :: r => (false, r)
            | r => (false, r)).2
        simp only [List.length_cons]
        split at this <;> simp_all <;> omega
      · exact Nat.le_refl _
  · exact Nat.le_refl _

/-- A number without a fraction and an exponent is an integer. -/
def jsonNumber? (t : Text) : Option (Value × Text) :=
  let (negative, u) := match t with
    | '-' :: u => (true, u)
    | u => (false, u)
  match wholeDigits? u with
  | none => none
  | some (whole, u) =>
    let (fraction, u) := fractionDigits u
    let (exponent, u) := exponentDigits u
    if fraction.isEmpty && exponent.isNone then
      let n : Int := digitsValue whole
      some (.int (if negative then -n else n), u)
    else some (.float (NumberText.value ⟨negative, whole, fraction, exponent⟩), u)

theorem jsonNumber?_length {t r : Text} {v : Value} (h : jsonNumber? t = some (v, r)) :
    r.length < t.length := by
  unfold jsonNumber? at h
  dsimp only at h
  split at h
  · exact absurd h (by simp)
  · rename_i whole u hw
    have h₁ := wholeDigits?_length hw
    have h₂ := fractionDigits_length_le u
    have h₃ := exponentDigits_length_le (fractionDigits u).2
    have hr : r = (exponentDigits (fractionDigits u).2).2 := by
      split at h <;> simp_all
    rw [hr]
    split at h₁ <;> simp_all <;> omega

def jsonWords : List (Text × Value) :=
  [("null".toList, .null), ("true".toList, .bool true), ("false".toList, .bool false),
   ("NaN".toList, .float .nan), ("Infinity".toList, .float (.infinite false)),
   ("-Infinity".toList, .float (.infinite true))]

def jsonWord? (t : Text) : Option (Value × Text) :=
  jsonWords.findSome? fun e => (afterPrefix? e.1 t).map fun r => (e.2, r)

theorem jsonWord?_length {t r : Text} {v : Value} (h : jsonWord? t = some (v, r)) :
    r.length < t.length := by
  obtain ⟨e, he, h⟩ := List.exists_of_findSome?_eq_some h
  obtain ⟨u, hu, h⟩ := Option.map_eq_some_iff.mp h
  simp only [Prod.mk.injEq] at h
  obtain ⟨-, rfl⟩ := h
  have hpos : 0 < e.1.length := by
    simp only [jsonWords, List.mem_cons, List.not_mem_nil, or_false] at he
    rcases he with rfl | rfl | rfl | rfl | rfl | rfl <;> decide
  rw [eq_append_of_afterPrefix? hu, List.length_append]
  omega

/-- A rest of a text that is shorter than the text. -/
structure Shorter (t : Text) where
  text : Text
  lt : text.length < t.length

def Shorter.mono {t u : Text} (r : Shorter t) (h : t.length ≤ u.length) : Shorter u :=
  ⟨r.text, Nat.lt_of_lt_of_le r.lt h⟩

/-- Why a text is no value: it is malformed with some characters still unread, or it asks for
more depth or digits than there is room for. -/
inductive JsonFault where
  | malformed (unread : Nat)
  | oversized
  deriving DecidableEq, Repr

/-- How deep lists and objects may lie in one another. Every level takes a frame of the
interpreter's stack, which has a thousand of them, and about fifty are taken when a body is
read. -/
def maxDepth : Nat := 950

/-- A number that was read from so many characters, when it is no integer of too many digits. -/
def sizedNumber (negative : Bool) (size : Nat) : Value → Except JsonFault Value
  | .int n => if maxDigits + (if negative then 1 else 0) < size then .error .oversized else .ok (.int n)
  | v => .ok v

mutual

def jsonValue (room : Nat) (t : Text) : Except JsonFault (Value × Shorter t) :=
  match _h : t with
  | [] => .error (.malformed 0)
  | '"' :: u =>
    match hs : jsonString (u.length + 1) u with
    | .error unread => .error (.malformed unread)
    | .ok (s, r) => .ok (.text s, ⟨r, Nat.lt_succ_of_lt (jsonString_length hs)⟩)
  | '[' :: u =>
    if room = 0 then .error .oversized else
    match hu : skipJsonBlanks u with
    | ']' :: r => .ok (.list [], ⟨r, by
        have := skipJsonBlanks_length_le u
        simp only [hu, List.length_cons] at *; omega⟩)
    | rest => do
      have hle : rest.length ≤ u.length := hu ▸ skipJsonBlanks_length_le u
      let (items, r) ← jsonItems (room - 1) rest
      .ok (.list items, r.mono (Nat.le_succ_of_le hle))
  | '{' :: u =>
    if room = 0 then .error .oversized else
    match hu : skipJsonBlanks u with
    | '}' :: r => .ok (.dict [], ⟨r, by
        have := skipJsonBlanks_length_le u
        simp only [hu, List.length_cons] at *; omega⟩)
    | rest => do
      have hle : rest.length ≤ u.length := hu ▸ skipJsonBlanks_length_le u
      let (entries, r) ← jsonEntries (room - 1) rest
      .ok (.dict (Dict.ofEntries entries), r.mono (Nat.le_succ_of_le hle))
  | c :: u =>
    match hn : jsonNumber? (c :: u), hw : jsonWord? (c :: u) with
    | some (v, r), _ => do
      let v ← sizedNumber (c == '-') ((c :: u).length - r.length) v
      .ok (v, ⟨r, jsonNumber?_length hn⟩)
    | none, some (v, r) => .ok (v, ⟨r, jsonWord?_length hw⟩)
    | none, none => .error (.malformed (u.length + 1))
termination_by (t.length, 0)
decreasing_by
  all_goals
    apply Prod.Lex.left
    simp only [List.length_cons]
    omega

/-- Values with commas between them, up to the closing bracket. -/
def jsonItems (room : Nat) (t : Text) : Except JsonFault (List Value × Shorter t) := do
  let (v, r) ← jsonValue room t
  match hr : skipJsonBlanks r.text with
  | ']' :: rest => .ok ([v], ⟨rest, by
      have := skipJsonBlanks_length_le r.text
      have := r.lt
      simp only [hr, List.length_cons] at *; omega⟩)
  | ',' :: rest =>
    have hlt : (skipJsonBlanks rest).length < t.length := by
      have := skipJsonBlanks_length_le r.text
      have := skipJsonBlanks_length_le rest
      have := r.lt
      simp only [hr, List.length_cons] at *; omega
    let (vs, r) ← jsonItems room (skipJsonBlanks rest)
    .ok (v :: vs, r.mono (Nat.le_of_lt hlt))
  | rest => .error (.malformed rest.length)
termination_by (t.length, 1)
decreasing_by
  · exact Prod.Lex.right _ Nat.zero_lt_one
  · exact Prod.Lex.left _ _ hlt

/-- Keys and values with commas between them, up to the closing brace. -/
def jsonEntries (room : Nat) (t : Text) : Except JsonFault (List (Text × Value) × Shorter t) :=
  match t with
  | '"' :: u =>
    match hk : jsonString (u.length + 1) u with
    | .error unread => .error (.malformed unread)
    | .ok (key, r) =>
      match hc : skipJsonBlanks r with
      | ':' :: r' => do
        have hlt : (skipJsonBlanks r').length < ('"' :: u).length := by
          have := jsonString_length hk
          have := skipJsonBlanks_length_le r
          have := skipJsonBlanks_length_le r'
          simp only [hc, List.length_cons] at *; omega
        let (v, s) ← jsonValue room (skipJsonBlanks r')
        match hs : skipJsonBlanks s.text with
        | '}' :: rest => .ok ([(key, v)], ⟨rest, by
            have := skipJsonBlanks_length_le s.text
            have := s.lt
            simp only [hs, List.length_cons] at *; omega⟩)
        | ',' :: rest =>
          have hlt' : (skipJsonBlanks rest).length < ('"' :: u).length := by
            have := skipJsonBlanks_length_le s.text
            have := skipJsonBlanks_length_le rest
            have := s.lt
            simp only [hs, List.length_cons] at *; omega
          let (vs, r) ← jsonEntries room (skipJsonBlanks rest)
          .ok ((key, v) :: vs, r.mono (Nat.le_of_lt hlt'))
        | rest => .error (.malformed rest.length)
      | rest => .error (.malformed rest.length)
  | rest => .error (.malformed rest.length)
termination_by (t.length, 1)
decreasing_by
  · exact Prod.Lex.left _ _ hlt
  · exact Prod.Lex.left _ _ hlt'

end

/-- The value that a whole text stands for. A malformed text is located by an index. -/
def readJson (t : Text) : Except JsonFault Value :=
  match jsonValue maxDepth (skipJsonBlanks t) with
  | .error (.malformed unread) => .error (.malformed (t.length - unread))
  | .error .oversized => .error .oversized
  | .ok (v, r) =>
    match skipJsonBlanks r.text with
    | [] => .ok v
    | rest => .error (.malformed (t.length - rest.length))

end PageClip
