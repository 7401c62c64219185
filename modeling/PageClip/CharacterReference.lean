import PageClip.CharacterNameTable
import PageClip.Charset
import PageClip.CodeTable
import PageClip.PercentCoding

/-! References to characters, by name or by number, in the text of markup. -/

namespace PageClip

/-- A row of the table as names with the texts they stand for. -/
def characterNamesOf (row : String) : List (Text × Text) :=
  (splitAtChar ' ' row.toList).map fun entry =>
    let (name, codes) := cutAt '=' entry
    (name, (splitAtChar ',' (codes.getD [])).map fun code => Char.ofNat (hexNumber code))

def characterNames : List (Text × Text) := characterNameRows.flatMap characterNamesOf

def bareNames : List Text := bareNameRows.flatMap fun row => splitAtChar ' ' row.toList

def namedText? (name : Text) : Option Text :=
  (characterNames.find? fun e => e.1 == name).map (·.2)

/-- The codes of a western charset from 0x80 to 0x9f; 0 where there is none. -/
def windows1252Codes : List Nat :=
  [0x20ac, 0, 0x201a, 0x192, 0x201e, 0x2026, 0x2020, 0x2021, 0x2c6, 0x2030, 0x160, 0x2039, 0x152,
   0, 0x17d, 0, 0, 0x2018, 0x2019, 0x201c, 0x201d, 0x2022, 0x2013, 0x2014, 0x2dc, 0x2122, 0x161,
   0x203a, 0x153, 0, 0x17e, 0x178]

/-- The character of a number. The codes of the control range are those of a western charset,
and what is no character becomes the replacement. -/
def numberedChar (n : Nat) : Char :=
  if n = 0 ∨ ¬ n.isValidChar then replacement
  else if 0x80 ≤ n ∧ n < 0xa0 then
    match windows1252Codes[n - 0x80]? with
    | some (code + 1) => Char.ofNat (code + 1)
    | _ => Char.ofNat n
  else Char.ofNat n

def skipSemicolon : Text → Text
  | ';' :: t => t
  | t => t

/-- A number behind the sign of a numeric reference, when there is a digit. -/
def numberAt? (isDigit : Char → Bool) (value : Text → Nat) (t : Text) : Option (Text × Text) :=
  match t.takeWhile isDigit with
  | [] => none
  | d :: ds => some ([numberedChar (value (d :: ds))], skipSemicolon (t.dropWhile isDigit))

/-- The longest bare name that the word begins with, and what it stands for. -/
def bareNameAt? (word : Text) : Option (Text × Text) :=
  [6, 5, 4, 3, 2].findSome? fun n =>
    let name := word.take n
    if bareNames.contains name then (namedText? name).map fun t => (name, t) else none

/-- A name that lacks its semicolon is none in an attribute that goes on with a letter, a digit
or an equals sign. -/
def bareReference? (inAttribute : Bool) (t : Text) : Option (Text × Text) :=
  match bareNameAt? (t.takeWhile Char.isAlphanum) with
  | none => none
  | some (name, value) =>
    let rest := t.drop name.length
    if inAttribute && rest.head?.any (fun c => c.isAlphanum || c == '=') then none
    else some (value, rest)

def namedReference? (inAttribute : Bool) (t : Text) : Option (Text × Text) :=
  match t.dropWhile Char.isAlphanum, namedText? (t.takeWhile Char.isAlphanum) with
  | ';' :: rest, some value => some (value, rest)
  | _, _ => bareReference? inAttribute t

/-- What a reference stands for and what follows it, `t` being the text behind its sign. -/
def reference? (inAttribute : Bool) (t : Text) : Option (Text × Text) :=
  match t with
  | '#' :: 'x' :: u => numberAt? isHexDigit hexNumber u
  | '#' :: 'X' :: u => numberAt? isHexDigit hexNumber u
  | '#' :: u => numberAt? Char.isDigit digitsValue u
  | u => namedReference? inAttribute u

theorem skipSemicolon_length_le (t : Text) : (skipSemicolon t).length ≤ t.length := by
  unfold skipSemicolon
  split <;> simp

theorem numberAt?_length {isDigit : Char → Bool} {value : Text → Nat} {t v rest : Text}
    (h : numberAt? isDigit value t = some (v, rest)) : rest.length ≤ t.length := by
  unfold numberAt? at h
  split at h
  · exact absurd h (by simp)
  · injection h with h
    injection h with _ h
    exact h ▸ Nat.le_trans (skipSemicolon_length_le _) (length_dropWhile_le _ _)

theorem bareReference?_length {inAttribute : Bool} {t v rest : Text}
    (h : bareReference? inAttribute t = some (v, rest)) : rest.length ≤ t.length := by
  unfold bareReference? at h
  split at h
  · exact absurd h (by simp)
  · dsimp only at h
    split at h
    · exact absurd h (by simp)
    · injection h with h
      injection h with _ h
      simp [← h]

theorem namedReference?_length {inAttribute : Bool} {t v rest : Text}
    (h : namedReference? inAttribute t = some (v, rest)) : rest.length ≤ t.length := by
  unfold namedReference? at h
  split at h
  · rename_i u w e _
    injection h with h
    injection h with _ h
    subst h
    have := length_dropWhile_le Char.isAlphanum t
    rw [e] at this
    simp only [List.length_cons] at this
    omega
  · exact bareReference?_length h

theorem reference?_length {inAttribute : Bool} {t v rest : Text}
    (h : reference? inAttribute t = some (v, rest)) : rest.length ≤ t.length := by
  unfold reference? at h
  split at h
  · have := numberAt?_length h
    simp only [List.length_cons]
    omega
  · have := numberAt?_length h
    simp only [List.length_cons]
    omega
  · have := numberAt?_length h
    simp only [List.length_cons]
    omega
  · exact namedReference?_length h

/-- Text with its references resolved. A sign that begins none stays. -/
def resolveReferences (inAttribute : Bool) (t : Text) : Text :=
  let run := t.takeWhile (· != '&')
  match _h : t.dropWhile (· != '&') with
  | [] => run
  | _ :: u =>
    match _r : reference? inAttribute u with
    | some (value, rest) => run ++ value ++ resolveReferences inAttribute rest
    | none => run ++ '&' :: resolveReferences inAttribute u
termination_by t.length
decreasing_by
  · have := reference?_length _r
    have hd := length_dropWhile_le (· != '&') t
    rw [_h] at hd
    simp only [List.length_cons] at hd
    omega
  · have hd := length_dropWhile_le (· != '&') t
    rw [_h] at hd
    simp only [List.length_cons] at hd
    omega

end PageClip
