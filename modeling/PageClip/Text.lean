/-! Text as a list of characters, so that every definition over it recurses on the data.
Blanks, line breaks and the small searches that the rest of the library shares. -/

namespace PageClip

abbrev Text := List Char

/-- White space in the Unicode sense, without the zero-width characters. -/
def isBlank (c : Char) : Bool :=
  let n := c.toNat
  (9 ≤ n && n ≤ 13) || (28 ≤ n && n ≤ 32) || n == 0x85 || n == 0xa0 || n == 0x1680 ||
    (0x2000 ≤ n && n ≤ 0x200a) || n == 0x2028 || n == 0x2029 || n == 0x202f ||
    n == 0x205f || n == 0x3000

def isLineBreak (c : Char) : Bool :=
  let n := c.toNat
  (10 ≤ n && n ≤ 13) || (28 ≤ n && n ≤ 30) || n == 0x85 || n == 0x2028 || n == 0x2029

def trimStart (t : Text) : Text := t.dropWhile isBlank

def trimEnd (t : Text) : Text := (t.reverse.dropWhile isBlank).reverse

def trim (t : Text) : Text := trimEnd (trimStart t)

theorem length_dropWhile_le (p : Char → Bool) (t : Text) :
    (t.dropWhile p).length ≤ t.length :=
  (List.dropWhile_sublist p).length_le

theorem trimStart_length_le (t : Text) : (trimStart t).length ≤ t.length :=
  length_dropWhile_le isBlank t

theorem trimEnd_length_le (t : Text) : (trimEnd t).length ≤ t.length := by
  have h := length_dropWhile_le isBlank t.reverse
  simpa [trimEnd] using h

theorem trim_length_le (t : Text) : (trim t).length ≤ t.length :=
  Nat.le_trans (trimEnd_length_le _) (trimStart_length_le t)

/-- The rest of a text that starts with `part`. -/
def afterPrefix? : Text → Text → Option Text
  | [], t => some t
  | _ :: _, [] => none
  | p :: part, c :: t => if p = c then afterPrefix? part t else none

theorem eq_append_of_afterPrefix? {part t r : Text} (h : afterPrefix? part t = some r) :
    t = part ++ r := by
  induction part generalizing t with
  | nil => simpa [afterPrefix?] using h
  | cons p part ih =>
    cases t with
    | nil => simp [afterPrefix?] at h
    | cons c t =>
      by_cases hp : p = c
      · subst hp
        simp only [afterPrefix?, if_true] at h
        simp [ih h]
      · simp [afterPrefix?, hp] at h

/-- What follows `token` once the blanks before it are skipped. -/
def afterToken? (token : Text) (t : Text) : Option Text := afterPrefix? token (trimStart t)

/-- Whether `part` occurs somewhere in the text. -/
def occursIn (part : Text) : Text → Bool
  | [] => part.isEmpty
  | c :: t => part.isPrefixOf (c :: t) || occursIn part t

/-- The text before the first `c`, and the text after it when there is one. -/
def cutAt (c : Char) (t : Text) : Text × Option Text :=
  (t.takeWhile (· != c), (t.dropWhile (· != c)).tail?)

/-- The text before the last `c` and the text after it. -/
def cutAtLast? (c : Char) (t : Text) : Option (Text × Text) :=
  let r := t.reverse
  match r.dropWhile (· != c) with
  | [] => none
  | _ :: before => some (before.reverse, (r.takeWhile (· != c)).reverse)

/-- Adds a character in front of the first part. -/
def consHead (c : Char) : List Text → List Text
  | [] => [[c]]
  | p :: ps => (c :: p) :: ps

/-- The pieces between the occurrences of one character. -/
def splitAtChar (sep : Char) : Text → List Text
  | [] => [[]]
  | c :: t => if c = sep then [] :: splitAtChar sep t else consHead c (splitAtChar sep t)

/-- Lines without their ends; a carriage return with its newline is one end. -/
def lines : Text → List Text
  | [] => []
  | '\r' :: '\n' :: t => [] :: lines t
  | c :: t => if isLineBreak c then [] :: lines t else consHead c (lines t)

def joinWith (sep : Text) (parts : List Text) : Text := List.intercalate sep parts

/-- A count in decimal digits. -/
def decimal (n : Nat) : Text := (toString n).toList

/-- The most digits that an integer is read with. -/
def maxDigits : Nat := 4300

/-- The number that digits write in a base, the leading one first. -/
def joinDigits (base : Nat) (digits : List Nat) : Nat := digits.foldl (fun n d => base * n + d) 0

end PageClip
