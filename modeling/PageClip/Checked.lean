import PageClip.Value

/-! Checked reading of values: either a result, or every issue found, in the order of the
fields, each with the place of the value at fault. -/

namespace PageClip

inductive IssueKind where
  | missing
  | notText
  | notDict
  | notInteger
  | unreadableInteger
  | fractionalInteger
  | infiniteInteger
  | oversizedInteger
  | notObject
  | unreadableUrl
  | unsupportedScheme
  | notUrl
  | oversizedUrl
  | malformedJson
  deriving DecidableEq, Repr

def IssueKind.code : IssueKind → Text
  | .missing => "missing".toList
  | .notText => "string_type".toList
  | .notDict => "dict_type".toList
  | .notInteger => "int_type".toList
  | .unreadableInteger => "int_parsing".toList
  | .fractionalInteger => "int_from_float".toList
  | .infiniteInteger => "finite_number".toList
  | .oversizedInteger => "int_parsing_size".toList
  | .notObject => "model_attributes_type".toList
  | .unreadableUrl => "url_parsing".toList
  | .unsupportedScheme => "url_scheme".toList
  | .notUrl => "url_type".toList
  | .oversizedUrl => "url_too_long".toList
  | .malformedJson => "json_invalid".toList

/-- A step to the value at fault: a key, or an index into a raw text. -/
inductive Place where
  | key (name : Text)
  | index (n : Nat)
  deriving DecidableEq, Repr

structure Issue where
  place : List Place
  kind : IssueKind
  deriving DecidableEq, Repr

inductive Checked (α : Type) where
  | ok (a : α)
  | bad (issues : List Issue)

namespace Checked

variable {α β : Type}

def map (f : α → β) : Checked α → Checked β
  | ok a => ok (f a)
  | bad issues => bad issues

/-- Both parts are checked, and the issues of the first come first. -/
def ap : Checked (α → β) → Checked α → Checked β
  | ok f, ok a => ok (f a)
  | ok _, bad issues => bad issues
  | bad issues, ok _ => bad issues
  | bad issues, bad more => bad (issues ++ more)

instance : Applicative Checked where
  pure := ok
  seq f a := ap f (a ())
  map := map

def fail (kind : IssueKind) : Checked α := bad [⟨[], kind⟩]

/-- Issues below a key are placed under that key. -/
def under (step : Place) : Checked α → Checked α
  | ok a => ok a
  | bad issues => bad (issues.map fun i => { i with place := step :: i.place })

end Checked

/-- The first of the names that the entries have, with its value. -/
def firstNamed? (entries : Dict Value) (names : List Text) : Option (Text × Value) :=
  names.findSome? fun name => (entries.get? name).map fun v => (name, v)

section
variable {α : Type}

/-- A field that has to be there. -/
def required (read : Value → Checked α) (name : Text) (entries : Dict Value) : Checked α :=
  match entries.get? name with
  | some v => (read v).under (.key name)
  | none => (Checked.fail .missing).under (.key name)

/-- A field with a default, under the first of its names that is given. -/
def optional (read : Value → Checked α) (absent : α) (names : List Text)
    (entries : Dict Value) : Checked α :=
  match firstNamed? entries names with
  | some (name, v) => (read v).under (.key name)
  | none => .ok absent

def nullable (read : Value → Checked α) : Value → Checked (Option α)
  | .null => .ok none
  | v => (read v).map some

/-- The fields of an object, whatever else it holds. -/
def object (read : Dict Value → Checked α) : Value → Checked α
  | .dict entries => read entries
  | _ => .fail .notObject

/-- Every entry of a dictionary, each under its key. -/
def eachEntry (read : Value → Checked α) : List (Text × Value) → Checked (Dict α)
  | [] => .ok []
  | (k, v) :: rest =>
    (fun a more => (k, a) :: more) <$> (read v).under (.key k) <*> eachEntry read rest

end

def readText : Value → Checked Text
  | .text t => .ok t
  | _ => .fail .notText

def readDict : Value → Checked (Dict Value)
  | .dict entries => .ok entries
  | _ => .fail .notDict

/-- Spaces at the ends of an integer's text, the separators U+001C to U+001F not among them. -/
def isIntegerBlank (c : Char) : Bool := isBlank c && !(28 ≤ c.toNat && c.toNat ≤ 31)

/-- Drops leading zeros and the underscores among them, but for the last character of a text
that holds nothing else or in front of a point. -/
def dropLeadingZeros : Text → Option Text
  | '0' :: t =>
    let zeros := '0' :: t.takeWhile fun c => c == '0' || c == '_'
    match t.dropWhile fun c => c == '0' || c == '_' with
    | [] => some (zeros.drop (zeros.length - 1))
    | c :: r =>
      if c == '.' then some (zeros.drop (zeros.length - 1) ++ c :: r)
      else if c.isDigit then some (c :: r)
      else none
  | c :: t => if c.isDigit then some (c :: t) else none
  | [] => none

/-- Drops a point with nothing but zeros behind it. -/
def dropZeroFraction (t : Text) : Option Text :=
  match cutAt '.' t with
  | (whole, none) => some whole
  | (whole, some fraction) =>
    if !fraction.isEmpty && fraction.all (· == '0') then some whole else none

/-- Drops single underscores when all of them stand between other characters. -/
def dropUnderscores (t : Text) : Text :=
  if t.head? == some '_' || t.getLast? == some '_' || occursIn ['_', '_'] t then t
  else t.filter (· != '_')

/-- An integer's text without blanks around it, a plus sign, zeros before it, a fraction of
zeros and single underscores. -/
def plainInteger? (t : Text) : Option Text := do
  let t := ((t.dropWhile isIntegerBlank).reverse.dropWhile isIntegerBlank).reverse
  let (sign, t) := match t with
    | '+' :: r => ([], r)
    | '-' :: r => (['-'], r)
    | r => ([], r)
  let t ← dropZeroFraction (← dropLeadingZeros t)
  return sign ++ dropUnderscores t

def isIntegerText (t : Text) : Bool :=
  let digits := match t with
    | '-' :: r => r
    | r => r
  !digits.isEmpty && digits.all Char.isDigit

def utf8Size (t : Text) : Nat := t.foldl (fun size c => size + c.utf8Size) 0

/-- Whether a text is an integer; one that is too long is not looked at any further. -/
def readIntegerText (t : Text) : Checked Unit :=
  match plainInteger? t with
  | none => .fail .unreadableInteger
  | some t =>
    if maxDigits < utf8Size t then .fail .oversizedInteger
    else if isIntegerText t then .ok ()
    else .fail .unreadableInteger

/-- Whether a whole number lies strictly between the ends of the 64-bit range. -/
def Binary64.isWord : Binary64 → Bool
  | .finite _ m (.ofNat n) => m * Nat.pow 2 n < Nat.pow 2 63
  | .finite .. => true
  | _ => false

/-- An integer, a truth value, a float without a fraction, or the text of an integer. -/
def readInteger : Value → Checked Unit
  | .int _ => .ok ()
  | .bool _ => .ok ()
  | .float x =>
    match x with
    | .finite .. =>
      if !x.isWhole then .fail .fractionalInteger
      else if x.isWord then .ok () else .fail .oversizedInteger
    | _ => .fail .infiniteInteger
  | .text t => readIntegerText t
  | _ => .fail .notInteger

end PageClip
