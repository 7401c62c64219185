import PageClip.Scan
import PageClip.CharacterClass

/-! The literal forms of an expression: quoted texts, escapes, field names, and the two ways
in which a field name stands inside other text. -/

namespace PageClip

/-- The fields of a page that an expression can name. -/
inductive Field where
  | title
  | url
  | selection
  | description
  deriving DecidableEq, Repr

def fieldNames : List (Text × Field) :=
  [("page.title".toList, .title), ("page.url".toList, .url),
   ("page.selection".toList, .selection),
   ("page.meta.description".toList, .description),
   ("page.meta?.description".toList, .description)]

def fieldNamed? (name : Text) : Option Field :=
  (fieldNames.find? fun e => e.1 == name).map (·.2)

/-- One element of a text with fields in it. -/
inductive Piece where
  | char (c : Char)
  | field (f : Field)
  deriving DecidableEq, Repr

/-- The character that a backslash before `c` stands for. -/
def escaped (c : Char) : Char :=
  if c = 'n' then '\n' else if c = 't' then '\t' else if c = 'r' then '\r' else c

/-- Resolves escapes; a backslash before a newline, or at the end, stays. -/
def unescape : Text → Text
  | [] => []
  | '\\' :: '\n' :: t => '\\' :: '\n' :: unescape t
  | '\\' :: c :: t => escaped c :: unescape t
  | c :: t => c :: unescape t

/-- What lies between a first and a last character that are both `q`. -/
def between? (q : Char) : Text → Option Text
  | [] => none
  | c :: t => if c = q ∧ t.getLast? = some q then some t.dropLast else none

def templateLiteral? (t : Text) : Option Text := between? '\x60' t

def stringLiteral? (t : Text) : Option Text :=
  (between? '\x27' t).or (between? '"' t)

/-- The pieces of a template literal's body. An escape is consumed before it can open an
interpolation, and an interpolation that names no field stays as it was written. -/
def templatePieces (t : Text) : List Piece :=
  match t with
  | [] => []
  | '\\' :: '\n' :: r => .char '\\' :: .char '\n' :: templatePieces r
  | '\\' :: c :: r => .char (escaped c) :: templatePieces r
  | '$' :: '{' :: r =>
    match _h : r.dropWhile (· != '}') with
    | [] => .char '$' :: templatePieces ('{' :: r)
    | _ :: rest =>
      let inner := r.takeWhile (· != '}')
      let here := match fieldNamed? (trim inner) with
        | some f => [.field f]
        | none => ('$' :: '{' :: inner ++ ['}']).map .char
      here ++ templatePieces rest
  | c :: r => .char c :: templatePieces r
termination_by t.length
decreasing_by
  all_goals simp_all only [List.length_cons]
  any_goals omega
  have h := length_dropWhile_le (· != '}') r
  simp_all only [List.length_cons]
  omega

/-- A field name at the head of the text that no word character continues. -/
def fieldAt? (t : Text) : Option (Field × Text) :=
  fieldNames.findSome? fun e =>
    match afterPrefix? e.1 t with
    | some [] => some (e.2, [])
    | some (c :: rest) => if isWordChar c then none else some (e.2, c :: rest)
    | none => none

theorem fieldAt?_length {t rest : Text} {f : Field} (h : fieldAt? t = some (f, rest)) :
    rest.length < t.length := by
  obtain ⟨e, he, h⟩ := List.exists_of_findSome?_eq_some h
  have hpos : 0 < e.1.length := by
    simp only [fieldNames, List.mem_cons, List.not_mem_nil, or_false] at he
    rcases he with rfl | rfl | rfl | rfl | rfl <;> decide
  have key : afterPrefix? e.1 t = some rest := by
    split at h
    · simp_all
    · split at h <;> simp_all
    · simp at h
  rw [eq_append_of_afterPrefix? key, List.length_append]
  omega

/-- Text in which the field names are fields and all else stays. -/
def fieldPieces (t : Text) : List Piece :=
  match t with
  | [] => []
  | c :: u =>
    match _h : fieldAt? (c :: u) with
    | some (f, rest) => .field f :: fieldPieces rest
    | none => .char c :: fieldPieces u
termination_by t.length
decreasing_by
  · exact fieldAt?_length (by assumption)
  · simp

/-- The end of a render call: a comma, the page and the closing parenthesis. -/
def isCallEnd (t : Text) : Bool :=
  ((afterToken? [','] t).bind (afterToken? "page".toList)).bind (afterToken? [')']) == some []

/-- The text before the first `q` behind which the call ends. -/
def callBody? (q : Char) : Text → Option Text
  | [] => none
  | c :: t => if c = q ∧ isCallEnd t = true then some [] else (callBody? q t).map (c :: ·)

/-- The template of a render call, escapes still in it. -/
def renderCall? (t : Text) : Option Text :=
  match (afterPrefix? "render(".toList t).map trimStart with
  | some (q :: body) => if isQuote q then callBody? q body else none
  | _ => none

/-- The inside of one pair of parentheses around the whole text. -/
def parenthesised? (t : Text) : Option Text :=
  match t with
  | '(' :: inner => if findClosing t 0 = some inner.length then some inner.dropLast else none
  | _ => none

/-- Takes off one pair of equal quotes. -/
def stripQuotes (t : Text) : Text :=
  match t with
  | c :: r => if isQuote c ∧ r.getLast? = some c then r.dropLast else t
  | [] => []

end PageClip
