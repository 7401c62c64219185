import PageClip.CharacterClass
import PageClip.Text

/-! Templates: a double brace around a name stands for the value of that name escaped for HTML, with
an ampersand before the name for the raw value. All else is literal. -/

namespace PageClip

def escapeChar : Char → Text
  | '&' => "&amp;".toList
  | '<' => "&lt;".toList
  | '>' => "&gt;".toList
  | '"' => "&quot;".toList
  | '\x27' => "&#x27;".toList
  | c => [c]

/-- Safe as text content and inside a quoted attribute value. -/
def escapeHtml (t : Text) : Text := t.flatMap escapeChar

inductive Segment where
  | literal (c : Char)
  | token (raw : Bool) (name : Text)
  deriving DecidableEq, Repr

/-- A complete token at the head of the text, and what follows it. -/
def tokenAt? : Text → Option (Segment × Text)
  | '{' :: '{' :: t =>
    let (raw, t) := match t with
      | '&' :: t => (true, t)
      | t => (false, t)
    match t.takeWhile isWordChar, t.dropWhile isWordChar with
    | c :: name, '}' :: '}' :: rest => some (.token raw (c :: name), rest)
    | _, _ => none
  | _ => none

theorem tokenAt?_length {t rest : Text} {s : Segment} (h : tokenAt? t = some (s, rest)) :
    rest.length < t.length := by
  unfold tokenAt? at h
  split at h
  · rename_i t
    dsimp only at h
    split at h
    · rename_i u e
      injection h with h
      injection h with _ h
      subst h
      have hd := length_dropWhile_le isWordChar
        (match t with
          | '&' :: t => (true, t)
          | t => (false, t)).2
      rw [e] at hd
      simp only [List.length_cons] at hd ⊢
      split at hd <;> simp_all <;> omega
    · exact absurd h (by simp)
  · exact absurd h (by simp)

/-- The template as literal characters and tokens, read from the left. -/
def segments (t : Text) : List Segment :=
  match t with
  | [] => []
  | c :: u =>
    match _h : tokenAt? (c :: u) with
    | some (s, rest) => s :: segments rest
    | none => .literal c :: segments u
termination_by t.length
decreasing_by
  · exact tokenAt?_length (by assumption)
  · simp

/-- The text of a segment, `lookup` giving the text of a name. -/
def Segment.fill (lookup : Text → Text) : Segment → Text
  | .literal c => [c]
  | .token true name => lookup name
  | .token false name => escapeHtml (lookup name)

def render (template : Text) (lookup : Text → Text) : Text :=
  (segments template).flatMap (Segment.fill lookup)

end PageClip
