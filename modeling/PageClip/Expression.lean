import PageClip.Literal
import PageClip.Page
import PageClip.Template

/-! Expressions of a copy function: alternatives, each a sum of operands. Reading an
expression looks at its text alone and always succeeds, since text in no known form stands
for itself; its value looks at a page. Nothing of a page is ever read as source. Expressions are
read and evaluated without the interpreter's limit on recursion, so that one of any depth has its
value; only the reader of bodies is held to that limit. -/

namespace PageClip

inductive Operand where
  | template (pieces : List Piece)
  | string (value : Text)
  | field (f : Field)
  | render (template : Text)
  | group (alternatives : List (List Operand))
  | verbatim (pieces : List Piece)

abbrev Expression := List (List Operand)

def Field.value (page : Page) : Field → Text
  | .title => page.title
  | .url => page.url
  | .selection => page.selection
  | .description => page.metaValue "description".toList

def Piece.value (page : Page) : Piece → Text
  | .char c => [c]
  | .field f => f.value page

mutual

def Operand.value (page : Page) : Operand → Text
  | .template pieces => pieces.flatMap (Piece.value page)
  | .string value => value
  | .field f => f.value page
  | .render template => PageClip.render template page.lookup
  | .group alternatives => Expression.value page alternatives
  | .verbatim pieces => pieces.flatMap (Piece.value page)

def sumValue (page : Page) : List Operand → Text
  | [] => []
  | o :: rest => o.value page ++ sumValue page rest

/-- The first alternative that is not empty. -/
def Expression.value (page : Page) : List (List Operand) → Text
  | [] => []
  | a :: rest =>
    match sumValue page a with
    | [] => Expression.value page rest
    | c :: t => c :: t

end

/-- Blanks around the text go, and then the semicolons at its end. -/
def expressionBody (t : Text) : Text := ((trim t).reverse.dropWhile (· == ';')).reverse

def alternativesOf (t : Text) : List Text := splitTopLevel ['|', '|'] (expressionBody t)

def operandsOf (t : Text) : List Text := splitTopLevel ['+'] t

theorem expressionBody_length_le (t : Text) : (expressionBody t).length ≤ t.length := by
  have h := length_dropWhile_le (· == ';') (trim t).reverse
  have := trim_length_le t
  simp only [List.length_reverse] at h
  simp only [expressionBody, List.length_reverse]
  omega

theorem operandsOf_length_le {t a o : Text} (ha : a ∈ alternativesOf t)
    (ho : o ∈ operandsOf a) : o.length ≤ t.length :=
  Nat.le_trans (length_le_of_mem_splitTopLevel ho)
    (Nat.le_trans (length_le_of_mem_splitTopLevel ha) (expressionBody_length_le t))

theorem parenthesised?_length {t inner : Text} (h : parenthesised? t = some inner) :
    inner.length + 1 ≤ t.length := by
  unfold parenthesised? at h
  split at h
  · split at h
    · injection h with h
      subst h
      simp only [List.length_dropLast, List.length_cons]
      omega
    · exact absurd h (by simp)
  · exact absurd h (by simp)

/-- The first form that fits the text without the blanks around it. -/
def readOperand (source : Text) : Operand :=
  let t := trim source
  match templateLiteral? t, stringLiteral? t, fieldNamed? t, renderCall? t with
  | some body, _, _, _ => .template (templatePieces body)
  | none, some body, _, _ => .string (unescape body)
  | none, none, some f, _ => .field f
  | none, none, none, some template => .render (unescape template)
  | none, none, none, none =>
    match _h : parenthesised? t with
    | some inner =>
      .group ((alternativesOf inner).attach.map fun a =>
        (operandsOf a.1).attach.map fun o => readOperand o.1)
    | none => .verbatim (fieldPieces (stripQuotes t))
termination_by source.length
decreasing_by
  have h₁ := operandsOf_length_le a.2 o.2
  have h₂ : inner.length + 1 ≤ (trim source).length := parenthesised?_length (by assumption)
  have h₃ := trim_length_le source
  omega

def readExpression (source : Text) : Expression :=
  (alternativesOf source).map fun a => (operandsOf a).map readOperand

/-- The text an operand stands for on a page. -/
def evaluateOperand (source : Text) (page : Page) : Text := (readOperand source).value page

/-- The text an expression stands for on a page. -/
def evaluate (source : Text) (page : Page) : Text :=
  Expression.value page (readExpression source)

end PageClip
