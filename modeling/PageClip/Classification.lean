import PageClip.Catalog

/-! Which catalog entry a source text is closest to. The rules look at the text alone, in
order, and the first that matches decides. -/

namespace PageClip

/-- A bracketed text with an opening parenthesis right behind it. -/
def hasMarkdownLink : Text → Bool
  | [] => false
  | c :: t =>
    (c == '[' && [']', '('].isPrefixOf (t.dropWhile (· != ']'))) || hasMarkdownLink t

/-- A text in quotes of any kind that holds no quote, and what follows it. -/
def quotedRun? (t : Text) : Option (Text × Text) :=
  match t with
  | q :: t =>
    match t.takeWhile (!isQuote ·), t.dropWhile (!isQuote ·) with
    | c :: body, _ :: rest => if isQuote q then some (c :: body, rest) else none
    | _, _ => none
  | [] => none

/-- The literal of a render call at the head of the text. -/
def renderLiteralAt? (t : Text) : Option Text := do
  let t ← afterPrefix? "render(".toList t
  let (literal, _) ← quotedRun? (trimStart t)
  some literal

/-- The literal between a title and an address that are added to it. -/
def concatLiteralAt? (t : Text) : Option Text := do
  let t ← afterPrefix? "page.title".toList t
  let t ← afterToken? ['+'] t
  let (literal, t) ← quotedRun? (trimStart t)
  let t ← afterToken? ['+'] t
  let _ ← afterToken? "page.url".toList t
  some literal

/-- What `f` finds at the leftmost place where it finds anything. -/
def leftmost? {α : Type} (f : Text → Option α) : Text → Option α
  | [] => f []
  | c :: t => (f (c :: t)).or (leftmost? f t)

/-- A guess of the template that a custom function renders. -/
def extractTemplate? (code : Text) : Option Text :=
  match leftmost? renderLiteralAt? code with
  | some literal => some literal
  | none => (leftmost? concatLiteralAt? code).map fun literal =>
      "\x7b\x7btitle\x7d\x7d".toList ++ literal ++ "\x7b\x7burl\x7d\x7d".toList

def rules : List (Text × (Text → Bool)) :=
  [("rich-text-link".toList,
    fun code => occursIn "render(".toList code && occursIn "<a href=".toList code),
   ("markdown-link".toList, hasMarkdownLink),
   ("selected-text".toList, occursIn "page.selection".toList),
   ("title-and-url".toList,
    fun code => occursIn "page.title".toList code && occursIn "page.url".toList code)]

structure Classification where
  templateId : Text
  template : Option Text := none
  deriving DecidableEq, Repr

def classify (code : Text) : Classification :=
  match rules.find? fun r => r.2 code with
  | some r => ⟨r.1, none⟩
  | none => ⟨customTemplate.id, extractTemplate? code⟩

end PageClip
