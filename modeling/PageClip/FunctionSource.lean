import PageClip.Expression
import PageClip.Scan
import PageClip.Text

/-! Copy functions as source text: an arrow function of the page that returns an object literal.
Its text and html entries make up a clip. They are found by structure and nothing is executed. -/

namespace PageClip

/-- The causes of a failure. -/
inductive Failure where
  | invalidFormat
  | missingReturn
  | unknownTemplate (id : Text)
  deriving DecidableEq, Repr

def Failure.message : Failure → Text
  | .invalidFormat => "Function must have the form (page) => \x7b ... \x7d".toList
  | .missingReturn => "Function must return an object literal: return \x7b ... \x7d".toList
  | .unknownTemplate id => "Unknown template function: ".toList ++ id

structure Clip (α : Type) where
  text : Option α := none
  html : Option α := none
  deriving DecidableEq, Repr

namespace Clip

variable {α β : Type}

def map (f : α → β) (c : Clip α) : Clip β := ⟨c.text.map f, c.html.map f⟩

def isEmpty (c : Clip α) : Bool := c.text.isNone && c.html.isNone

end Clip

/-- What may follow the closing brace of the function. -/
def isFunctionEnd (t : Text) : Bool :=
  match trimStart t with
  | [] => true
  | c :: r => c == ';' && r.all isBlank

/-- The body of a function literal, up to the last closing brace. -/
def functionBody? (t : Text) : Option Text := do
  let t ← afterToken? ['('] t
  let t ← afterToken? "page".toList t
  let t ← afterToken? [')'] t
  let t ← afterToken? ['=', '>'] t
  let t ← afterToken? ['{'] t
  let (body, rest) ← cutAtLast? '}' t
  if isFunctionEnd rest then some body else none

/-- The inside of an object literal at the head of the text. -/
def objectAt? (t : Text) : Option Text :=
  match t with
  | '{' :: inner => (findClosing t 0).map fun close => inner.take (close - 1)
  | _ => none

/-- The inside of the first object that follows a return and is closed. The flag says
whether a word character comes before the text. -/
def returnedObject? : Bool → Text → Option Text
  | _, [] => none
  | afterWord, c :: t =>
    match if afterWord then none else
        ((afterPrefix? "return".toList (c :: t)).map trimStart).bind objectAt? with
    | some object => some object
    | none => returnedObject? (isWordChar c) t

/-- The key and the expression of an entry. The key is bare or in quotes. -/
def entry? (t : Text) : Option (Text × Text) :=
  let t := trimStart t
  let quote := t.takeWhile fun c => c == '\x27' || c == '"'
  let t := t.drop quote.length
  let key := t.takeWhile isWordChar
  if key.isEmpty || quote.length > 1 then none
  else do
    let t ← afterPrefix? quote (t.dropWhile isWordChar)
    let t ← afterToken? [':'] t
    some (key, trim t)

/-- The expressions of a returned object: the first of each key. -/
def objectFields (object : Text) : Clip Text :=
  let entries : Dict Text := (splitTopLevel [','] object).filterMap entry?
  ⟨entries.get? "text".toList, entries.get? "html".toList⟩

/-- The expressions of the text and html entries of a copy function. -/
def parseFunction (code : Text) : Except Failure (Clip Text) :=
  match functionBody? (stripComments code) with
  | none => .error .invalidFormat
  | some body =>
    match returnedObject? false body with
    | none => .error .missingReturn
    | some object => .ok (objectFields object)

/-- What the function gives on a page. -/
def extract (code : Text) (page : Page) : Except Failure (Clip Text) :=
  (parseFunction code).map fun fields => fields.map (evaluate · page)

end PageClip
