import PageClip.Text

/-! One scan of source text, quote-aware and bracket-aware. Splitting and bracket matching both run
it, so they agree on what lies inside a string literal and at which depth. Comments are removed
before, by a reader of their own that knows no brackets. -/

namespace PageClip

def isQuote (c : Char) : Bool := c == '\x27' || c == '"' || c == '\x60'

def isOpener (c : Char) : Bool := c == '(' || c == '[' || c == '{'

def isCloser (c : Char) : Bool := c == ')' || c == ']' || c == '}'

/-- Where a scan stands: in source at a bracket depth, inside a string literal that was
opened at that depth, or just behind a backslash of such a literal. -/
inductive Scan where
  | source (depth : Int)
  | literal (depth : Int) (quote : Char)
  | escape (depth : Int) (quote : Char)
  deriving DecidableEq, Repr

def Scan.start : Scan := .source 0

def Scan.step : Scan → Char → Scan
  | .source d, c =>
    if isQuote c then .literal d c
    else if isOpener c then .source (d + 1)
    else if isCloser c then .source (d - 1)
    else .source d
  | .literal d q, c =>
    if c = '\\' then .escape d q else if c = q then .source d else .literal d q
  | .escape d q, _ => .literal d q

def Scan.run (s : Scan) (t : Text) : Scan := t.foldl Scan.step s

@[simp] theorem Scan.run_nil (s : Scan) : s.run [] = s := rfl

@[simp] theorem Scan.run_cons (s : Scan) (c : Char) (t : Text) :
    s.run (c :: t) = (s.step c).run t := rfl

theorem Scan.run_append (s : Scan) (t u : Text) : s.run (t ++ u) = (s.run t).run u :=
  List.foldl_append ..

/-- Whether a character met in this state is source outside every bracket. -/
def Scan.topLevel (s : Scan) (c : Char) : Bool := s == .source 0 && !isQuote c

/-- The parts from here on, `skip` characters of a separator still to be passed over. -/
def splitFrom (sep : Text) : Scan → Nat → Text → List Text
  | _, _, [] => [[]]
  | s, skip + 1, c :: t => splitFrom sep (s.step c) skip t
  | s, 0, c :: t =>
    if s.topLevel c && sep.isPrefixOf (c :: t) then
      match sep.length with
      | 0 => [] :: consHead c (splitFrom sep (s.step c) 0 t)
      | n + 1 => [] :: splitFrom sep (s.step c) n t
    else consHead c (splitFrom sep (s.step c) 0 t)

/-- Splits where the separator stands outside string literals and brackets. -/
def splitTopLevel (sep source : Text) : List Text := splitFrom sep .start 0 source

/-- How far ahead the bracket is that closes the outermost open one. -/
def closingFrom : Scan → Text → Option Nat
  | _, [] => none
  | s, c :: t =>
    if s = .source 1 ∧ isCloser c = true then some 0
    else (closingFrom (s.step c) t).map (· + 1)

/-- The index of the bracket that closes the one at `start`. -/
def findClosing (source : Text) (start : Nat) : Option Nat :=
  (closingFrom .start (source.drop start)).map (start + ·)

theorem length_le_of_mem_consHead {p : Text} {c : Char} {ps : List Text} {n : Nat}
    (h : ∀ q ∈ ps, q.length ≤ n) (hp : p ∈ consHead c ps) : p.length ≤ n + 1 := by
  cases ps with
  | nil => simp only [consHead, List.mem_singleton] at hp; simp [hp]
  | cons q qs =>
    simp only [consHead, List.mem_cons] at hp
    rcases hp with rfl | hp
    · simpa using h q (by simp)
    · exact Nat.le_succ_of_le (h p (by simp [hp]))

theorem length_le_of_mem_splitFrom (sep : Text) (s : Scan) (skip : Nat) (t p : Text)
    (hp : p ∈ splitFrom sep s skip t) : p.length ≤ t.length := by
  induction t generalizing s skip p with
  | nil => simp_all [splitFrom]
  | cons c t ih =>
    cases skip with
    | succ skip => exact Nat.le_succ_of_le (ih _ _ _ hp)
    | zero =>
      have step := length_le_of_mem_consHead (p := p) (c := c) (ih (s.step c) 0)
      rw [splitFrom] at hp
      split at hp
      · split at hp
        · rcases List.mem_cons.mp hp with rfl | hp
          · simp
          · exact step hp
        · rcases List.mem_cons.mp hp with rfl | hp
          · simp
          · exact Nat.le_succ_of_le (ih _ _ _ hp)
      · exact step hp

/-- No part is longer than what was split. -/
theorem length_le_of_mem_splitTopLevel {sep source p : Text}
    (hp : p ∈ splitTopLevel sep source) : p.length ≤ source.length :=
  length_le_of_mem_splitFrom sep .start 0 source p hp

/-- What the reader of comments is inside of. -/
inductive CommentState where
  | source
  | literal (quote : Char)
  | line
  | block
  deriving DecidableEq, Repr

/-- A line comment keeps the newline that ends it and a block comment becomes one space when
it ends; a comment that never ends takes the rest of the text with it. -/
def stripCommentsFrom : CommentState → Text → Text
  | _, [] => []
  | .source, '/' :: '/' :: t => stripCommentsFrom .line t
  | .source, '/' :: '*' :: t => stripCommentsFrom .block t
  | .source, c :: t => c :: stripCommentsFrom (if isQuote c then .literal c else .source) t
  | .literal q, '\\' :: c :: t => '\\' :: c :: stripCommentsFrom (.literal q) t
  | .literal q, c :: t => c :: stripCommentsFrom (if c = q then .source else .literal q) t
  | .line, c :: t => if c = '\n' then c :: stripCommentsFrom .source t else stripCommentsFrom .line t
  | .block, '*' :: '/' :: t => ' ' :: stripCommentsFrom .source t
  | .block, _ :: t => stripCommentsFrom .block t

def stripComments (source : Text) : Text := stripCommentsFrom .source source

end PageClip
