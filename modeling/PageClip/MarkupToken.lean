import PageClip.CharacterReference
import PageClip.Dict

/-! Markup as a sequence of tokens: text, opening and closing tags, and notes, which are the
comments and declarations that hold nothing of the page. -/

namespace PageClip

/-- An opening tag brings along the text of an element whose content is no markup. -/
inductive MarkupToken where
  | text (t : Text)
  | opening (name : Text) (attributes : Dict Text) (closed : Bool) (content : Text)
  | closing (name : Text)
  | note
  deriving DecidableEq, Repr

def isMarkupBlank (c : Char) : Bool :=
  c == ' ' || c == '\t' || c == '\n' || c == '\x0c' || c == '\r'

/-- Every kind of line end as one newline and a replacement for a zero, for the state in front
of a character. -/
def inputStep (s : Text × Bool) (c : Char) : Text × Bool :=
  if c = '\r' then ('\n' :: s.1, true)
  else if c = '\n' ∧ s.2 = true then (s.1, false)
  else ((if c = '\x00' then replacement else c) :: s.1, false)

def plainInput (t : Text) : Text := (t.foldl inputStep ([], false)).1.reverse

def endsTagName (c : Char) : Bool := isMarkupBlank c || c == '/' || c == '>'

def endsAttributeName (c : Char) : Bool := endsTagName c || c == '='

/-- The value behind an equals sign; there is none when its quote is never closed. -/
def attributeValue? (t : Text) : Option (Text × Text) :=
  match t.dropWhile isMarkupBlank with
  | '"' :: u => quotedValue? '"' u
  | '\x27' :: u => quotedValue? '\x27' u
  | u =>
    let ends c := isMarkupBlank c || c == '>'
    some (u.takeWhile (!ends ·), u.dropWhile (!ends ·))
where
  quotedValue? (q : Char) (u : Text) : Option (Text × Text) :=
    match cutAt q u with
    | (value, some rest) => some (value, rest)
    | (_, none) => none

/-- One attribute of a tag. Its name takes the first character whatever it is. -/
def attribute? (first : Char) (t : Text) : Option ((Text × Text) × Text) :=
  let name := (first :: t.takeWhile (!endsAttributeName ·)).map Char.toLower
  let rest := t.dropWhile (!endsAttributeName ·)
  match rest.dropWhile isMarkupBlank with
  | '=' :: u => (attributeValue? u).map fun v => ((name, resolveReferences true v.1), v.2)
  | _ => some ((name, []), rest)

theorem cutAt_length {c : Char} {t before rest : Text} (h : cutAt c t = (before, some rest)) :
    rest.length < t.length := by
  injection h with _ h
  cases e : t.dropWhile (· != c) with
  | nil => simp [e] at h
  | cons d u =>
    have hd := length_dropWhile_le (· != c) t
    rw [e] at h hd
    simp only [List.tail?_cons, Option.some.injEq] at h
    subst h
    simp only [List.length_cons] at hd
    omega

theorem attributeValue?_length {t value rest : Text} (h : attributeValue? t = some (value, rest)) :
    rest.length ≤ t.length := by
  have quoted : ∀ {q : Char} {d : Char} {u : Text}, t.dropWhile isMarkupBlank = d :: u →
      attributeValue?.quotedValue? q u = some (value, rest) → rest.length ≤ t.length := by
    intro q d u e hq
    have hd := length_dropWhile_le isMarkupBlank t
    rw [e] at hd
    unfold attributeValue?.quotedValue? at hq
    split at hq
    · rename_i hc
      injection hq with hq
      injection hq with _ hq
      subst hq
      have := cutAt_length hc
      simp only [List.length_cons] at hd
      omega
    · exact absurd hq (by simp)
  unfold attributeValue? at h
  split at h
  · exact quoted (by assumption) h
  · exact quoted (by assumption) h
  · injection h with h
    injection h with _ h
    subst h
    exact Nat.le_trans (length_dropWhile_le _ _) (length_dropWhile_le _ _)

theorem attribute?_length {first : Char} {t rest : Text} {entry : Text × Text}
    (h : attribute? first t = some (entry, rest)) : rest.length ≤ t.length := by
  have hd := length_dropWhile_le (!endsAttributeName ·) t
  unfold attribute? at h
  dsimp only at h
  split at h
  · rename_i u e
    cases hv : attributeValue? u with
    | none => simp [hv] at h
    | some v =>
      rw [hv] at h
      injection h with h
      injection h with _ h
      subst h
      have hu := length_dropWhile_le isMarkupBlank (t.dropWhile (!endsAttributeName ·))
      have hl := attributeValue?_length hv
      rw [e] at hu
      simp only [List.length_cons] at hu
      omega
  · injection h with h
    injection h with _ h
    subst h
    exact hd

/-- Adds an attribute unless its name has been given before. -/
def addAttribute (found : Dict Text) (entry : Text × Text) : Dict Text :=
  if (found.get? entry.1).isSome then found else found.set entry.1 entry.2

/-- The rest of a tag: its attributes, whether it closes itself, and what follows it. A tag
that never ends is none. -/
def tagRest? (found : Dict Text) (t : Text) : Option ((Dict Text × Bool) × Text) :=
  match _h : t.dropWhile isMarkupBlank with
  | [] => none
  | '>' :: u => some ((found, false), u)
  | '/' :: '>' :: u => some ((found, true), u)
  | '/' :: u => tagRest? found u
  | c :: u =>
    match _a : attribute? c u with
    | none => none
    | some (entry, rest) => tagRest? (addAttribute found entry) rest
termination_by t.length
decreasing_by
  all_goals
    have hd := length_dropWhile_le isMarkupBlank t
    rw [_h] at hd
    simp only [List.length_cons] at hd
  · omega
  · have := attribute?_length _a
    omega

/-- What follows a comment, `t` being the text behind its opening. -/
def afterComment : Text → Text
  | '-' :: '-' :: '>' :: t => t
  | '-' :: '-' :: '!' :: '>' :: t => t
  | _ :: t => afterComment t
  | [] => []

def afterDeclaration (t : Text) : Text := (t.dropWhile (· != '>')).drop 1

/-- A note, `t` being the text behind the exclamation mark. -/
def afterNote : Text → Text
  | '-' :: '-' :: '>' :: t => t
  | '-' :: '-' :: '-' :: '>' :: t => t
  | '-' :: '-' :: t => afterComment t
  | t => afterDeclaration t

/-- What the content of an element is. -/
inductive ContentKind where
  | markup
  | escapable
  | raw
  | script
  | endless
  deriving DecidableEq, Repr

def contentKinds : List (String × ContentKind) :=
  [("title", .escapable), ("textarea", .escapable), ("style", .raw), ("xmp", .raw),
   ("iframe", .raw), ("noembed", .raw), ("noframes", .raw), ("script", .script),
   ("plaintext", .endless)]

def contentKind (name : Text) : ContentKind :=
  ((contentKinds.find? fun e => e.1.toList == name).map (·.2)).getD .markup

/-- Whether a tag of this name goes on here, in any case of letters. -/
def namesTag (name t : Text) : Bool :=
  (t.take name.length).map Char.toLower == name &&
    match t.drop name.length with
    | c :: _ => endsTagName c
    | [] => false

/-- Cuts a text in front of the closing tag of an element, `done` being the text so far. -/
def cutAtClosing (name done : Text) : Text → Text × Text
  | '<' :: '/' :: t =>
    if namesTag name t then (done.reverse, '<' :: '/' :: t)
    else cutAtClosing name ('/' :: '<' :: done) t
  | c :: t => cutAtClosing name (c :: done) t
  | [] => (done.reverse, [])

/-- Where the reader of a script stands: outside comments, in a comment, or in a script within
a comment, whose closing tag does not close the outer one. -/
inductive ScriptState where
  | code
  | comment
  | nested
  deriving DecidableEq, Repr

/-- Cuts a text in front of the closing tag of a script. -/
def cutAtScriptEnd (state : ScriptState) (done : Text) : Text → Text × Text
  | '<' :: '!' :: '-' :: '-' :: t =>
    match state with
    | .code => cutAtScriptEnd .comment ('!' :: '<' :: done) ('-' :: '-' :: t)
    | s => cutAtScriptEnd s ('-' :: '-' :: '!' :: '<' :: done) t
  | '-' :: '-' :: '>' :: t => cutAtScriptEnd .code ('>' :: '-' :: '-' :: done) t
  | '<' :: '/' :: t =>
    if namesTag "script".toList t then
      match state with
      | .nested => cutAtScriptEnd .comment ('/' :: '<' :: done) t
      | _ => (done.reverse, '<' :: '/' :: t)
    else cutAtScriptEnd state ('/' :: '<' :: done) t
  | '<' :: t =>
    if namesTag "script".toList t ∧ state = .comment then cutAtScriptEnd .nested ('<' :: done) t
    else cutAtScriptEnd state ('<' :: done) t
  | c :: t => cutAtScriptEnd state (c :: done) t
  | [] => (done.reverse, [])
termination_by t => t.length

/-- The content of an element that is no markup, and what follows it. -/
def elementContent (name t : Text) : Text × Text :=
  match contentKind name with
  | .markup => ([], t)
  | .escapable =>
    let (content, rest) := cutAtClosing name [] t
    (resolveReferences false content, rest)
  | .raw => cutAtClosing name [] t
  | .script => cutAtScriptEnd .code [] t
  | .endless => (t, [])

/-- An opening tag, `t` being the text behind its bracket. -/
def openingTag? (t : Text) : Option (MarkupToken × Text) :=
  let name := (t.takeWhile (!endsTagName ·)).map Char.toLower
  (tagRest? [] (t.dropWhile (!endsTagName ·))).map fun ((attributes, closed), rest) =>
    if closed then (.opening name attributes true [], rest)
    else
      let (content, rest) := elementContent name rest
      (.opening name attributes false content, rest)

def closingTag? : Text → Option (MarkupToken × Text)
  | [] => some (.text ['<', '/'], [])
  | '>' :: t => some (.closing [], t)
  | c :: t =>
    if c.isAlpha then
      let name := ((c :: t).takeWhile (!endsTagName ·)).map Char.toLower
      (tagRest? [] ((c :: t).dropWhile (!endsTagName ·))).map fun r => (.closing name, r.2)
    else some (.note, afterDeclaration t)

/-- The token behind a bracket. A tag that never ends takes the rest of the text with it. -/
def bracketed? : Text → Option (MarkupToken × Text)
  | '!' :: t => some (.note, afterNote t)
  | '?' :: t => some (.note, afterDeclaration t)
  | '/' :: t => closingTag? t
  | c :: t => if c.isAlpha then openingTag? (c :: t) else some (.text ['<'], c :: t)
  | [] => some (.text ['<'], [])

/-- The first token of a text. -/
def markupToken? : Text → Option (MarkupToken × Text)
  | [] => none
  | '<' :: t => bracketed? t
  | c :: t =>
    some (.text (resolveReferences false (c :: t.takeWhile (· != '<'))), t.dropWhile (· != '<'))

theorem tagRest?_length {found : Dict Text} {t rest : Text} {r : Dict Text × Bool}
    (h : tagRest? found t = some (r, rest)) : rest.length ≤ t.length := by
  fun_induction tagRest? found t with
  | case1 => exact absurd h (by simp)
  | case2 found t u e =>
    have hd := length_dropWhile_le isMarkupBlank t
    simp_all
    omega
  | case3 found t u e =>
    have hd := length_dropWhile_le isMarkupBlank t
    simp_all
    omega
  | case4 found t u _ e ih =>
    have hd := length_dropWhile_le isMarkupBlank t
    have hr := ih h
    rw [e] at hd
    simp only [List.length_cons] at hd
    omega
  | case5 => exact absurd h (by simp)
  | case6 found t c u _ _ _ e entry rest' ha ih =>
    have hd := length_dropWhile_le isMarkupBlank t
    have hr := ih h
    have hl := attribute?_length ha
    rw [e] at hd
    simp only [List.length_cons] at hd
    omega

theorem afterComment_length_le (t : Text) : (afterComment t).length ≤ t.length := by
  fun_induction afterComment t <;> simp_all <;> omega

theorem cutAtClosing_length_le (name done t : Text) :
    (cutAtClosing name done t).2.length ≤ t.length := by
  fun_induction cutAtClosing name done t <;> simp_all <;> omega

theorem cutAtScriptEnd_length_le (state : ScriptState) (done t : Text) :
    (cutAtScriptEnd state done t).2.length ≤ t.length := by
  fun_induction cutAtScriptEnd state done t <;> simp_all <;> omega

theorem afterDeclaration_length_le (t : Text) : (afterDeclaration t).length ≤ t.length := by
  have := length_dropWhile_le (· != '>') t
  simp only [afterDeclaration, List.length_drop]
  omega

theorem afterNote_length_le (t : Text) : (afterNote t).length ≤ t.length := by
  unfold afterNote
  split
  · simp; omega
  · simp; omega
  · have := afterComment_length_le
    exact Nat.le_trans (this _) (by simp; omega)
  · exact afterDeclaration_length_le _

theorem elementContent_length_le (name t : Text) : (elementContent name t).2.length ≤ t.length := by
  unfold elementContent
  split
  · simp
  · exact cutAtClosing_length_le name [] t
  · exact cutAtClosing_length_le name [] t
  · exact cutAtScriptEnd_length_le .code [] t
  · simp

theorem openingTag?_length {t rest : Text} {token : MarkupToken}
    (h : openingTag? t = some (token, rest)) : rest.length ≤ t.length := by
  unfold openingTag? at h
  obtain ⟨⟨⟨attributes, closed⟩, u⟩, hr, h⟩ := Option.map_eq_some_iff.mp h
  have hl := Nat.le_trans (tagRest?_length hr) (length_dropWhile_le _ _)
  dsimp only at h
  split at h
  · injection h with _ h
    exact h ▸ hl
  · injection h with _ h
    exact h ▸ Nat.le_trans (elementContent_length_le _ _) hl

theorem closingTag?_length {t rest : Text} {token : MarkupToken}
    (h : closingTag? t = some (token, rest)) : rest.length ≤ t.length := by
  unfold closingTag? at h
  split at h
  · simp_all
  · simp_all
  · split at h
    · obtain ⟨⟨r, u⟩, hr, h⟩ := Option.map_eq_some_iff.mp h
      injection h with _ h
      exact h ▸ Nat.le_trans (tagRest?_length hr) (length_dropWhile_le _ _)
    · injection h with h
      injection h with _ h
      exact h ▸ Nat.le_succ_of_le (afterDeclaration_length_le _)

theorem bracketed?_length {t rest : Text} {token : MarkupToken}
    (h : bracketed? t = some (token, rest)) : rest.length ≤ t.length := by
  unfold bracketed? at h
  split at h
  · injection h with h
    injection h with _ h
    exact h ▸ Nat.le_succ_of_le (afterNote_length_le _)
  · injection h with h
    injection h with _ h
    exact h ▸ Nat.le_succ_of_le (afterDeclaration_length_le _)
  · exact Nat.le_succ_of_le (closingTag?_length h)
  · split at h
    · exact openingTag?_length h
    · simp_all
  · simp_all

/-- A token takes at least one character. -/
theorem markupToken?_length {t rest : Text} {token : MarkupToken}
    (h : markupToken? t = some (token, rest)) : rest.length < t.length := by
  unfold markupToken? at h
  split at h
  · exact absurd h (by simp)
  · exact Nat.lt_succ_of_le (bracketed?_length h)
  · injection h with h
    injection h with _ h
    exact h ▸ Nat.lt_succ_of_le (length_dropWhile_le _ _)

end PageClip
