import PageClip.Proofs.EvaluationDepth

/-! Operands between two equal quotes. A trimmed text has no newline behind its last quote, so the
two literal forms take every such operand, and what no form takes has no quotes to lose. -/

namespace PageClip

inductive Form where
  | template
  | string
  | field
  | render
  | group
  deriving DecidableEq

/-- The forms of an operand in the order in which they are tried. -/
def forms : List Form := [.template, .string, .field, .render, .group]

/-- The text that a form gives on a page, when it takes what is written. -/
def Form.resolve (page : Page) (t : Text) : Form → Option Text
  | .template => (templateLiteral? t).map fun body =>
      (templatePieces body).flatMap (Piece.value page)
  | .string => (stringLiteral? t).map unescape
  | .field => (fieldNamed? t).map (Field.value page)
  | .render => (renderCall? t).map fun body => PageClip.render (unescape body) page.lookup
  | .group => (parenthesised? t).map fun inner => evaluate inner page

/-- The pattern for a text between two quotes. Its end may also stand in front of a last newline. -/
def MatchesQuoted (q : Char) (body t : Text) : Prop :=
  ∃ e, (e = [] ∨ e = ['\n']) ∧ t = q :: (body ++ q :: e)

def InQuotes (t : Text) : Prop :=
  2 ≤ t.length ∧ ∃ q, isQuote q = true ∧ t.head? = some q ∧ t.getLast? = some q

section quotes
variable {q : Char} {body t source : Text}

theorem inQuotes_iff : InQuotes t ↔ ∃ q body, isQuote q = true ∧ t = q :: (body ++ [q]) := by
  constructor
  · rintro ⟨hlen, q, hq, hhead, hlast⟩
    obtain ⟨r, rfl⟩ := List.head?_eq_some_iff.mp hhead
    have hne : r ≠ [] := by
      rintro rfl
      simp at hlen
    rw [List.getLast?_cons_of_ne_nil hne] at hlast
    obtain ⟨body, rfl⟩ := List.getLast?_eq_some_iff.mp hlast
    exact ⟨q, body, hq, rfl⟩
  · rintro ⟨q, body, hq, rfl⟩
    exact ⟨by simp, q, hq, rfl, List.getLast?_eq_some_iff.mpr ⟨q :: body, rfl⟩⟩

/-- Behind the last quote of a trimmed text there is no newline for the pattern to leave out. -/
theorem matchesQuoted_iff (h : Trimmed t) : MatchesQuoted q body t ↔ t = q :: (body ++ [q]) := by
  constructor
  · rintro ⟨e, rfl | rfl, rfl⟩
    · rfl
    · have hlast : (q :: (body ++ [q, '\n'])).getLast? = some '\n' :=
        List.getLast?_eq_some_iff.mpr ⟨q :: (body ++ [q]), by simp⟩
      have hblank := h.2 '\n' hlast
      cases hblank
  · rintro rfl
    exact ⟨[], .inl rfl, rfl⟩

theorem inQuotes_iff_matches (h : Trimmed t) :
    InQuotes t ↔ ∃ q body, isQuote q = true ∧ MatchesQuoted q body t := by
  simp only [inQuotes_iff, matchesQuoted_iff h]

end quotes

section forms
variable {page : Page} {t source : Text}

theorem evaluateOperand_eq_forms (source : Text) (page : Page) :
    evaluateOperand source page = (forms.findSome? (Form.resolve page (trim source))).getD
      ((fieldPieces (stripQuotes (trim source))).flatMap (Piece.value page)) := by
  rw [evaluateOperand, readOperand_eq]
  simp only [forms, List.findSome?_cons, Form.resolve]
  cases templateLiteral? (trim source) with
  | some body => rfl
  | none =>
    cases stringLiteral? (trim source) with
    | some body => rfl
    | none =>
      cases fieldNamed? (trim source) with
      | some f => rfl
      | none =>
        cases renderCall? (trim source) with
        | some body => rfl
        | none => cases parenthesised? (trim source) <;> rfl

theorem forall_resolve_eq_none_iff :
    (∀ form ∈ forms, form.resolve page t = none) ↔ Formless t := by
  simp [forms, Form.resolve, Formless]

/-- Which literal form takes an operand in quotes goes by the kind of the quotes. -/
theorem resolve_of_inQuotes (h : InQuotes (trim source)) (page : Page) :
    ∃ form ∈ [Form.template, .string],
      form.resolve page (trim source) = some (evaluateOperand source page) := by
  obtain ⟨q, body, hq, ht⟩ := inQuotes_iff.mp h
  simp only [isQuote, Bool.or_eq_true, beq_iff_eq] at hq
  rcases hq with hq | rfl
  · refine ⟨.string, by simp, ?_⟩
    rw [Form.resolve, evaluateOperand, readOperand_string hq ht, ht, stringLiteral?_quoted hq]
    rfl
  · refine ⟨.template, by simp, ?_⟩
    rw [Form.resolve, evaluateOperand, readOperand_template ht, ht, templateLiteral?,
      between?_quoted]
    rfl

theorem fallback_of_formless (h : Formless (trim source)) (page : Page) :
    replaceReferences page (trim source) = .ok (evaluateOperand source page) := by
  rw [replaceReferences_eq, evaluateOperand, readOperand_eq_verbatim_iff.mpr ⟨h, rfl⟩]
  rfl

end forms

/-- An operand has the value of the first form that takes it. What none takes keeps its quotes and
only its field names are replaced, and what stands in equal quotes is taken by a literal form,
whose pattern sees these quotes and no newline behind them. -/
theorem fallback_keeps_quotes (source : Text) :
    (∀ page, evaluateOperand source page =
      (forms.findSome? (Form.resolve page (trim source))).getD
        ((fieldPieces (stripQuotes (trim source))).flatMap (Piece.value page))) ∧
    (∀ page, (∀ form ∈ forms, form.resolve page (trim source) = none) →
      stripQuotes (trim source) = trim source ∧ ∀ page',
        replaceReferences page' (trim source) = .ok (evaluateOperand source page')) ∧
    (InQuotes (trim source) ↔
      ∃ q body, isQuote q = true ∧ MatchesQuoted q body (trim source)) ∧
    (InQuotes (trim source) → ∀ page, ∃ form ∈ [Form.template, .string],
      form.resolve page (trim source) = some (evaluateOperand source page)) := by
  refine ⟨evaluateOperand_eq_forms source, fun page h => ?_, ?_, resolve_of_inQuotes⟩
  · have hformless := forall_resolve_eq_none_iff.mp h
    have hstrip := stripQuotes_eq_self hformless.1 hformless.2.1
    exact ⟨hstrip, fallback_of_formless hformless⟩
  · obtain ⟨_, _, _, _, _, htrimmed⟩ := trim_spec source
    exact inQuotes_iff_matches htrimmed

/-- Unlike quotes stay around the title, and a literal goes over two lines. -/
theorem fallback_keeps_quotes_unlike :
    (∀ form ∈ forms,
        form.resolve ⟨['T'], ['U'], [], [], []⟩ (trim "\"page.title' ".toList) = none) ∧
      stripQuotes (trim "\"page.title' ".toList) = "\"page.title'".toList ∧
      replaceReferences ⟨['T'], ['U'], [], [], []⟩ "\"page.title'".toList = .ok "\"T'".toList ∧
      InQuotes (trim "'a\nb'\n".toList) ∧
      ∃ form ∈ [Form.template, .string],
        form.resolve ⟨['T'], ['U'], [], [], []⟩ (trim "'a\nb'\n".toList) = some "a\nb".toList := by
  have htrim : trim "\"page.title' ".toList = "\"page.title'".toList := by decide
  have hunresolved : ∀ form ∈ forms,
      form.resolve ⟨['T'], ['U'], [], [], []⟩ (trim "\"page.title' ".toList) = none :=
    forall_resolve_eq_none_iff.mpr (by decide +kernel)
  have hquotes : InQuotes (trim "'a\nb'\n".toList) :=
    inQuotes_iff.mpr ⟨'\x27', "a\nb".toList, by decide, by decide⟩
  have hfallback : evaluateOperand "\"page.title' ".toList ⟨['T'], ['U'], [], [], []⟩ =
      "\"T'".toList := by
    decide +kernel
  have hliteral : evaluateOperand "'a\nb'\n".toList ⟨['T'], ['U'], [], [], []⟩ =
      "a\nb".toList := by
    decide +kernel
  obtain ⟨_, hkept, _, _⟩ := fallback_keeps_quotes "\"page.title' ".toList
  obtain ⟨hstrip, hreplaced⟩ := hkept _ hunresolved
  obtain ⟨_, _, _, hresolved⟩ := fallback_keeps_quotes "'a\nb'\n".toList
  refine ⟨hunresolved, hstrip.trans htrim, ?_, hquotes, hliteral ▸ hresolved hquotes _⟩
  rw [← htrim, hreplaced, hfallback]

end PageClip
