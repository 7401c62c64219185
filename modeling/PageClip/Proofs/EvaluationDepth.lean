import Mathlib.Computability.RegularExpressions
import PageClip.Proofs.ExpressionParts
import PageClip.Proofs.FieldReferences

/-! Evaluation with everything that could go wrong in it: the text in parentheses might not get
shorter, and a name found inside other text might be no field. Neither happens, so a depth of half
the length of an expression is enough for its value. -/

namespace PageClip

/-- The pattern that takes this text and no other. -/
def exactly (t : Text) : RegularExpression Char := t.foldr (fun c p => .char c * p) 1

/-- What is looked for inside text that no form takes. -/
def referencePattern : RegularExpression Char :=
  exactly "page.".toList *
    (exactly "title".toList + exactly "url".toList + exactly "selection".toList +
      exactly "meta".toList * (1 + .char '?') * exactly ".description".toList)

def isWordBoundary (before after : Text) : Bool :=
  before.getLast?.any isWordChar != after.head?.any isWordChar

/-- The match of the pattern at the head of a text, and the text behind it. -/
def referenceAt? (t : Text) : Option (Text × Text) :=
  ((List.range (t.length + 1)).map t.splitAt).find? fun p =>
    referencePattern.rmatch p.1 && isWordBoundary p.1 p.2

section pattern
variable {t name rest : Text} {f : Field}

theorem singleton_mul_singleton (t u : Text) : ({t} : Language Char) * {u} = {t ++ u} :=
  Set.image2_singleton

theorem matches_exactly (t : Text) : (exactly t).matches' = {t} := by
  induction t with
  | nil => rfl
  | cons c t ih =>
    have hcons : exactly (c :: t) = .char c * exactly t := rfl
    rw [hcons, RegularExpression.matches'_mul, RegularExpression.matches'_char, ih,
      singleton_mul_singleton]
    rfl

theorem mem_referencePattern_iff :
    name ∈ referencePattern.matches' ↔ name ∈ fieldNames.map Prod.fst := by
  have hlanguage : referencePattern.matches' =
      {"page.title".toList} + {"page.url".toList} + {"page.selection".toList} +
        ({"page.meta.description".toList} + {"page.meta?.description".toList}) := by
    simp only [referencePattern, RegularExpression.matches'_mul, RegularExpression.matches'_add,
      RegularExpression.matches'_epsilon, RegularExpression.matches'_char, matches_exactly,
      mul_add, add_mul, mul_one, singleton_mul_singleton]
    rfl
  rw [hlanguage]
  simp only [Language.mem_add, fieldNames, List.map_cons, List.map_nil, List.mem_cons, or_assoc,
    List.not_mem_nil, or_false]
  rfl

theorem isWordBoundary_name (h : (name, f) ∈ fieldNames) :
    isWordBoundary name rest = true ↔ rest.head?.any isWordChar = false := by
  -- Every name ends in a word character, so what follows it decides.
  have hall : ∀ e ∈ fieldNames, e.1.getLast?.any isWordChar = true := by decide
  rw [isWordBoundary, hall _ h]
  cases rest.head?.any isWordChar <;> simp

theorem rmatch_and_boundary_iff :
    (referencePattern.rmatch name && isWordBoundary name rest) = true ↔
      ∃ f, (name, f) ∈ fieldNames ∧ rest.head?.any isWordChar = false := by
  rw [Bool.and_eq_true, RegularExpression.rmatch_iff_matches', mem_referencePattern_iff]
  constructor
  · rintro ⟨hname, hboundary⟩
    obtain ⟨⟨_, f⟩, hf, rfl⟩ := List.mem_map.mp hname
    exact ⟨f, hf, (isWordBoundary_name hf).mp hboundary⟩
  · rintro ⟨f, hf, hends⟩
    exact ⟨List.mem_map.mpr ⟨_, hf, rfl⟩, (isWordBoundary_name hf).mpr hends⟩

theorem referenceAt?_eq_some_iff :
    referenceAt? t = some (name, rest) ↔ ∃ f, FieldIn t [] name f rest := by
  have hfound : ∀ {name rest}, referenceAt? t = some (name, rest) →
      ∃ f, FieldIn t [] name f rest := by
    intro name rest h
    have hmatch := List.find?_some h
    obtain ⟨f, hf, hends⟩ := rmatch_and_boundary_iff.mp hmatch
    obtain ⟨i, _, hsplit⟩ := List.mem_map.mp (List.mem_of_find?_eq_some h)
    rw [List.splitAt_eq] at hsplit
    obtain ⟨rfl, rfl⟩ := Prod.mk.inj hsplit
    exact ⟨f, hf, (List.take_append_drop i t).symm, hends⟩
  refine ⟨hfound, fun ⟨f, h⟩ => ?_⟩
  cases hat : referenceAt? t with
  | some found =>
    obtain ⟨f', h'⟩ := hfound hat
    obtain ⟨hname, _, hrest⟩ := h.unique h'
    rw [hname, hrest]
  | none =>
    have hsplit : t.splitAt name.length = (name, rest) := by
      rw [List.splitAt_eq, h.eq, List.nil_append, List.take_left, List.drop_left]
    have hlt : name.length < t.length + 1 := by
      rw [h.eq, List.nil_append, List.length_append]
      omega
    have hnone := List.find?_eq_none.mp hat _
      (List.mem_map.mpr ⟨name.length, List.mem_range.mpr hlt, hsplit⟩)
    exact absurd (rmatch_and_boundary_iff.mpr ⟨f, h.named, h.ends⟩) hnone

theorem referenceAt?_length (h : referenceAt? t = some (name, rest)) : rest.length < t.length := by
  obtain ⟨f, hin⟩ := referenceAt?_eq_some_iff.mp h
  have hpos := List.length_pos_of_ne_nil (name_ne_nil hin.named)
  rw [hin.eq, List.nil_append, List.length_append]
  omega

theorem fieldAt?_of_referenceAt? (h : referenceAt? t = some (name, rest)) :
    ∃ f, fieldNamed? name = some f ∧ fieldAt? t = some (f, rest) := by
  have hall : ∀ e ∈ fieldNames, fieldNamed? e.1 = some e.2 := by decide
  obtain ⟨f, hin⟩ := referenceAt?_eq_some_iff.mp h
  exact ⟨f, hall _ hin.named, fieldAt?_eq_some_iff.mpr ⟨name, hin⟩⟩

theorem fieldAt?_of_referenceAt?_eq_none (h : referenceAt? t = none) : fieldAt? t = none := by
  cases hat : fieldAt? t with
  | none => rfl
  | some found =>
    obtain ⟨name, hin⟩ := fieldAt?_eq_some_iff.mp hat
    cases h.symm.trans (referenceAt?_eq_some_iff.mpr ⟨_, hin⟩)

theorem fieldPieces_of_field {c : Char} (h : fieldAt? (c :: t) = some (f, rest)) :
    fieldPieces (c :: t) = .field f :: fieldPieces rest := by
  rw [fieldPieces]
  split
  · rename_i hat
    obtain ⟨rfl, rfl⟩ := Prod.mk.inj (Option.some.inj (h.symm.trans hat))
    rfl
  · rename_i hnone
    cases h.symm.trans hnone

theorem fieldPieces_of_char {c : Char} (h : fieldAt? (c :: t) = none) :
    fieldPieces (c :: t) = .char c :: fieldPieces t := by
  rw [fieldPieces]
  split
  · rename_i hsome
    cases h.symm.trans hsome
  · rfl

end pattern

inductive EvaluationFault where
  | tooDeep
  | notShorter (operand inside : Text)
  | noField (name : Text)
  deriving DecidableEq, Repr

def namedText (page : Page) (name : Text) : Except EvaluationFault Text :=
  match fieldNamed? name with
  | some f => .ok (f.value page)
  | none => .error (.noField name)

/-- The text with what the pattern matches replaced, each match by what is found under it. -/
def replaceReferences (page : Page) (t : Text) : Except EvaluationFault Text :=
  match t with
  | [] => .ok []
  | c :: u =>
    match _h : referenceAt? (c :: u) with
    | some (name, rest) => do
      let value ← namedText page name
      return value ++ (← replaceReferences page rest)
    | none => do return c :: (← replaceReferences page u)
termination_by t.length
decreasing_by
  · exact referenceAt?_length (by assumption)
  · simp

/-- The value of an operand, `inside` giving the value of what stands in its parentheses. -/
def operandWithin (inside : Text → Except EvaluationFault Text) (page : Page) (source : Text) :
    Except EvaluationFault Text :=
  let t := trim source
  match templateLiteral? t, stringLiteral? t, fieldNamed? t, renderCall? t with
  | some body, _, _, _ => .ok ((templatePieces body).flatMap (Piece.value page))
  | none, some body, _, _ => .ok (unescape body)
  | none, none, some f, _ => .ok (f.value page)
  | none, none, none, some template => .ok (render (unescape template) page.lookup)
  | none, none, none, none =>
    match parenthesised? t with
    | some inner =>
      if inner.length + 2 ≤ t.length then inside inner else .error (.notShorter t inner)
    | none => replaceReferences page (stripQuotes t)

def sumWithin (operand : Text → Except EvaluationFault Text) :
    List Text → Except EvaluationFault Text
  | [] => .ok []
  | o :: rest => do return (← operand o) ++ (← sumWithin operand rest)

/-- Nothing behind the first alternative that is not empty is evaluated. -/
def choiceWithin (sum : Text → Except EvaluationFault Text) :
    List Text → Except EvaluationFault Text
  | [] => .ok []
  | a :: rest => do
    match ← sum a with
    | [] => choiceWithin sum rest
    | c :: t => return c :: t

/-- Evaluation that goes into parentheses less than `depth` times. -/
def evaluateWithin (page : Page) : (depth : Nat) → Text → Except EvaluationFault Text
  | 0, _ => .error .tooDeep
  | depth + 1, t =>
    let operand := operandWithin (evaluateWithin page depth) page
    choiceWithin (fun a => sumWithin operand (operandsOf a)) (alternativesOf t)

section faultless
variable {page : Page} {t inner source : Text} {depth : Nat}

theorem replaceReferences_eq (page : Page) (t : Text) :
    replaceReferences page t = .ok ((fieldPieces t).flatMap (Piece.value page)) := by
  fun_induction replaceReferences page t with
  | case1 => rw [fieldPieces]; rfl
  | case2 c u name rest hat ih =>
    obtain ⟨f, hnamed, hfield⟩ := fieldAt?_of_referenceAt? hat
    rw [namedText, hnamed, ih, fieldPieces_of_field hfield]
    rfl
  | case3 c u hat ih =>
    rw [ih, fieldPieces_of_char (fieldAt?_of_referenceAt?_eq_none hat)]
    rfl

theorem length_of_parenthesised? (h : parenthesised? t = some inner) :
    inner.length + 2 = t.length := by
  unfold parenthesised? at h
  split at h
  · rename_i body
    split at h
    · rename_i hclose
      obtain rfl := Option.some.inj h
      -- An opening parenthesis alone is not closed, so there are two to go.
      have hne : body ≠ [] := by
        rintro rfl
        exact absurd hclose (by decide)
      have hpos := List.length_pos_of_ne_nil hne
      rw [List.length_dropLast, List.length_cons]
      omega
    · cases h
  · cases h

theorem operandWithin_eq {inside : Text → Except EvaluationFault Text}
    (h : ∀ inner, inner.length + 2 ≤ source.length → inside inner = .ok (evaluate inner page)) :
    operandWithin inside page source = .ok ((readOperand source).value page) := by
  rw [operandWithin, readOperand_eq]
  cases templateLiteral? (trim source) with
  | some body => rfl
  | none =>
    cases stringLiteral? (trim source) with
    | some body => rfl
    | none =>
      cases fieldNamed? (trim source) with
      | some f => rfl
      | none =>
        cases renderCall? (trim source) with
        | some template => rfl
        | none =>
          cases hgroup : parenthesised? (trim source) with
          | some inner =>
            have hlength := length_of_parenthesised? hgroup
            have htrim := trim_length_le source
            dsimp only
            rw [if_pos (by omega), h inner (by omega)]
            rfl
          | none => exact replaceReferences_eq page _

theorem sumWithin_eq {operand : Text → Except EvaluationFault Text} {os : List Text}
    (h : ∀ o ∈ os, operand o = .ok ((readOperand o).value page)) :
    sumWithin operand os = .ok (sumValue page (os.map readOperand)) := by
  induction os with
  | nil => rfl
  | cons o os ih =>
    rw [List.forall_mem_cons] at h
    rw [sumWithin, h.1, ih h.2]
    rfl

theorem choiceWithin_eq {sum : Text → Except EvaluationFault Text} {as : List Text}
    (h : ∀ a ∈ as, sum a = .ok (sumValue page (readSum a))) :
    choiceWithin sum as = .ok (Expression.value page (as.map readSum)) := by
  induction as with
  | nil => rfl
  | cons a as ih =>
    rw [List.forall_mem_cons] at h
    rw [choiceWithin, h.1, List.map_cons, Expression.value]
    cases sumValue page (readSum a) with
    | nil => exact ih h.2
    | cons c t => rfl

theorem evaluateWithin_eq (h : t.length / 2 < depth) :
    evaluateWithin page depth t = .ok (evaluate t page) := by
  -- What stands in parentheses is two characters shorter than the operand: one level less.
  induction depth generalizing t with
  | zero => omega
  | succ depth ih =>
    have hoperand : ∀ a ∈ alternativesOf t, ∀ o ∈ operandsOf a,
        operandWithin (evaluateWithin page depth) page o = .ok ((readOperand o).value page) := by
      intro a ha o ho
      have hlength := operandsOf_length_le ha ho
      exact operandWithin_eq fun inner hinner => ih (by omega)
    exact choiceWithin_eq fun a ha => sumWithin_eq (hoperand a ha)

end faultless

/-- Every expression has a value on every page: what the pattern finds is the name of a field, what
stands in parentheses is two characters shorter than the operand, and evaluation that goes less deep
than half the length of the expression gives the value and meets no fault. -/
theorem evaluate_total :
    (∀ name, name ∈ referencePattern.matches' ↔ name ∈ fieldNames.map Prod.fst) ∧
    (∀ operand inner, parenthesised? operand = some inner →
      inner.length + 2 = operand.length) ∧
    ∀ (page : Page) (t : Text) (depth : Nat), t.length / 2 < depth →
      evaluateWithin page depth t = .ok (evaluate t page) :=
  ⟨fun _ => mem_referencePattern_iff, fun _ _ => length_of_parenthesised?,
    fun _ _ _ => evaluateWithin_eq⟩

theorem evaluate_total_nested :
    parenthesised? "((page.url))".toList = some "(page.url)".toList ∧
      "(page.url)".toList.length + 2 = "((page.url))".toList.length ∧
      "((page.url)) + mypage.title + (".toList.length / 2 < 16 ∧
      evaluateWithin ⟨['T'], ['U'], [], [], []⟩ 16 "((page.url)) + mypage.title + (".toList =
        .ok "UmyT(".toList := by
  have hgroup : parenthesised? "((page.url))".toList = some "(page.url)".toList := by decide
  have hdepth : "((page.url)) + mypage.title + (".toList.length / 2 < 16 := by decide
  have hvalue : evaluate "((page.url)) + mypage.title + (".toList ⟨['T'], ['U'], [], [], []⟩ =
      "UmyT(".toList := by
    decide +kernel
  obtain ⟨_, hshorter, hevaluate⟩ := evaluate_total
  exact ⟨hgroup, hshorter _ _ hgroup, hdepth, hvalue ▸ hevaluate _ _ _ hdepth⟩

-- Two pairs of parentheses are too deep for a depth of two.
example : evaluateWithin ⟨['T'], ['U'], [], [], []⟩ 2 "((page.url))".toList = .error .tooDeep := by
  decide +kernel

end PageClip
