import PageClip.HtmlPage
import PageClip.Proofs.SplitJoin

/-! The lines of a page's content. Every line break is a blank, so lines that are trimmed and
joined by newlines lose blanks only, and cleaning them once more finds nothing to take off. -/

namespace PageClip

def Unbroken (l : Text) : Prop := ∀ c ∈ l, isLineBreak c = false

/-- What ends a line in front of a text. A carriage return and its newline are one end. -/
inductive EndsLine : Text → Text → Prop where
  | pair {t} : EndsLine ['\r', '\n'] t
  | single {c t} : isLineBreak c = true → ¬ (c = '\r' ∧ t.head? = some '\n') → EndsLine [c] t

/-- A text by its lines. What stands behind the last end is a line unless it is empty. -/
inductive Lined : List Text → Text → Prop where
  | nil : Lined [] []
  | last {l} : Unbroken l → l ≠ [] → Lined [l] l
  | line {l e ls t} : Unbroken l → EndsLine e t → Lined ls t → Lined (l :: ls) (l ++ (e ++ t))

def withoutBlanks (t : Text) : Text := t.filter (!isBlank ·)

def tidyLines (ls : List Text) : List Text := (ls.map trim).filter (· ≠ [])

/-- The text `u` is made of the lines of `t` that are not blank, without the blanks around them. -/
structure CleanedOf (t u : Text) : Prop where
  kept : lines u = tidyLines (lines t)
  joined : u = joinWith ['\n'] (lines u)
  line : ∀ l ∈ lines u, l ≠ [] ∧ Trimmed l ∧ Unbroken l
  withoutBlanks_eq : withoutBlanks u = withoutBlanks t
  stable : cleanLines u = u

section reading
variable {c : Char} {l e t : Text} {ls : List Text}

theorem isBlank_of_isLineBreak (h : isLineBreak c = true) : isBlank c = true := by
  simp only [isLineBreak, isBlank, Bool.or_eq_true, Bool.and_eq_true, decide_eq_true_eq,
    beq_iff_eq] at h ⊢
  omega

theorem unbroken_nil : Unbroken [] := fun _ h => absurd h List.not_mem_nil

theorem unbroken_cons : Unbroken (c :: l) ↔ isLineBreak c = false ∧ Unbroken l :=
  List.forall_mem_cons

theorem lines_cons (hc : isLineBreak c = false) (t : Text) :
    lines (c :: t) = consHead c (lines t) := by
  have hreturn : c ≠ '\r' := by
    rintro rfl
    cases hc
  rw [lines, if_neg (by simp [hc])]
  exact fun _ h => absurd h hreturn

theorem lines_endsLine (he : EndsLine e t) : lines (e ++ t) = [] :: lines t := by
  cases he with
  | pair => simp [lines]
  | single hc hno =>
    rw [List.singleton_append, lines, if_pos hc]
    rintro r rfl rfl
    exact hno ⟨rfl, rfl⟩

theorem lines_line (hl : Unbroken l) (he : EndsLine e t) :
    lines (l ++ (e ++ t)) = l :: lines t := by
  induction l with
  | nil => exact lines_endsLine he
  | cons c l ih =>
    obtain ⟨hc, hl⟩ := unbroken_cons.mp hl
    rw [List.cons_append, lines_cons hc, ih hl, consHead]

theorem lines_last (hl : Unbroken l) (hne : l ≠ []) : lines l = [l] := by
  induction l with
  | nil => exact absurd rfl hne
  | cons c l ih =>
    obtain ⟨hc, hl⟩ := unbroken_cons.mp hl
    rw [lines_cons hc]
    by_cases hnil : l = []
    · simp [hnil, lines, consHead]
    · rw [ih hl hnil, consHead]

theorem Lined.lines_eq (h : Lined ls t) : lines t = ls := by
  induction h with
  | nil => rfl
  | last hl hne => exact lines_last hl hne
  | line hl he _ ih => rw [lines_line hl he, ih]

theorem Lined.cons (h : Lined ls t) (hc : isLineBreak c = false) :
    Lined (consHead c ls) (c :: t) := by
  cases h with
  | nil => exact .last (unbroken_cons.mpr ⟨hc, unbroken_nil⟩) (by simp)
  | last hl _ => exact .last (unbroken_cons.mpr ⟨hc, hl⟩) (by simp)
  | line hl he hrest => exact .line (unbroken_cons.mpr ⟨hc, hl⟩) he hrest

theorem lined_lines (t : Text) : Lined (lines t) t := by
  fun_induction lines t with
  | case1 => exact .nil
  | case2 t ih => exact .line unbroken_nil .pair ih
  | case3 c t hno hc ih =>
    refine .line unbroken_nil (.single hc ?_) ih
    -- A carriage return with its newline went with the case before.
    rintro ⟨rfl, hhead⟩
    obtain ⟨r, rfl⟩ := List.head?_eq_some_iff.mp hhead
    exact hno r rfl rfl
  | case4 c t _ hc ih => exact ih.cons (Bool.eq_false_iff.mpr hc)

theorem lines_eq_iff : lines t = ls ↔ Lined ls t :=
  ⟨fun h => h ▸ lined_lines t, Lined.lines_eq⟩

theorem Lined.unbroken (h : Lined ls t) : ∀ l ∈ ls, Unbroken l := by
  induction h with
  | nil => simp
  | last hl _ => simpa using hl
  | line hl _ _ ih => exact List.forall_mem_cons.mpr ⟨hl, ih⟩

theorem lined_joinWith (h : ∀ l ∈ ls, l ≠ [] ∧ Unbroken l) : Lined ls (joinWith ['\n'] ls) := by
  induction ls with
  | nil => exact .nil
  | cons l ls ih =>
    obtain ⟨⟨hne, hl⟩, hls⟩ := List.forall_mem_cons.mp h
    by_cases hnil : ls = []
    · simpa [hnil, joinWith] using Lined.last hl hne
    · rw [joinWith_cons hnil]
      exact .line hl (.single rfl (by simp)) (ih hls)

end reading

section cleaning
variable {l e t u : Text} {ls : List Text}

theorem withoutBlanks_append (t u : Text) :
    withoutBlanks (t ++ u) = withoutBlanks t ++ withoutBlanks u := List.filter_append ..

theorem withoutBlanks_eq_nil (h : Blank t) : withoutBlanks t = [] := by
  rw [withoutBlanks, List.filter_eq_nil_iff]
  intro c hc
  simp [h c hc]

theorem withoutBlanks_trim (t : Text) : withoutBlanks (trim t) = withoutBlanks t := by
  obtain ⟨u, v, ht, hu, hv, _⟩ := trim_spec t
  have hparts := congrArg withoutBlanks ht
  rw [withoutBlanks_append, withoutBlanks_append, withoutBlanks_eq_nil hu,
    withoutBlanks_eq_nil hv, List.nil_append, List.append_nil] at hparts
  exact hparts.symm

theorem EndsLine.blank (h : EndsLine e t) : Blank e := by
  cases h with
  | pair => simp [Blank, isBlank]
  | single hc _ => simpa [Blank] using isBlank_of_isLineBreak hc

/-- The characters that are not blank all stand in the lines. -/
theorem Lined.withoutBlanks_eq (h : Lined ls t) : withoutBlanks t = ls.flatMap withoutBlanks := by
  induction h with
  | nil => rfl
  | last => simp
  | line hl he _ ih =>
    rw [withoutBlanks_append, withoutBlanks_append, withoutBlanks_eq_nil he.blank, ih]
    simp

theorem flatMap_withoutBlanks_tidyLines (ls : List Text) :
    (tidyLines ls).flatMap withoutBlanks = ls.flatMap withoutBlanks := by
  induction ls with
  | nil => rfl
  | cons l ls ih =>
    rw [List.flatMap_cons, ← ih, ← withoutBlanks_trim l]
    by_cases hl : trim l = []
    · simp [tidyLines, hl, withoutBlanks]
    · simp [tidyLines, hl]

theorem trim_unbroken (h : Unbroken l) : Unbroken (trim l) := by
  obtain ⟨u, v, hl, _⟩ := trim_spec l
  intro c hc
  exact h c (by rw [hl]; simp [hc])

/-- What is left of a line is a line of its own, and trimmed. -/
theorem line_of_mem_tidyLines (hls : ∀ l ∈ ls, Unbroken l) (h : l ∈ tidyLines ls) :
    l ≠ [] ∧ Trimmed l ∧ Unbroken l := by
  obtain ⟨hmem, hne⟩ := List.mem_filter.mp h
  obtain ⟨k, hk, rfl⟩ := List.mem_map.mp hmem
  obtain ⟨_, _, _, _, _, htrimmed⟩ := trim_spec k
  exact ⟨by simpa using hne, htrimmed, trim_unbroken (hls k hk)⟩

theorem tidyLines_eq_self (h : ∀ l ∈ ls, l ≠ [] ∧ Trimmed l ∧ Unbroken l) :
    tidyLines ls = ls := by
  have hmap : ls.map trim = ls :=
    (List.map_congr_left fun l hl => (h l hl).2.1.trim_eq).trans (List.map_id ls)
  rw [tidyLines, hmap, List.filter_eq_self]
  intro l hl
  simpa using (h l hl).1

theorem cleanLines_eq (t : Text) : cleanLines t = joinWith ['\n'] (tidyLines (lines t)) := by
  have hempty : ∀ l : Text, (!l.isEmpty) = decide (l ≠ []) := fun l => by cases l <;> rfl
  simp only [cleanLines, tidyLines, hempty]

theorem cleanedOf_cleanLines (t : Text) : CleanedOf t (cleanLines t) := by
  have htidy : ∀ l ∈ tidyLines (lines t), l ≠ [] ∧ Trimmed l ∧ Unbroken l := fun l hl =>
    line_of_mem_tidyLines (lined_lines t).unbroken hl
  have hlined : Lined (tidyLines (lines t)) (cleanLines t) := by
    rw [cleanLines_eq]
    exact lined_joinWith fun l hl => ⟨(htidy l hl).1, (htidy l hl).2.2⟩
  have hkept := hlined.lines_eq
  constructor
  case kept => exact hkept
  case joined => rw [hkept, ← cleanLines_eq]
  case line =>
    rw [hkept]
    exact htidy
  case withoutBlanks_eq =>
    rw [hlined.withoutBlanks_eq, flatMap_withoutBlanks_tidyLines, (lined_lines t).withoutBlanks_eq]
  case stable => rw [cleanLines_eq (cleanLines t), hkept, tidyLines_eq_self htidy, ← cleanLines_eq]

example : cleanLines "\x0c a\t\r\n\x1f\n b \u2028c\r".toList = "a\nb\nc".toList := by
  decide +kernel

end cleaning

/-- The text that a document shows, before its lines are cleaned. -/
def shownText (html : Text) : Text :=
  visibleText (mutedIn silentElements false (parseMarkup html))

/-- The content of a page is what its document shows, line by line without the blank lines and the
blanks around lines, and nothing else is lost. -/
theorem cleanLines_lossless :
    (∀ t ls, lines t = ls ↔ Lined ls t) ∧ (∀ t, CleanedOf t (cleanLines t)) ∧
      ∀ html url selection, CleanedOf (shownText html) (pageOfHtml html url selection).content := by
  refine ⟨fun _ _ => lines_eq_iff, cleanedOf_cleanLines, fun html url selection => ?_⟩
  have hcontent : (pageOfHtml html url selection).content = cleanLines (shownText html) := rfl
  rw [hcontent]
  exact cleanedOf_cleanLines (shownText html)

end PageClip
