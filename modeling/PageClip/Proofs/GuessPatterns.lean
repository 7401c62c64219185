import PageClip.Classification
import PageClip.Proofs.SpacedTokens

/-! The patterns by which a template is guessed, and the rules that are asked before. A title added
to an address already answers a rule, so only the literal of a render call becomes an option. -/

namespace PageClip

/-- A text without quotes as it stands in two quotes, which need not be of one kind. -/
structure QuotedRun (s quoted : Text) : Prop where
  written : ∃ q r, isQuote q = true ∧ isQuote r = true ∧ quoted = q :: (s ++ [r])
  ne_nil : s ≠ []
  plain : ∀ c ∈ s, isQuote c = false

/-- A render call that starts with a literal, read up to the end of the literal. -/
def LiteralCallIn (code before literal after : Text) : Prop :=
  ∃ w quoted, Blank w ∧ QuotedRun literal quoted ∧
    code = before ++ ("render(".toList ++ (w ++ (quoted ++ after)))

structure FirstLiteralCall (code before literal after : Text) : Prop where
  occurs : LiteralCallIn code before literal after
  first : ∀ b l a, LiteralCallIn code b l a → before.length ≤ b.length

/-- A title and an address with a literal between them, all three added. -/
def TitleUrlSumIn (code before literal after : Text) : Prop :=
  ∃ s quoted, Spaced [['+'], quoted, ['+']] s ∧ QuotedRun literal quoted ∧
    code = before ++ ("page.title".toList ++ (s ++ ("page.url".toList ++ after)))

/-- What no rule matches, said of the texts that stand in it. -/
structure Unmatched (code : Text) : Prop where
  link : ¬ ("render(".toList <:+: code ∧ "<a href=".toList <:+: code)
  markdown : ∀ label, ']' ∉ label → ¬ '[' :: (label ++ [']', '(']) <:+: code
  selection : ¬ "page.selection".toList <:+: code
  titleAndUrl : ¬ ("page.title".toList <:+: code ∧ "page.url".toList <:+: code)

/-- The options that a classification suggests. -/
def Classification.options (c : Classification) : Options :=
  c.template.map fun t => [("template".toList, .text t)]

section patterns
variable {t s w quoted rest : Text}

theorem quotedRun?_eq_some_iff :
    quotedRun? t = some (s, rest) ↔ ∃ quoted, QuotedRun s quoted ∧ t = quoted ++ rest := by
  constructor
  · intro h
    cases t with
    | nil => cases h
    | cons q t =>
      rw [quotedRun?] at h
      split at h
      · rename_i c body r rest' htake hdrop
        split at h
        · rename_i hq
          obtain ⟨rfl, rfl⟩ := Prod.mk.inj (Option.some.inj h)
          have ht := List.takeWhile_append_dropWhile (p := (!isQuote ·)) (l := t)
          rw [htake, hdrop] at ht
          have hr : isQuote r = true := by
            have hhead := List.head?_dropWhile_not (!isQuote ·) t
            simpa [hdrop] using hhead
          refine ⟨q :: (c :: body ++ [r]), ⟨⟨q, r, hq, hr, rfl⟩, by simp, fun x hx => ?_⟩, ?_⟩
          · rw [← htake] at hx
            simpa using List.all_eq_true.mp List.all_takeWhile x hx
          · simp [← ht]
        · cases h
      · cases h
  · rintro ⟨_, ⟨⟨q, r, hq, hr, rfl⟩, hne, hplain⟩, rfl⟩
    obtain ⟨htake, hdrop⟩ := takeWhile_append_eq (p := (!isQuote ·)) (a := s) (b := r :: rest)
      (fun c hc => by simp [hplain c hc]) (fun c hc => by simp [← Option.some.inj hc, hr])
    obtain ⟨c, s', rfl⟩ := List.exists_cons_of_ne_nil hne
    rw [List.cons_append, List.append_assoc, List.singleton_append, quotedRun?, htake, hdrop]
    simp only [hq, if_true]

theorem QuotedRun.trimStart_append (h : QuotedRun s quoted) (t : Text) :
    trimStart (quoted ++ t) = quoted ++ t := by
  obtain ⟨q, r, hq, _, rfl⟩ := h.written
  exact trimStart_cons (isBlank_of_isQuote hq) _

theorem renderLiteralAt?_eq_some_iff :
    renderLiteralAt? t = some s ↔ ∃ after, LiteralCallIn t [] s after := by
  simp only [renderLiteralAt?, Option.bind_eq_bind, Option.bind_eq_some_iff]
  constructor
  · rintro ⟨r, hr, ⟨s', rest⟩, hrun, hs⟩
    obtain rfl := Option.some.inj hs
    obtain ⟨quoted, hquoted, htrim⟩ := quotedRun?_eq_some_iff.mp hrun
    obtain ⟨w, hw, hblank⟩ := trimStart_spec r
    refine ⟨rest, w, quoted, hblank, hquoted, ?_⟩
    rw [eq_append_of_afterPrefix? hr, ← htrim, ← hw]
    rfl
  · rintro ⟨after, w, quoted, hw, hquoted, rfl⟩
    refine ⟨_, afterPrefix?_append _ _, (s, after), ?_, rfl⟩
    rw [trimStart_blank_append hw, hquoted.trimStart_append]
    exact quotedRun?_eq_some_iff.mpr ⟨quoted, hquoted, rfl⟩

theorem concatLiteralAt?_eq_some_iff :
    concatLiteralAt? t = some s ↔ ∃ after, TitleUrlSumIn t [] s after := by
  simp only [concatLiteralAt?, Option.bind_eq_bind, Option.bind_eq_some_iff]
  constructor
  · rintro ⟨r₁, h₁, r₂, h₂, ⟨s', r₃⟩, hrun, r₄, h₄, after, h₅, hs⟩
    obtain rfl := Option.some.inj hs
    obtain ⟨quoted, hquoted, htrim⟩ := quotedRun?_eq_some_iff.mp hrun
    obtain ⟨w₁, hw₁, rfl⟩ := exists_of_afterToken? h₂
    obtain ⟨w₂, hr₂, hw₂⟩ := trimStart_spec r₂
    obtain ⟨w₃, hw₃, rfl⟩ := exists_of_afterToken? h₄
    obtain ⟨w₄, hw₄, rfl⟩ := exists_of_afterToken? h₅
    refine ⟨after, _, quoted, .cons hw₁ (.cons hw₂ (.cons hw₃ (.nil hw₄))), hquoted, ?_⟩
    rw [eq_append_of_afterPrefix? h₁, hr₂, htrim]
    simp
  · rintro ⟨after, u, quoted, hu, hquoted, rfl⟩
    obtain ⟨u₁, hu₁, h₁⟩ := hu.afterToken? (c := '+') rfl (by decide)
    cases hu₁ with
    | @cons w _ _ u₂ hw hu₂ =>
      obtain ⟨u₃, hu₃, h₃⟩ := hu₂.afterToken? (c := '+') rfl (by decide)
      refine ⟨_, afterPrefix?_append _ _, _, h₁ _, (s, u₂ ++ ("page.url".toList ++ after)), ?_, _,
        h₃ _, after, afterToken?_blank_append (c := 'p') rfl (by decide) hu₃.blank after, rfl⟩
      rw [List.append_assoc, trimStart_blank_append hw, List.append_assoc, hquoted.trimStart_append]
      exact quotedRun?_eq_some_iff.mpr ⟨quoted, hquoted, rfl⟩

end patterns

section search
variable {α : Type} {f : Text → Option α} {a : α} {t code literal : Text}

theorem leftmost?_eq_none_iff :
    leftmost? f t = none ↔ ∀ before after, t = before ++ after → f after = none := by
  induction t with
  | nil => simp [leftmost?]
  | cons c t ih =>
    rw [leftmost?, Option.or_eq_none_iff, ih]
    constructor
    · rintro ⟨hhere, hlater⟩ before after h
      cases before with
      | nil => exact (congrArg f h).symm.trans hhere
      | cons x before => exact hlater before after (List.cons.inj h).2
    · intro h
      exact ⟨h [] _ rfl, fun before after ht => h (c :: before) after (by simp [ht])⟩

theorem leftmost?_eq_some_iff :
    leftmost? f t = some a ↔ ∃ before after, t = before ++ after ∧ f after = some a ∧
      ∀ b u x, t = b ++ u → f u = some x → before.length ≤ b.length := by
  induction t with
  | nil =>
    rw [leftmost?]
    constructor
    · intro h
      exact ⟨[], [], rfl, h, fun _ _ _ _ _ => Nat.zero_le _⟩
    · rintro ⟨before, after, h, ha, _⟩
      rwa [(List.nil_eq_append_iff.mp h).2] at ha
  | cons c t ih =>
    rw [leftmost?]
    cases hhere : f (c :: t) with
    | some x =>
      rw [Option.some_or]
      constructor
      · rintro ⟨rfl⟩
        exact ⟨[], _, rfl, hhere, fun _ _ _ _ _ => Nat.zero_le _⟩
      · rintro ⟨before, after, h, ha, hfirst⟩
        obtain rfl := List.length_eq_zero_iff.mp (Nat.le_zero.mp (hfirst [] _ _ rfl hhere))
        rw [List.nil_append] at h
        rw [← ha, ← h, hhere]
    | none =>
      -- Nothing is found here, so all that is found stands behind this character.
      have hbehind : ∀ {b u x}, c :: t = b ++ u → f u = some x → ∃ d, b = c :: d ∧ t = d ++ u := by
        intro b u x h hx
        cases b with
        | nil => cases hhere.symm.trans ((congrArg f h).trans hx)
        | cons y d =>
          obtain ⟨rfl, ht⟩ := List.cons.inj h
          exact ⟨d, rfl, ht⟩
      rw [Option.none_or, ih]
      constructor
      · rintro ⟨before, after, rfl, ha, hfirst⟩
        refine ⟨c :: before, after, rfl, ha, fun b u x h hx => ?_⟩
        obtain ⟨d, rfl, ht⟩ := hbehind h hx
        simpa using hfirst d u x ht hx
      · rintro ⟨before, after, h, ha, hfirst⟩
        obtain ⟨before, rfl, ht⟩ := hbehind h ha
        refine ⟨before, after, ht, ha, fun d u x hd hx => ?_⟩
        simpa using hfirst (c :: d) u x (by simp [hd]) hx

theorem leftmost?_of_some (h : f t = some a) : leftmost? f t = some a :=
  leftmost?_eq_some_iff.mpr ⟨[], t, rfl, h, fun _ _ _ _ _ => Nat.zero_le _⟩

theorem literalCallIn_iff {before after : Text} :
    LiteralCallIn code before literal after ↔
      ∃ t, code = before ++ t ∧ LiteralCallIn t [] literal after := by
  constructor
  · rintro ⟨w, quoted, hw, hquoted, rfl⟩
    exact ⟨_, rfl, w, quoted, hw, hquoted, rfl⟩
  · rintro ⟨_, rfl, w, quoted, hw, hquoted, rfl⟩
    exact ⟨w, quoted, hw, hquoted, rfl⟩

theorem leftmost?_renderLiteralAt? :
    leftmost? renderLiteralAt? code = some literal ↔
      ∃ before after, FirstLiteralCall code before literal after := by
  rw [leftmost?_eq_some_iff]
  constructor
  · rintro ⟨before, t, hcode, ht, hfirst⟩
    obtain ⟨after, hcall⟩ := renderLiteralAt?_eq_some_iff.mp ht
    refine ⟨before, after, literalCallIn_iff.mpr ⟨t, hcode, hcall⟩, fun b l a h => ?_⟩
    obtain ⟨u, hu, hcall⟩ := literalCallIn_iff.mp h
    exact hfirst b u l hu (renderLiteralAt?_eq_some_iff.mpr ⟨a, hcall⟩)
  · rintro ⟨before, after, hcall, hfirst⟩
    obtain ⟨t, hcode, hcall⟩ := literalCallIn_iff.mp hcall
    refine ⟨before, t, hcode, renderLiteralAt?_eq_some_iff.mpr ⟨after, hcall⟩, ?_⟩
    intro b u l hu hl
    obtain ⟨a, hcall⟩ := renderLiteralAt?_eq_some_iff.mp hl
    exact hfirst b l a (literalCallIn_iff.mpr ⟨u, hu, hcall⟩)

/-- Where the pattern occurs at all, there is a first place at which it does. -/
theorem exists_firstLiteralCall {before after : Text}
    (h : LiteralCallIn code before literal after) :
    ∃ b l a, FirstLiteralCall code b l a := by
  obtain ⟨t, hcode, hcall⟩ := literalCallIn_iff.mp h
  have hhere := renderLiteralAt?_eq_some_iff.mpr ⟨after, hcall⟩
  cases hleft : leftmost? renderLiteralAt? code with
  | some l =>
    obtain ⟨b, a, hfirst⟩ := leftmost?_renderLiteralAt?.mp hleft
    exact ⟨b, l, a, hfirst⟩
  | none => cases hhere.symm.trans (leftmost?_eq_none_iff.mp hleft before t hcode)

end search

section rules
variable {part label t code : Text}

theorem occursIn_iff : occursIn part t = true ↔ part <:+: t := by
  induction t with
  | nil => simp [occursIn]
  | cons c t ih => simp [occursIn, ih, List.infix_cons_iff]

theorem closes_label_iff :
    [']', '('] <+: t.dropWhile (· != ']') ↔ ∃ label, ']' ∉ label ∧ label ++ [']', '('] <+: t := by
  constructor
  · rintro ⟨r, hr⟩
    refine ⟨t.takeWhile (· != ']'), fun h => ?_, r, ?_⟩
    · simpa using List.all_eq_true.mp List.all_takeWhile _ h
    · rw [List.append_assoc, hr, List.takeWhile_append_dropWhile]
  · rintro ⟨label, hlabel, r, rfl⟩
    rw [List.append_assoc, List.cons_append, (cut_before hlabel _).2]
    exact ⟨r, rfl⟩

theorem hasMarkdownLink_iff :
    hasMarkdownLink t = true ↔ ∃ label, ']' ∉ label ∧ '[' :: (label ++ [']', '(']) <:+: t := by
  induction t with
  | nil => simp [hasMarkdownLink]
  | cons c t ih =>
    rw [hasMarkdownLink, Bool.or_eq_true, Bool.and_eq_true, List.isPrefixOf_iff_prefix,
      closes_label_iff, ih, beq_iff_eq]
    simp only [List.infix_cons_iff, List.cons_prefix_cons]
    grind

theorem forall_rules_iff : (∀ r ∈ rules, r.2 code = false) ↔ Unmatched code := by
  have hmarkdown : ¬ hasMarkdownLink code = true ↔
      ∀ label, ']' ∉ label → ¬ '[' :: (label ++ [']', '(']) <:+: code := by
    simp only [hasMarkdownLink_iff, not_exists, not_and]
  simp only [rules, List.forall_mem_cons, ← Bool.not_eq_true, Bool.and_eq_true, occursIn_iff,
    hmarkdown]
  constructor
  · rintro ⟨hlink, hlabel, hselection, hsum, _⟩
    exact ⟨hlink, hlabel, hselection, hsum⟩
  · rintro ⟨hlink, hlabel, hselection, hsum⟩
    exact ⟨hlink, hlabel, hselection, hsum, by simp⟩

theorem Unmatched.not_titleUrlSumIn (h : Unmatched code) (before literal after : Text) :
    ¬ TitleUrlSumIn code before literal after := by
  rintro ⟨s, quoted, _, _, rfl⟩
  exact h.titleAndUrl
    ⟨⟨before, s ++ ("page.url".toList ++ after), by simp⟩,
      ⟨before ++ ("page.title".toList ++ s), after, by simp⟩⟩

/-- The sum could only be guessed where its two fields have already matched a rule. -/
theorem Unmatched.extractTemplate?_eq (h : Unmatched code) :
    extractTemplate? code = leftmost? renderLiteralAt? code := by
  have hsum : leftmost? concatLiteralAt? code = none := by
    rw [leftmost?_eq_none_iff]
    rintro before t rfl
    rw [Option.eq_none_iff_forall_ne_some]
    intro literal hliteral
    obtain ⟨after, s, quoted, hs, hquoted, rfl⟩ := concatLiteralAt?_eq_some_iff.mp hliteral
    exact h.not_titleUrlSumIn before literal after ⟨s, quoted, hs, hquoted, rfl⟩
  rw [extractTemplate?, hsum]
  cases leftmost? renderLiteralAt? code <;> rfl

theorem options_classify_eq_some_iff {o : Dict Value} :
    (classify code).options = some o ↔
      Unmatched code ∧ ∃ before literal after, FirstLiteralCall code before literal after ∧
        o = [("template".toList, .text literal)] := by
  cases hrule : rules.find? fun r => r.2 code with
  | some r =>
    have hmatches := List.find?_some hrule
    have hno : ¬ Unmatched code := by
      intro h
      cases hmatches.symm.trans (forall_rules_iff.mpr h r (List.mem_of_find?_eq_some hrule))
    simp [classify, hrule, Classification.options, hno]
  | none =>
    have hunmatched : Unmatched code := forall_rules_iff.mp (by simpa using hrule)
    have hoptions : (classify code).options = (leftmost? renderLiteralAt? code).map
        fun t => [("template".toList, .text t)] := by
      rw [classify, hrule, Classification.options, hunmatched.extractTemplate?_eq]
    rw [hoptions, Option.map_eq_some_iff]
    simp only [leftmost?_renderLiteralAt?]
    constructor
    · rintro ⟨literal, ⟨before, after, hcall⟩, rfl⟩
      exact ⟨hunmatched, before, literal, after, hcall, rfl⟩
    · rintro ⟨_, before, literal, after, hcall, rfl⟩
      exact ⟨literal, ⟨before, after, hcall⟩, rfl⟩

end rules

/-- Text that no rule matches holds no sum of a title and an address, so a classification has
options exactly when no rule matches and a render call starts with a literal. They hold the literal
of the first such call. -/
theorem classify_options_iff (code : Text) :
    ((∀ r ∈ rules, r.2 code = false) ↔ Unmatched code) ∧
    (Unmatched code → ∀ before literal after, ¬ TitleUrlSumIn code before literal after) ∧
    ((classify code).options.isSome ↔
      Unmatched code ∧ ∃ before literal after, LiteralCallIn code before literal after) ∧
    ∀ o, (classify code).options = some o ↔
      Unmatched code ∧ ∃ before literal after, FirstLiteralCall code before literal after ∧
        o = [("template".toList, .text literal)] := by
  refine ⟨forall_rules_iff, fun h => h.not_titleUrlSumIn, ?_, fun _ => options_classify_eq_some_iff⟩
  rw [Option.isSome_iff_exists]
  constructor
  · rintro ⟨o, ho⟩
    obtain ⟨hunmatched, before, literal, after, hcall, _⟩ := options_classify_eq_some_iff.mp ho
    exact ⟨hunmatched, before, literal, after, hcall.occurs⟩
  · rintro ⟨hunmatched, _, _, _, hcall⟩
    obtain ⟨before, literal, after, hfirst⟩ := exists_firstLiteralCall hcall
    exact ⟨_, options_classify_eq_some_iff.mpr ⟨hunmatched, before, literal, after, hfirst, rfl⟩⟩

/-- The quotes around a literal need not match, and a second call plays no part. -/
theorem classify_options_iff_two_calls :
    Unmatched "text: render( \"a', page) + render('b', page)".toList ∧
      (∀ before literal after, ¬ TitleUrlSumIn
        "text: render( \"a', page) + render('b', page)".toList before literal after) ∧
      (classify "text: render( \"a', page) + render('b', page)".toList).options =
        some [("template".toList, .text "a".toList)] := by
  have hunmatched : Unmatched "text: render( \"a', page) + render('b', page)".toList :=
    forall_rules_iff.mp (by decide +kernel)
  have hleft : leftmost? renderLiteralAt? "text: render( \"a', page) + render('b', page)".toList =
      some "a".toList := by
    decide +kernel
  obtain ⟨before, after, hcall⟩ := leftmost?_renderLiteralAt?.mp hleft
  obtain ⟨_, hsum, _, hoptions⟩ :=
    classify_options_iff "text: render( \"a', page) + render('b', page)".toList
  exact ⟨hunmatched, hsum hunmatched,
    (hoptions _).mpr ⟨hunmatched, before, _, after, hcall, rfl⟩⟩

end PageClip
