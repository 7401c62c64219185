import PageClip.Proofs.CatalogSource
import PageClip.Proofs.GuessPatterns
import PageClip.Proofs.TemplateParts

/-! Functions that do nothing but render a template, and the template that is guessed for them.
The guess takes the literal as it is written and stops at any quote, so it is the template only
where nothing in it had to be escaped and no quote is part of it. -/

namespace PageClip

/-- A text as it is written between quotes `q`. -/
def encodeIn (q : Char) (t : Text) : Text :=
  t.flatMap fun c => if c = '\n' then ['\\', 'n'] else if c = '\\' ∨ c = q then ['\\', c] else [c]

def renderCall (q : Char) (t : Text) : Text :=
  "render(".toList ++ (q :: (encodeIn q t ++ q :: ", page)".toList))

/-- The function that renders a template and returns it as its text. -/
def renderFunction (q : Char) (t : Text) : Text :=
  "(page) => \x7b return \x7b text: ".toList ++ (renderCall q t ++ " \x7d \x7d".toList)

/-- A template that can be written without an escape and holds no quote of any kind. -/
def PlainTemplate (t : Text) : Prop := ∀ c ∈ t, isQuote c = false ∧ c ≠ '\\' ∧ c ≠ '\n'

section encoding
variable {q : Char} {t : Text}

theorem encodeIn_cons (q c : Char) (t : Text) :
    encodeIn q (c :: t) = (if c = '\n' then ['\\', 'n']
      else if c = '\\' ∨ c = q then ['\\', c] else [c]) ++ encodeIn q t := rfl

theorem encoded_encodeIn (q : Char) (t : Text) : Encoded ['\\', q] t (encodeIn q t) := by
  induction t with
  | nil => exact .nil
  | cons c t ih =>
    rw [encodeIn_cons]
    by_cases hn : c = '\n'
    · rw [if_pos hn, hn]
      exact .newline ih
    · rw [if_neg hn]
      by_cases hc : c = '\\' ∨ c = q
      · rw [if_pos hc]
        exact .escape (by simpa using hc) ih
      · rw [if_neg hc]
        exact .raw (by simpa using hc) ih

theorem encodeIn_eq_self (hq : isQuote q = true) (h : PlainTemplate t) : encodeIn q t = t := by
  induction t with
  | nil => rfl
  | cons c t ih =>
    obtain ⟨hc, hslash, hnewline⟩ := h c List.mem_cons_self
    have hne : c ≠ q := by
      rintro rfl
      rw [hq] at hc
      cases hc
    rw [encodeIn_cons, if_neg hnewline, if_neg (by simp [hslash, hne]),
      ih fun x hx => h x (List.mem_cons_of_mem c hx)]
    rfl

theorem count_encodeIn (hq : q ∉ t) :
    (encodeIn q t).count '\\' = 2 * t.count '\\' + t.count '\n' := by
  induction t with
  | nil => rfl
  | cons c t ih =>
    obtain ⟨hc, ht⟩ := not_or.mp (mt List.mem_cons.mpr hq)
    rw [encodeIn_cons, List.count_append, ih ht]
    by_cases hn : c = '\n'
    · subst hn
      simp
      omega
    · by_cases hb : c = '\\'
      · subst hb
        simp
        omega
      · simp [hn, hb, Ne.symm hc]

theorem isQuote_encodeIn (h : ∀ c ∈ t, isQuote c = false) :
    ∀ c ∈ encodeIn q t, isQuote c = false := by
  intro c hc
  obtain ⟨x, hx, hc⟩ := List.mem_flatMap.mp hc
  split at hc
  · have hnewline : ∀ c ∈ ['\\', 'n'], isQuote c = false := forall_mem_of_all (by decide)
    exact hnewline c hc
  · split at hc
    · rcases List.mem_cons.mp hc with rfl | hc
      · rfl
      · rw [List.mem_singleton.mp hc]
        exact h x hx
    · rw [List.mem_singleton.mp hc]
      exact h x hx

theorem encodeIn_ne_nil (ht : t ≠ []) : encodeIn q t ≠ [] := by
  obtain ⟨c, r, rfl⟩ := List.exists_cons_of_ne_nil ht
  rw [encodeIn_cons]
  split
  · simp
  · split <;> simp

end encoding

section guess
variable {q : Char} {s t code : Text}

/-- No guess is empty, and none holds a quote. -/
theorem extractTemplate?_spec (h : extractTemplate? code = some s) :
    s ≠ [] ∧ ∀ c ∈ s, isQuote c = false := by
  rw [extractTemplate?] at h
  split at h
  · rename_i literal hliteral
    obtain rfl := Option.some.inj h
    obtain ⟨_, _, ⟨_, _, _, hquoted, _⟩, _⟩ := leftmost?_renderLiteralAt?.mp hliteral
    exact ⟨hquoted.ne_nil, hquoted.plain⟩
  · obtain ⟨literal, hliteral, rfl⟩ := Option.map_eq_some_iff.mp h
    obtain ⟨_, _, _, hsum, _⟩ := leftmost?_eq_some_iff.mp hliteral
    obtain ⟨_, _, _, _, hquoted, _⟩ := concatLiteralAt?_eq_some_iff.mp hsum
    have hquotes : ∀ c ∈ "\x7b\x7btitle\x7d\x7d".toList ++ "\x7b\x7burl\x7d\x7d".toList,
        isQuote c = false := forall_mem_of_all (by decide)
    refine ⟨by simp, fun c hc => ?_⟩
    rcases List.mem_append.mp hc with hc | hc
    · rcases List.mem_append.mp hc with hc | hc
      · exact hquotes c (List.mem_append_left _ hc)
      · exact hquoted.plain c hc
    · exact hquotes c (List.mem_append_right _ hc)

theorem renderCall_append (q : Char) (t u : Text) : renderCall q t ++ u =
    "render(".toList ++ (q :: (encodeIn q t ++ q :: (", page)".toList ++ u))) := by
  unfold renderCall
  simp only [List.append_assoc, List.cons_append]

theorem leftmost?_functionHead (u : Text) :
    leftmost? renderLiteralAt? ("(page) => \x7b return \x7b text: ".toList ++ u) =
      leftmost? renderLiteralAt? u := rfl

theorem renderLiteralAt?_renderCall (hq : isQuote q = true) (ht : t ≠ [])
    (hplain : ∀ c ∈ t, isQuote c = false) (u : Text) :
    renderLiteralAt? (renderCall q t ++ u) = some (encodeIn q t) := by
  have hquoted : QuotedRun (encodeIn q t) (q :: (encodeIn q t ++ [q])) :=
    ⟨⟨q, q, hq, hq, rfl⟩, encodeIn_ne_nil ht, isQuote_encodeIn hplain⟩
  rw [renderLiteralAt?_eq_some_iff]
  refine ⟨", page)".toList ++ u, [], _, Blank.nil, hquoted, ?_⟩
  rw [renderCall_append]
  simp

theorem extractTemplate?_renderFunction (hq : isQuote q = true) (ht : t ≠ [])
    (hplain : ∀ c ∈ t, isQuote c = false) :
    extractTemplate? (renderFunction q t) = some (encodeIn q t) := by
  have hleft : leftmost? renderLiteralAt? (renderFunction q t) = some (encodeIn q t) :=
    (leftmost?_functionHead _).trans
      (leftmost?_of_some (renderLiteralAt?_renderCall hq ht hplain _))
  rw [extractTemplate?, hleft]

end guess

section count
variable {t rest : Text} {s : Segment} {x : Char} {lookup : Text → Text}

/-- Characters that stand in a template for themselves, wherever they stand. -/
def IsLiteralChar (x : Char) : Prop := isWordChar x = false ∧ x ∉ ['\x7b', '\x7d', '&']

theorem isLiteralChar_of_isQuote (hx : isQuote x = true) : IsLiteralChar x := by
  simp only [isQuote, Bool.or_eq_true, beq_iff_eq] at hx
  rcases hx with (rfl | rfl) | rfl
  · exact ⟨by decide, by decide⟩
  · exact ⟨by decide, by decide⟩
  · exact ⟨by decide, by decide⟩

theorem count_tokenAt? (hx : IsLiteralChar x) (h : tokenAt? t = some (s, rest)) :
    rest.count x = t.count x := by
  obtain ⟨raw, name, hname, _, rfl⟩ := tokenAt?_eq_some_iff.mp h
  obtain ⟨hword, hsyntax⟩ := hx
  have htoken : (tokenText raw name).count x = 0 :=
    List.count_eq_zero.mpr (not_mem_tokenText hname hword hsyntax)
  rw [List.count_append, htoken, Nat.zero_add]

theorem count_render (hx : IsLiteralChar x) (hlookup : ∀ name, lookup name = []) (t : Text) :
    (render t lookup).count x = t.count x := by
  rw [render]
  fun_induction segments t with
  | case1 => rfl
  | case2 c u s rest htoken ih =>
    obtain ⟨raw, name, _, rfl, _⟩ := tokenAt?_eq_some_iff.mp htoken
    have hfill : (Segment.token raw name).fill lookup = [] := by
      cases raw <;> simp [Segment.fill, hlookup, escapeHtml]
    rw [List.flatMap_cons, hfill, List.nil_append, ih, count_tokenAt? hx htoken]
  | case3 c u hnone ih =>
    rw [List.flatMap_cons, List.count_append, ih, Segment.fill, List.count_cons]
    simp [List.count_cons]
    omega

end count

section source
variable {q : Char} {s t u : Text}

/-- Inside a string literal no comment opens, and behind it the scan goes on in source. -/
theorem LiteralBody.commentFree_append (hs : LiteralBody q s) (hq : q ≠ '\\') {d : Int}
    (hu : (Scan.source d).CommentFree u) : (Scan.literal d q).CommentFree (s ++ q :: u) := by
  have hliteral : ¬ (Scan.literal d q).InSource := fun ⟨_, h⟩ => by cases h
  have hescape : ¬ (Scan.escape d q).InSource := fun ⟨_, h⟩ => by cases h
  induction hs with
  | nil =>
    refine commentFree_cons.mpr ⟨fun h => absurd h hliteral, ?_⟩
    rwa [Scan.step, if_neg hq, if_pos rfl]
  | pair _ ih =>
    refine commentFree_cons.mpr ⟨fun h => absurd h hliteral, ?_⟩
    exact commentFree_cons.mpr ⟨fun h => absurd h hescape, ih⟩
  | char hb hne _ ih =>
    refine commentFree_cons.mpr ⟨fun h => absurd h hliteral, ?_⟩
    rwa [Scan.step, if_neg hb, if_neg hne]

theorem literalBody_encodeIn (hq : isQuote q = true) (t : Text) : LiteralBody q (encodeIn q t) :=
  (encoded_encodeIn q t).literalBody (by simp) (by simp) (by rintro rfl; cases hq)

theorem commentFree_renderCall (hq : isQuote q = true) (t : Text) :
    Scan.start.CommentFree (renderCall q t) := by
  have hslash : '/' ∉ "render(".toList := by decide
  have hrun : Scan.start.run "render(".toList = .source 1 := by decide
  have hend : (Scan.source 1).CommentFree ", page)".toList := commentFree_of_not_mem (by decide)
  have hliteral := (literalBody_encodeIn hq t).commentFree_append (isQuote_ne_backslash hq) hend
  unfold renderCall
  refine (commentFree_of_not_mem hslash).append ?_ (.inl hslash)
  rw [hrun]
  refine commentFree_cons.mpr ⟨fun _ h => ?_, ?_⟩
  · obtain ⟨_, _, hcons, _⟩ := opensComment_iff.mp h
    rw [(List.cons.inj hcons).1] at hq
    cases hq
  · rwa [Scan.step_source_quote hq]

theorem comma_renderCall (hq : isQuote q = true) (t : Text) :
    ',' ∉ Scan.start.outer (renderCall q t) := by
  have hname : Balanced "render".toList := balanced_of_ordinary (forall_mem_of_all (by decide))
  have hpage : Balanced ", page".toList := balanced_of_ordinary (forall_mem_of_all (by decide))
  have hinner := ((literalBody_encodeIn hq t).quoted hq).1.append hpage
  have hsplit : renderCall q t = "render".toList ++
      '(' :: (q :: (encodeIn q t ++ [q]) ++ ", page".toList ++ [')']) := by
    unfold renderCall
    simp
  rw [hsplit, hname.outer_append, (hinner.bracketed rfl rfl).2]
  decide

theorem renderCall_written (hq : isQuote q = true) (t : Text) :
    Choice.Written (.one (.one (.render t))) (renderCall q t) := by
  have hargs : Spaced [q :: (encodeIn q t ++ [q]), [','], "page".toList]
      (q :: (encodeIn q t ++ [q]) ++ ", page".toList) :=
    .cons (w := []) Blank.nil (.cons (w := []) Blank.nil (.cons (w := [' '])
      (blank_of_all (by decide)) (.nil (w := []) Blank.nil)))
  have hcall := Term.Written.render hq (encoded_encodeIn q t) hargs
  have hsplit : renderCall q t = "render(".toList ++
      (q :: (encodeIn q t ++ [q]) ++ ", page".toList ++ [')']) := by
    unfold renderCall
    simp
  rw [hsplit]
  exact .one hcall.terms

theorem text_ne_nil : "text".toList ≠ [] := by decide

def renderSource (q : Char) (hq : isQuote q = true) (t : Text) : FieldSource where
  key := "text".toList
  tree := .one (.one (.render t))
  expr := renderCall q t
  key_ne := text_ne_nil
  key_word := isWordChar_text
  written := renderCall_written hq t
  comma := comma_renderCall hq t
  comment := commentFree_renderCall hq t

theorem functionWritten_renderFunction (hq : isQuote q = true) (t : Text) :
    FunctionWritten [(renderSource q hq t).entry] (renderFunction q t) := by
  have hs : Blank [' '] := blank_of_all (by decide)
  have hhead : Spaced functionHead "(page) => \x7b return \x7b".toList := by
    refine .cons (w := []) Blank.nil (.cons (w := []) Blank.nil (.cons (w := []) Blank.nil ?_))
    refine .cons (w := [' ']) hs (.cons (w := [' ']) hs ?_)
    exact .cons (w := [' ']) hs (.cons (w := [' ']) hs (.nil (w := []) Blank.nil))
  have htail : Spaced (['}'] :: ([] ++ ['}'] :: [])) "\x7d \x7d".toList :=
    .cons (w := []) Blank.nil (.cons (w := [' ']) hs (.nil (w := []) Blank.nil))
  have hform : EntryForm "text".toList ([' '] ++ renderCall q t ++ [' ']) _ :=
    .mk (u := [' ']) (q := []) (v := []) hs (by decide) (by decide) isWordChar_text Blank.nil
  have hentry := Entry.Written.mk (e := (renderSource q hq t).entry) hs hs hform
  have hfunction := FunctionWritten.mk (a := []) (b := []) hhead (.last hentry) (by decide)
    (by decide) htail
  have hcode : renderFunction q t = "(page) => \x7b return \x7b".toList ++
      ([' '] ++ ([] ++ ("text".toList ++ ([] ++ ([] ++
        ':' :: ([' '] ++ renderCall q t ++ [' ']))))) ++ "\x7d \x7d".toList) := by
    unfold renderFunction
    simp
  rw [hcode]
  exact hfunction

theorem extract_renderFunction (hq : isQuote q = true) (t : Text) (page : Page) :
    extract (renderFunction q t) page = .ok ⟨some (render t page.lookup), none⟩ := by
  have htext := firstExpr_map_evaluate [renderSource q hq t] "text".toList page
  have hhtml := firstExpr_map_evaluate [renderSource q hq t] "html".toList page
  rw [extract, (functionWritten_renderFunction hq t).parseFunction_eq]
  exact congrArg Except.ok (congr (congrArg Clip.mk htext) hhtml)

end source

section classification
variable {q : Char} {t s code : Text}

/-- The entry for custom templates is the answer only where no rule matches. -/
theorem template_of_custom (h : (classify code).templateId = customTemplate.id) :
    (classify code).template = extractTemplate? code := by
  have hids : ∀ r ∈ rules, r.1 ≠ customTemplate.id := by decide
  rw [classify] at h ⊢
  split at h
  · rename_i r hr
    exact absurd h (hids r (List.mem_of_find?_eq_some hr))
  · rfl

theorem templateOption_options {c : Classification} (h : c.template = some s) (hs : s ≠ []) :
    templateOption c.options = s := by
  obtain ⟨x, r, rfl⟩ := List.exists_cons_of_ne_nil hs
  rw [Classification.options, h]
  rfl

/-- What is rendered on a guess holds no quote, be it the guess or the default. -/
theorem isQuote_templateOption (h : (classify code).templateId = customTemplate.id) :
    ∀ c ∈ templateOption (classify code).options, isQuote c = false := by
  cases hguess : (classify code).template with
  | none =>
    rw [Classification.options, hguess]
    exact forall_mem_of_all (by decide)
  | some s =>
    obtain ⟨hne, hs⟩ := extractTemplate?_spec ((template_of_custom h).symm.trans hguess)
    rwa [templateOption_options hguess hne]

theorem executeTemplate_custom (page : Page) (options : Options) :
    executeTemplate customTemplate.id page options =
      .ok ⟨some (render (templateOption options) page.lookup), none⟩ := rfl

def blankPage : Page where
  title := []
  url := []

theorem getD_get?_eq_nil {d : Dict Text} (h : ∀ e ∈ d, e.2 = []) (key : Text) :
    (d.get? key).getD [] = [] := by
  induction d with
  | nil => rfl
  | cons e d ih =>
    rw [Dict.get?]
    split
    · exact h e List.mem_cons_self
    · exact ih fun x hx => h x (List.mem_cons_of_mem e hx)

theorem lookup_blankPage (name : Text) : blankPage.lookup name = [] :=
  getD_get?_eq_nil (d := blankPage.templateData) (by decide) name

/-- On a blank page a rendering shows what the template itself is made of. -/
theorem count_eq_of_agrees {a b : Text} {x : Char} (hx : IsLiteralChar x)
    (h : ∀ page : Page, render a page.lookup = render b page.lookup) : a.count x = b.count x := by
  rw [← count_render hx lookup_blankPage a, h blankPage, count_render hx lookup_blankPage b]

theorem plainTemplate_of_agrees (hq : isQuote q = true) (ht : t ≠ [])
    (hcustom : (classify (renderFunction q t)).templateId = customTemplate.id)
    (h : ∀ page, executeTemplate customTemplate.id page (classify (renderFunction q t)).options =
      extract (renderFunction q t) page) : PlainTemplate t := by
  have hguess := template_of_custom hcustom
  have hrender : ∀ page : Page,
      render (templateOption (classify (renderFunction q t)).options) page.lookup =
        render t page.lookup := by
    intro page
    have hpage := h page
    rw [executeTemplate_custom, extract_renderFunction hq] at hpage
    exact Option.some.inj (congrArg Clip.text (Except.ok.inj hpage))
  have hquotes : ∀ c ∈ t, isQuote c = false := by
    intro c hc
    cases hquote : isQuote c with
    | false => rfl
    | true =>
      have hcount := count_eq_of_agrees (isLiteralChar_of_isQuote hquote) hrender
      have hmem := List.count_pos_iff.mp (hcount ▸ List.count_pos_iff.mpr hc)
      rw [isQuote_templateOption hcustom c hmem] at hquote
      cases hquote
  have hoption : templateOption (classify (renderFunction q t)).options = encodeIn q t := by
    rw [extractTemplate?_renderFunction hq ht hquotes] at hguess
    exact templateOption_options hguess (encodeIn_ne_nil ht)
  have hqt : q ∉ t := by
    intro hm
    rw [hquotes q hm] at hq
    cases hq
  have hcount := count_eq_of_agrees (x := '\\') ⟨by decide, by decide⟩ hrender
  rw [hoption, count_encodeIn hqt] at hcount
  intro c hc
  refine ⟨hquotes c hc, ?_, ?_⟩
  · rintro rfl
    have hpos := List.count_pos_iff.mpr hc
    omega
  · rintro rfl
    have hpos := List.count_pos_iff.mpr hc
    omega

end classification

/-- The guess is the template of the function, and rendering it does what the function does,
exactly where the template is plain. -/
theorem classify_renderFunction_iff {q : Char} {t : Text} (hq : isQuote q = true) (ht : t ≠ [])
    (hcustom : (classify (renderFunction q t)).templateId = customTemplate.id) :
    ((classify (renderFunction q t)).template = some t ↔ PlainTemplate t) ∧
      ((∀ page, executeTemplate customTemplate.id page (classify (renderFunction q t)).options =
        extract (renderFunction q t) page) ↔ PlainTemplate t) := by
  have hguess : PlainTemplate t → (classify (renderFunction q t)).template = some t := by
    intro h
    rw [template_of_custom hcustom, extractTemplate?_renderFunction hq ht fun c hc => (h c hc).1,
      encodeIn_eq_self hq h]
  have hagrees : (classify (renderFunction q t)).template = some t → ∀ page,
      executeTemplate customTemplate.id page (classify (renderFunction q t)).options =
        extract (renderFunction q t) page := by
    intro h page
    rw [executeTemplate_custom, templateOption_options h ht, extract_renderFunction hq]
  have hplain := plainTemplate_of_agrees hq ht hcustom
  exact ⟨⟨fun h => hplain (hagrees h), hguess⟩, ⟨hplain, fun h => hagrees (hguess h)⟩⟩

theorem classify_renderFunction_iff_slash :
    isQuote '"' = true ∧ "\x7b\x7btitle\x7d\x7d //".toList ≠ [] ∧
      (classify (renderFunction '"' "\x7b\x7btitle\x7d\x7d //".toList)).templateId =
        customTemplate.id ∧
      ((classify (renderFunction '"' "\x7b\x7btitle\x7d\x7d //".toList)).template =
          some "\x7b\x7btitle\x7d\x7d //".toList ↔
        PlainTemplate "\x7b\x7btitle\x7d\x7d //".toList) ∧
      ((∀ page, executeTemplate customTemplate.id page
            (classify (renderFunction '"' "\x7b\x7btitle\x7d\x7d //".toList)).options =
          extract (renderFunction '"' "\x7b\x7btitle\x7d\x7d //".toList) page) ↔
        PlainTemplate "\x7b\x7btitle\x7d\x7d //".toList) :=
  ⟨by decide, by decide, by decide +kernel,
    classify_renderFunction_iff (by decide) (by decide) (by decide +kernel)⟩

/-- The guess ends at an apostrophe, though the literal is in double quotes. -/
theorem guess_ends_at_apostrophe :
    ¬ ∀ q t, isQuote q = true → t ≠ [] →
      (classify (renderFunction q t)).templateId = customTemplate.id →
        (classify (renderFunction q t)).template = some t ∧ ∀ page,
          executeTemplate customTemplate.id page (classify (renderFunction q t)).options =
            extract (renderFunction q t) page := by
  intro h
  obtain ⟨hwhole, _⟩ := h '"' "it's".toList (by decide) (by decide) (by decide +kernel)
  have hguess : (classify (renderFunction '"' "it's".toList)).template = some "it".toList := by
    decide +kernel
  rw [hguess] at hwhole
  exact absurd hwhole (by decide)

end PageClip
