import PageClip.Proofs.WrittenExpression

/-! Reading back a written expression. Nothing inside an operand reaches the top level, so the
separators found there are exactly the ones written between operands and alternatives. -/

namespace PageClip

/-- A text with neither blanks nor semicolons to take off at its end, nor blanks at its start. -/
structure Core (t : Text) : Prop where
  ne_nil : t ≠ []
  trimmed : Trimmed t
  last : t.getLast? ≠ some ';'

def HasCore (t : Text) : Prop :=
  ∃ u s v, t = u ++ s ++ v ∧ Blank u ∧ Blank v ∧ Core s

structure IsAtom (s : Text) : Prop where
  balanced : Balanced s
  core : Core s
  plus : '+' ∉ Scan.start.outer s
  bar : '|' ∉ Scan.start.outer s

theorem core_of_ends {c d : Char} (hc : isBlank c = false) (hd : isBlank d = false)
    (hs : d ≠ ';') (m : Text) : Core (c :: (m ++ [d])) := by
  refine ⟨by simp, ⟨fun x hx => ?_, fun x hx => ?_⟩, ?_⟩
  · rw [← Option.some.inj hx]
    exact hc
  · rw [← List.cons_append, List.getLast?_concat] at hx
    rw [← Option.some.inj hx]
    exact hd
  · rw [← List.cons_append, List.getLast?_concat]
    exact fun h => hs (Option.some.inj h)

theorem Core.join {a b : Text} (ha : Core a) (hb : Core b) (m : Text) : Core (a ++ m ++ b) := by
  obtain ⟨c, a', rfl⟩ := List.exists_cons_of_ne_nil ha.ne_nil
  have hlast : (c :: a' ++ m ++ b).getLast? = b.getLast? := by
    rw [List.getLast?_append]
    cases h : b.getLast? with
    | none => exact absurd (List.getLast?_eq_none_iff.mp h) hb.ne_nil
    | some d => rfl
  refine ⟨by simp, ⟨fun x hx => ha.trimmed.1 x hx, fun x hx => ?_⟩, ?_⟩
  · rw [hlast] at hx
    exact hb.trimmed.2 x hx
  · rw [hlast]
    exact hb.last

theorem HasCore.join {a b : Text} (ha : HasCore a) (hb : HasCore b) (m : Text) :
    HasCore (a ++ m ++ b) := by
  obtain ⟨u, s, v, rfl, hu, _, hs⟩ := ha
  obtain ⟨u', s', v', rfl, _, hv', hs'⟩ := hb
  exact ⟨u, s ++ (v ++ m ++ u') ++ s', v', by simp, hu, hv', hs.join hs' _⟩

theorem isAtom_of_quoted {q : Char} (hq : isQuote q = true) {s : Text} (hs : LiteralBody q s) :
    IsAtom (q :: (s ++ [q])) := by
  obtain ⟨hbal, houter⟩ := hs.quoted hq
  have hblank := isBlank_of_isQuote hq
  have hsemi : q ≠ ';' := by
    rintro rfl
    exact absurd hq (by decide)
  exact ⟨hbal, core_of_ends hblank hblank hsemi s, by simp [houter], by simp [houter]⟩

theorem isAtom_fieldName {e : Text × Field} (he : e ∈ fieldNames) : IsAtom e.1 := by
  have hall : ∀ e ∈ fieldNames, e.1.all isOrdinary = true ∧ e.1 ≠ [] ∧ Trimmed e.1 ∧
      e.1.getLast? ≠ some ';' ∧ '+' ∉ e.1 ∧ '|' ∉ e.1 := by decide
  obtain ⟨hchars, hne, htrim, hsemi, hplus, hbar⟩ := hall e he
  exact ⟨balanced_of_ordinary (List.all_eq_true.mp hchars), ⟨hne, htrim, hsemi⟩,
    fun h => hplus (Scan.mem_of_mem_outer h), fun h => hbar (Scan.mem_of_mem_outer h)⟩

theorem isAtom_bracketed {s : Text} (hs : Balanced s) : IsAtom ('(' :: (s ++ [')'])) := by
  obtain ⟨hbal, houter⟩ := hs.bracketed (o := '(') (c := ')') rfl rfl
  exact ⟨hbal, core_of_ends (by decide) (by decide) (by decide) s, by simp [houter],
    by simp [houter]⟩

theorem isAtom_render {s : Text} (hs : Balanced s) :
    IsAtom ("render(".toList ++ (s ++ [')'])) := by
  have hname : Balanced "render".toList := balanced_of_ordinary (forall_mem_of_all (by decide))
  have hparens := isAtom_bracketed hs
  have hsplit : "render(".toList ++ (s ++ [')']) = "render".toList ++ ('(' :: (s ++ [')'])) := rfl
  have houter := hname.outer_append ('(' :: (s ++ [')']))
  refine ⟨hsplit ▸ hname.append hparens.balanced,
    core_of_ends (by decide) (by decide) (by decide) ("ender(".toList ++ s), ?_, ?_⟩
  · rw [hsplit, houter, List.mem_append, not_or]
    exact ⟨by decide, hparens.plus⟩
  · rw [hsplit, houter, List.mem_append, not_or]
    exact ⟨by decide, hparens.bar⟩

theorem IsAtom.padded {s u v : Text} (h : IsAtom s) (hu : Blank u) (hv : Blank v) :
    Balanced (u ++ s ++ v) ∧ HasCore (u ++ s ++ v) ∧
      '+' ∉ Scan.start.outer (u ++ s ++ v) ∧ '|' ∉ Scan.start.outer (u ++ s ++ v) := by
  have hus := hu.balanced.append h.balanced
  have houter : ∀ x, isBlank x = false → x ∉ Scan.start.outer s →
      x ∉ Scan.start.outer (u ++ s ++ v) := by
    intro x hx hs
    rw [hus.outer_append, hu.balanced.outer_append]
    simp only [List.mem_append, not_or]
    exact ⟨⟨hu.not_mem_outer hx, hs⟩, hv.not_mem_outer hx⟩
  exact ⟨hus.append hv.balanced, ⟨u, s, v, rfl, hu, hv, h.core⟩,
    houter '+' (by decide) h.plus, houter '|' (by decide) h.bar⟩

mutual

theorem Term.Written.isAtom {o : Term} {s : Text} (h : o.Written s) : IsAtom s := by
  cases h with
  | @string q t s hq he =>
    have hquote : isQuote q = true := by rcases hq with rfl | rfl <;> rfl
    have hq' : q ≠ '\n' := by rcases hq with rfl | rfl <;> decide
    exact isAtom_of_quoted hquote (he.literalBody (by simp) (by simp) hq')
  | template hcs => exact isAtom_of_quoted rfl hcs.literalBody
  | field hname => exact isAtom_fieldName hname
  | @render q t s r hq he hr =>
    have hq' : q ≠ '\n' := by
      rintro rfl
      exact absurd hq (by decide)
    have hlit := (he.literalBody (by simp) (by simp) hq').quoted hq
    apply isAtom_render
    apply hr.balanced
    intro t ht
    simp only [List.mem_cons, List.not_mem_nil, or_false] at ht
    rcases ht with rfl | rfl | rfl
    · exact hlit.1
    · exact balanced_of_ordinary (forall_mem_of_all (by decide))
    · exact balanced_of_ordinary (forall_mem_of_all (by decide))
  | group he => exact isAtom_bracketed he.shape.1

theorem Terms.Written.shape {a : Terms} {t : Text} (h : a.Written t) :
    Balanced t ∧ HasCore t ∧ '|' ∉ Scan.start.outer t := by
  cases h with
  | one hu hv ho =>
    obtain ⟨hbal, hcore, _, hbar⟩ := ho.isAtom.padded hu hv
    exact ⟨hbal, hcore, hbar⟩
  | @plus o s u v rest t hu hv ho hrest =>
    obtain ⟨hbal, hcore, _, hbar⟩ := ho.isAtom.padded hu hv
    obtain ⟨hbal', hcore', hbar'⟩ := hrest.shape
    have hplus : Balanced ['+'] := balanced_of_ordinary (forall_mem_of_all (by decide))
    have hsplit : u ++ s ++ v ++ '+' :: t = u ++ s ++ v ++ (['+'] ++ t) := rfl
    refine ⟨hbal.append (hplus.append hbal'), ?_, ?_⟩
    · simpa using hcore.join hcore' ['+']
    · rw [hsplit, hbal.outer_append, hplus.outer_append]
      simp only [List.mem_append, not_or]
      exact ⟨hbar, by decide, hbar'⟩

theorem Choice.Written.shape {e : Choice} {t : Text} (h : e.Written t) :
    Balanced t ∧ HasCore t := by
  cases h with
  | one ha => exact ⟨ha.shape.1, ha.shape.2.1⟩
  | @or a t rest r ha hrest =>
    obtain ⟨hbal, hcore, _⟩ := ha.shape
    obtain ⟨hbal', hcore'⟩ := hrest.shape
    have hbar : Balanced ['|', '|'] := balanced_of_ordinary (forall_mem_of_all (by decide))
    refine ⟨hbal.append (hbar.append hbal'), ?_⟩
    simpa using hcore.join hcore' ['|', '|']

end

theorem HasCore.readExpression {t w : Text} (h : HasCore t) (hw : Blank w) (n : Nat) :
    readExpression (t ++ List.replicate n ';' ++ w) = readAlternatives t := by
  obtain ⟨u, s, v, rfl, hu, hv, hs⟩ := h
  rw [readExpression_semicolons hs.ne_nil hs.trimmed hs.last hu hv hw n,
    readAlternatives_padded hu hv]

mutual

theorem Term.Written.value {o : Term} {s : Text} (h : o.Written s) (page : Page) :
    (readOperand s).value page = o.meaning page := by
  have htrim := h.isAtom.core.trimmed.trim_eq
  cases h with
  | @string q t s hq he =>
    have hquote : isQuote q = true := by rcases hq with rfl | rfl <;> rfl
    rw [readOperand_string hq htrim, Operand.value, Term.meaning,
      he.unescape_eq (selfEscaped_quote hquote)]
  | template hcs =>
    rw [readOperand_template htrim, Operand.value, Term.meaning]
    exact hcs.value page
  | @field name f hname =>
    have hmem : (trim s, f) ∈ fieldNames := htrim.symm ▸ hname
    rw [readOperand_field hmem, Operand.value, Term.meaning]
  | @render q t s r hq he hr =>
    cases hr with
    | @cons u _ _ tail hu htail =>
      have hend := isCallEnd_of_spaced htail
      have hcall : "render(".toList ++ (u ++ (q :: (s ++ [q]) ++ tail) ++ [')']) =
          "render(".toList ++ (u ++ q :: (s ++ q :: (tail ++ [')']))) := by simp
      rw [readOperand_render hq hu hend (htrim.trans hcall), Operand.value, Term.meaning,
        he.unescape_eq (selfEscaped_quote hq)]
  | @group e s he =>
    obtain ⟨hbal, hcore⟩ := he.shape
    have hread := hcore.readExpression Blank.nil 0
    rw [List.replicate_zero, List.append_nil, List.append_nil] at hread
    rw [readOperand_group hbal htrim, hread, Operand.value, Term.meaning]
    exact he.value page

theorem Terms.Written.value {a : Terms} {t : Text} (h : a.Written t) (page : Page) :
    sumValue page (readSum t) = a.meaning page := by
  cases h with
  | one hu hv ho =>
    obtain ⟨_, _, hplus, _⟩ := ho.isAtom.padded hu hv
    rw [readSum_eq_singleton hplus, sumValue_singleton, readOperand_padded hu hv, Terms.meaning]
    exact ho.value page
  | plus hu hv ho hrest =>
    obtain ⟨hbal, _, hplus, _⟩ := ho.isAtom.padded hu hv
    rw [readSum_append hbal.run_eq hplus, sumValue, readOperand_padded hu hv, ho.value page,
      hrest.value page, Terms.meaning]

theorem Choice.Written.value {e : Choice} {t : Text} (h : e.Written t) (page : Page) :
    Expression.value page (readAlternatives t) = e.meaning page := by
  cases h with
  | one ha =>
    rw [readAlternatives_eq_singleton ha.shape.2.2, value_singleton, Choice.meaning]
    exact ha.value page
  | or ha hrest =>
    obtain ⟨hbal, _, hbar⟩ := ha.shape
    rw [readAlternatives_append hbal.run_eq hbar, value_cons, ha.value page, hrest.value page,
      Choice.meaning]

end

theorem exists_encoded (marked : List Char) (t : Text) : ∃ s, Encoded marked t s := by
  induction t with
  | nil => exact ⟨[], .nil⟩
  | cons c t ih =>
    obtain ⟨s, hs⟩ := ih
    by_cases hc : c ∈ marked
    · exact ⟨_, .escape hc hs⟩
    · exact ⟨_, .raw hc hs⟩

theorem exists_fieldName (f : Field) : ∃ name, (name, f) ∈ fieldNames := by
  cases f with
  | title => exact ⟨"page.title".toList, by decide⟩
  | url => exact ⟨"page.url".toList, by decide⟩
  | selection => exact ⟨"page.selection".toList, by decide⟩
  | description => exact ⟨"page.meta.description".toList, by decide⟩

theorem exists_chunksWritten (cs : List Chunk) : ∃ s, ChunksWritten cs s := by
  induction cs with
  | nil => exact ⟨[], .nil⟩
  | cons c cs ih =>
    obtain ⟨t, ht⟩ := ih
    cases c with
    | text x =>
      obtain ⟨s, hs⟩ := exists_encoded ['\\', '\x60', '$'] x
      exact ⟨_, .cons (.text hs) ht⟩
    | field f =>
      obtain ⟨name, hname⟩ := exists_fieldName f
      exact ⟨_, .cons (.field hname Blank.nil Blank.nil) ht⟩
    | unknown inner hu => exact ⟨_, .cons .unknown ht⟩

mutual

theorem Term.exists_written (o : Term) : ∃ s, o.Written s := by
  cases o with
  | string t =>
    obtain ⟨s, hs⟩ := exists_encoded ['\\', '"'] t
    exact ⟨_, .string (.inr rfl) hs⟩
  | template cs =>
    obtain ⟨s, hs⟩ := exists_chunksWritten cs
    exact ⟨_, .template hs⟩
  | field f =>
    obtain ⟨name, hname⟩ := exists_fieldName f
    exact ⟨name, .field hname⟩
  | render t =>
    obtain ⟨s, hs⟩ := exists_encoded ['\\', '"'] t
    have hspaced := Spaced.nil Blank.nil
    exact ⟨_, .render rfl hs (.cons Blank.nil (.cons Blank.nil (.cons Blank.nil hspaced)))⟩
  | group e =>
    obtain ⟨s, hs⟩ := e.exists_written
    exact ⟨_, .group hs⟩

theorem Terms.exists_written (a : Terms) : ∃ t, a.Written t := by
  cases a with
  | one o =>
    obtain ⟨s, hs⟩ := o.exists_written
    exact ⟨_, .one Blank.nil Blank.nil hs⟩
  | plus o rest =>
    obtain ⟨s, hs⟩ := o.exists_written
    obtain ⟨t, ht⟩ := rest.exists_written
    exact ⟨_, .plus Blank.nil Blank.nil hs ht⟩

theorem Choice.exists_written (e : Choice) : ∃ t, e.Written t := by
  cases e with
  | one a =>
    obtain ⟨t, ht⟩ := a.exists_written
    exact ⟨_, .one ht⟩
  | or a rest =>
    obtain ⟨t, ht⟩ := a.exists_written
    obtain ⟨r, hr⟩ := rest.exists_written
    exact ⟨_, .or ht hr⟩

end

/-- Every tree can be written, and however it is written, with any semicolons behind it, it
evaluates to what the tree means. -/
theorem evaluate_written (e : Choice) :
    (∃ t, e.Written t) ∧ ∀ (t w : Text) (n : Nat) (page : Page), e.Written t → Blank w →
      evaluate (t ++ List.replicate n ';' ++ w) page = e.meaning page := by
  refine ⟨e.exists_written, fun t w n page h hw => ?_⟩
  rw [evaluate, h.shape.2.readExpression hw]
  exact h.value page

theorem evaluate_written_nested :
    evaluate "page.selection || ( 'it\\'s' + `\\$1 $\x7b page.title\x7d$\x7bx\x7d`) ;;".toList
      { title := "T".toList, url := [] } = "it's$1 T$\x7bx\x7d".toList := by
  have hunknown : IsUnknown "x".toList := by
    refine ⟨by decide, by decide, by decide, by decide⟩
  have hselection : Term.Written (.field .selection) "page.selection".toList := .field (by decide)
  have hstring : Term.Written (.string "it's".toList) "'it\\'s'".toList :=
    .string (.inl rfl) (.raw (by decide) (.raw (by decide) (.escape (by decide)
      (.raw (by decide) .nil))))
  have hspace : Blank [' '] := by simp [Blank, isBlank]
  have htitle : ("page.title".toList, Field.title) ∈ fieldNames := by decide
  have hchunks : ChunksWritten
      [.text "$1 ".toList, .field .title, .unknown "x".toList hunknown] _ :=
    .cons (.text (.escape (by decide) (.raw (by decide) (.raw (by decide) .nil))))
      (.cons (.field htitle hspace Blank.nil) (.cons .unknown .nil))
  have hgroup := Term.Written.group (.one (.plus hspace hspace hstring
    (.one hspace Blank.nil (.template hchunks))))
  have h := (evaluate_written _).2 _ [] 2 { title := "T".toList, url := [] }
    (.or (.one Blank.nil hspace hselection) (.one (.one hspace hspace hgroup))) Blank.nil
  exact h

end PageClip
