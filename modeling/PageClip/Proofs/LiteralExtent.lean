import PageClip.Proofs.CommentFree
import PageClip.Proofs.OperandForms

/-! Where a literal ends. An operand counts as a literal when its first and last characters are the
same quote, whatever stands between them, so it is one literal for the scan only where no quote
before the last one closes it and the last one is not escaped. -/

namespace PageClip

/-- The scan enters a literal with the first character and leaves it with the last one, not
before. -/
structure OneLiteral (t : Text) : Prop where
  opens : ∃ q r, t = q :: r ∧ isQuote q = true
  closes : (Scan.start.run t).InSource
  inside : ∀ p, p <+: t → p ≠ [] → p ≠ t → ¬ (Scan.start.run p).InSource

def ClosedEarly (q : Char) (body : Text) : Prop :=
  ∃ a b, LiteralBody q a ∧ body = a ++ q :: b

def EndsEscaped (q : Char) (body : Text) : Prop := ∃ a, LiteralBody q a ∧ body = a ++ ['\\']

/-- A call that renders what is written as `literal`. -/
def RenderOf (t literal : Text) : Prop :=
  ∃ u s, Blank u ∧ Spaced [[','], "page".toList] s ∧
    t = "render(".toList ++ (u ++ (literal ++ (s ++ [')'])))

section scan
variable {q : Char} {t p : Text}

theorem LiteralBody.not_inSource (ht : LiteralBody q t) (hp : p <+: t) (d : Int) :
    ¬ ((Scan.literal d q).run p).InSource := by
  induction ht generalizing p with
  | nil =>
    rw [List.prefix_nil.mp hp]
    exact not_inSource_literal d q
  | @pair c t _ ih =>
    rcases List.prefix_cons_iff.mp hp with rfl | ⟨p₁, rfl, hp₁⟩
    · exact not_inSource_literal d q
    · rcases List.prefix_cons_iff.mp hp₁ with rfl | ⟨p₂, rfl, hp₂⟩
      · exact not_inSource_escape d q
      · show ¬ ((Scan.literal d q).run p₂).InSource
        exact ih hp₂
  | @char c t hb hq _ ih =>
    rcases List.prefix_cons_iff.mp hp with rfl | ⟨p₁, rfl, hp₁⟩
    · exact not_inSource_literal d q
    · rw [Scan.run_cons, Scan.step, if_neg hb, if_neg hq]
      exact ih hp₁

/-- A quote that opens a literal is closed somewhere, or never, or never for want of one more
character behind a last backslash. -/
theorem literalBody_cases (q : Char) (t : Text) :
    LiteralBody q t ∨ ClosedEarly q t ∨ EndsEscaped q t := by
  induction hn : t.length using Nat.strongRecOn generalizing t with
  | ind n ih =>
    cases t with
    | nil => exact .inl .nil
    | cons c t =>
      by_cases hc : c = '\\'
      · subst hc
        cases t with
        | nil => exact .inr (.inr ⟨[], .nil, rfl⟩)
        | cons x t =>
          have hlt : t.length < n := by
            simp only [List.length_cons] at hn
            omega
          rcases ih t.length hlt t rfl with h | ⟨a, b, ha, rfl⟩ | ⟨a, ha, rfl⟩
          · exact .inl (.pair h)
          · exact .inr (.inl ⟨_, b, .pair ha, rfl⟩)
          · exact .inr (.inr ⟨_, .pair ha, rfl⟩)
      · by_cases hq : c = q
        · subst hq
          exact .inr (.inl ⟨[], t, .nil, rfl⟩)
        · have hlt : t.length < n := by
            rw [← hn]
            simp
          rcases ih t.length hlt t rfl with h | ⟨a, b, ha, rfl⟩ | ⟨a, ha, rfl⟩
          · exact .inl (.char hc hq h)
          · exact .inr (.inl ⟨_, b, .char hc hq ha, rfl⟩)
          · exact .inr (.inr ⟨_, .char hc hq ha, rfl⟩)

theorem LiteralBody.run_closed {a : Text} (ha : LiteralBody q a) (hq : isQuote q = true) (d : Int) :
    (Scan.literal d q).run (a ++ [q]) = .source d := by
  rw [Scan.run_append, ha.run_eq, Scan.run_cons, Scan.step, if_neg (isQuote_ne_backslash hq),
    if_pos rfl, Scan.run_nil]

theorem LiteralBody.run_escaped {a : Text} (ha : LiteralBody q a) (d : Int) :
    (Scan.literal d q).run (a ++ ['\\']) = .escape d q := by
  rw [Scan.run_append, ha.run_eq]
  rfl

theorem literalBody_iff (hq : isQuote q = true) :
    LiteralBody q t ↔ ¬ ClosedEarly q t ∧ ¬ EndsEscaped q t := by
  constructor
  · intro ht
    constructor
    · rintro ⟨a, b, ha, rfl⟩
      have hp : a ++ [q] <+: a ++ q :: b := ⟨b, by simp⟩
      exact ht.not_inSource hp 0 ⟨0, ha.run_closed hq 0⟩
    · rintro ⟨a, ha, rfl⟩
      have hrun := ht.run_eq 0
      rw [ha.run_escaped] at hrun
      cases hrun
  · rintro ⟨hearly, hescaped⟩
    rcases literalBody_cases q t with h | h | h
    · exact h
    · exact absurd h hearly
    · exact absurd h hescaped

theorem oneLiteral_iff (hq : isQuote q = true) :
    OneLiteral (q :: (t ++ [q])) ↔ LiteralBody q t := by
  have hopen : Scan.start.step q = .literal 0 q := Scan.step_source_quote hq 0
  constructor
  · intro h
    rw [literalBody_iff hq]
    constructor
    · rintro ⟨a, b, ha, rfl⟩
      refine h.inside (q :: (a ++ [q])) ⟨b ++ [q], by simp⟩ (by simp) (by simp) ?_
      rw [Scan.run_cons, hopen, ha.run_closed hq]
      exact ⟨0, rfl⟩
    · rintro ⟨a, ha, rfl⟩
      have hclose := h.closes
      rw [Scan.run_cons, hopen, Scan.run_append, ha.run_escaped] at hclose
      exact not_inSource_literal 0 q hclose
  · intro ht
    refine ⟨⟨q, _, rfl, hq⟩, ?_, ?_⟩
    · rw [Scan.run_cons, hopen, ht.run_closed hq]
      exact ⟨0, rfl⟩
    · intro p hp hne hlt
      obtain ⟨x, p, rfl⟩ := List.exists_cons_of_ne_nil hne
      obtain ⟨rfl, hp⟩ := List.cons_prefix_cons.mp hp
      have hbody : p <+: t := by
        rcases List.prefix_concat_iff.mp hp with rfl | hp
        · exact absurd rfl hlt
        · exact hp
      rw [Scan.run_cons, hopen]
      exact ht.not_inSource hbody 0

end scan

section forms
variable {q : Char} {t body source : Text}

theorem eq_of_between? (h : between? q t = some body) : t = q :: (body ++ [q]) := by
  cases t with
  | nil => cases h
  | cons c r =>
    rw [between?] at h
    split at h
    · rename_i hc
      obtain ⟨rfl, hlast⟩ := hc
      obtain ⟨b, rfl⟩ := List.getLast?_eq_some_iff.mp hlast
      rw [List.dropLast_concat] at h
      rw [Option.some.inj h]
    · cases h

theorem exists_of_stringLiteral? (h : stringLiteral? t = some body) :
    ∃ q, (q = '\x27' ∨ q = '"') ∧ t = q :: (body ++ [q]) := by
  rw [stringLiteral?, Option.or_eq_some_iff] at h
  rcases h with h | ⟨_, h⟩
  · exact ⟨_, .inl rfl, eq_of_between? h⟩
  · exact ⟨_, .inr rfl, eq_of_between? h⟩

theorem exists_of_isCallEnd (h : isCallEnd t = true) :
    ∃ s, Spaced [[','], "page".toList] s ∧ t = s ++ [')'] := by
  simp only [isCallEnd, beq_iff_eq, Option.bind_eq_some_iff] at h
  obtain ⟨t₂, ⟨t₁, h₁, h₂⟩, h₃⟩ := h
  obtain ⟨u, hu, rfl⟩ := exists_of_afterToken? h₁
  obtain ⟨v, hv, rfl⟩ := exists_of_afterToken? h₂
  obtain ⟨w, hw, rfl⟩ := exists_of_afterToken? h₃
  exact ⟨_, .cons hu (.cons hv (.nil hw)), by simp⟩

theorem exists_of_callBody? (h : callBody? q t = some body) :
    ∃ tail, t = body ++ q :: tail ∧ isCallEnd tail = true := by
  induction t generalizing body with
  | nil => cases h
  | cons c t ih =>
    rw [callBody?] at h
    split at h
    · rename_i hc
      obtain rfl := Option.some.inj h
      exact ⟨t, by rw [hc.1]; rfl, hc.2⟩
    · obtain ⟨b, hb, rfl⟩ := Option.map_eq_some_iff.mp h
      obtain ⟨tail, rfl, htail⟩ := ih hb
      exact ⟨tail, rfl, htail⟩

theorem exists_of_renderCall? (h : renderCall? t = some body) :
    ∃ q, isQuote q = true ∧ RenderOf t (q :: (body ++ [q])) := by
  unfold renderCall? at h
  split at h
  · rename_i q b hcall
    split at h
    · rename_i hq
      obtain ⟨r, hr, htrim⟩ := Option.map_eq_some_iff.mp hcall
      obtain ⟨u, hu, hblank⟩ := trimStart_spec r
      obtain ⟨tail, rfl, htail⟩ := exists_of_callBody? h
      obtain ⟨s, hs, rfl⟩ := exists_of_isCallEnd htail
      refine ⟨q, hq, u, s, hblank, hs, ?_⟩
      rw [eq_append_of_afterPrefix? hr, hu, htrim]
      simp
    · cases h
  · cases h

theorem RenderOf.readOperand (h : RenderOf (trim source) (q :: (body ++ [q])))
    (hq : isQuote q = true) : readOperand source = .render (unescape body) := by
  obtain ⟨u, s, hu, hs, ht⟩ := h
  have hend := isCallEnd_of_spaced hs
  exact readOperand_render hq hu hend (by rw [ht]; simp)

theorem readOperand_cases (source : Text) :
    (∃ body, templateLiteral? (trim source) = some body ∧
      readOperand source = .template (templatePieces body)) ∨
    (∃ body, stringLiteral? (trim source) = some body ∧
      readOperand source = .string (unescape body)) ∨
    (∃ body, renderCall? (trim source) = some body ∧
      readOperand source = .render (unescape body)) ∨
    (∃ f, readOperand source = .field f) ∨ (∃ e, readOperand source = .group e) ∨
      ∃ pieces, readOperand source = .verbatim pieces := by
  have h := readOperand_eq source
  cases htemplate : templateLiteral? (trim source) with
  | some body =>
    rw [htemplate] at h
    exact .inl ⟨body, rfl, h⟩
  | none =>
    cases hstring : stringLiteral? (trim source) with
    | some body =>
      rw [htemplate, hstring] at h
      exact .inr (.inl ⟨body, rfl, h⟩)
    | none =>
      cases hfield : fieldNamed? (trim source) with
      | some f =>
        rw [htemplate, hstring, hfield] at h
        exact .inr (.inr (.inr (.inl ⟨f, h⟩)))
      | none =>
        cases hcall : renderCall? (trim source) with
        | some body =>
          rw [htemplate, hstring, hfield, hcall] at h
          exact .inr (.inr (.inl ⟨body, rfl, h⟩))
        | none =>
          rw [htemplate, hstring, hfield, hcall] at h
          dsimp only at h
          split at h
          · exact .inr (.inr (.inr (.inr (.inl ⟨_, h⟩))))
          · exact .inr (.inr (.inr (.inr (.inr ⟨_, h⟩))))

theorem readOperand_eq_template_iff {pieces : List Piece} :
    readOperand source = .template pieces ↔
      ∃ body, trim source = '\x60' :: (body ++ ['\x60']) ∧ pieces = templatePieces body := by
  constructor
  · intro h
    rcases readOperand_cases source with ⟨body, hform, he⟩ | ⟨_, _, he⟩ | ⟨_, _, he⟩ | ⟨_, he⟩ |
      ⟨_, he⟩ | ⟨_, he⟩
    · rw [he] at h
      exact ⟨body, eq_of_between? hform, (Operand.template.inj h).symm⟩
    all_goals
      rw [he] at h
      cases h
  · rintro ⟨body, ht, rfl⟩
    exact readOperand_template ht

theorem readOperand_eq_string_iff {v : Text} :
    readOperand source = .string v ↔
      ∃ q body, (q = '\x27' ∨ q = '"') ∧ trim source = q :: (body ++ [q]) ∧ v = unescape body := by
  constructor
  · intro h
    rcases readOperand_cases source with ⟨_, _, he⟩ | ⟨body, hform, he⟩ | ⟨_, _, he⟩ | ⟨_, he⟩ |
      ⟨_, he⟩ | ⟨_, he⟩
    case inr.inl =>
      rw [he] at h
      obtain ⟨q, hq, ht⟩ := exists_of_stringLiteral? hform
      exact ⟨q, body, hq, ht, (Operand.string.inj h).symm⟩
    all_goals
      rw [he] at h
      cases h
  · rintro ⟨q, body, hq, ht, rfl⟩
    exact readOperand_string hq ht

theorem readOperand_eq_render_iff {template : Text} :
    readOperand source = .render template ↔
      ∃ q body, isQuote q = true ∧ RenderOf (trim source) (q :: (body ++ [q])) ∧
        template = unescape body := by
  constructor
  · intro h
    rcases readOperand_cases source with ⟨_, _, he⟩ | ⟨_, _, he⟩ | ⟨body, hform, he⟩ | ⟨_, he⟩ |
      ⟨_, he⟩ | ⟨_, he⟩
    case inr.inr.inl =>
      rw [he] at h
      obtain ⟨q, hq, ht⟩ := exists_of_renderCall? hform
      exact ⟨q, body, hq, ht, (Operand.render.inj h).symm⟩
    all_goals
      rw [he] at h
      cases h
  · rintro ⟨q, body, hq, ht, rfl⟩
    exact ht.readOperand hq

end forms

/-- The literal forms and the call look at the outer quotes alone. What they take is one literal
when no quote closes it before the last one does and the last one is not escaped. -/
theorem readOperand_quoted_iff (source : Text) :
    (∀ pieces, readOperand source = .template pieces ↔
      ∃ body, trim source = '\x60' :: (body ++ ['\x60']) ∧ pieces = templatePieces body) ∧
    (∀ v, readOperand source = .string v ↔
      ∃ q body, (q = '\x27' ∨ q = '"') ∧ trim source = q :: (body ++ [q]) ∧ v = unescape body) ∧
    (∀ template, readOperand source = .render template ↔
      ∃ q body, isQuote q = true ∧ RenderOf (trim source) (q :: (body ++ [q])) ∧
        template = unescape body) ∧
    ∀ q body, isQuote q = true →
      (OneLiteral (q :: (body ++ [q])) ↔ ¬ ClosedEarly q body ∧ ¬ EndsEscaped q body) := by
  refine ⟨fun _ => readOperand_eq_template_iff, fun _ => readOperand_eq_string_iff,
    fun _ => readOperand_eq_render_iff, fun q body hq => ?_⟩
  rw [oneLiteral_iff hq, literalBody_iff hq]

theorem readOperand_quoted_iff_sum :
    readOperand "render('a' + 'b', page)".toList = .render "a' + 'b".toList ∧
      isQuote '\x27' = true ∧ ¬ OneLiteral "'a' + 'b'".toList := by
  obtain ⟨_, _, hrender, hone⟩ := readOperand_quoted_iff "render('a' + 'b', page)".toList
  have hspace : Blank [' '] := by simp [Blank, isBlank]
  have hspaced : Spaced [[','], "page".toList] ", page".toList :=
    .cons (w := []) Blank.nil (.cons (w := [' ']) hspace (.nil (w := []) Blank.nil))
  have hcall : RenderOf (trim "render('a' + 'b', page)".toList) "'a' + 'b'".toList :=
    ⟨[], ", page".toList, Blank.nil, hspaced, by decide⟩
  have hearly : ClosedEarly '\x27' "a' + 'b".toList :=
    ⟨['a'], " + 'b".toList, .char (by decide) (by decide) .nil, rfl⟩
  refine ⟨(hrender _).mpr ⟨'\x27', "a' + 'b".toList, rfl, hcall, rfl⟩, rfl, fun h => ?_⟩
  exact ((hone '\x27' "a' + 'b".toList rfl).mp h).1 hearly

theorem two_literals_read_as_one :
    ¬ ∀ source,
      (∀ pieces, readOperand source = .template pieces → OneLiteral (trim source)) ∧
      (∀ v, readOperand source = .string v → OneLiteral (trim source)) ∧
      ∀ template, readOperand source = .render template →
        ∃ literal, OneLiteral literal ∧ RenderOf (trim source) literal := by
  intro h
  have hread : readOperand "'by ' page.title '!'".toList = .string "by ' page.title '!".toList :=
    readOperand_eq_string_iff.mpr
      ⟨'\x27', "by ' page.title '!".toList, .inl rfl, by decide, by decide⟩
  have hone := (h "'by ' page.title '!'".toList).2.1 _ hread
  refine hone.inside "'by '".toList (by decide) (by decide) (by decide) ?_
  exact ⟨0, by decide⟩

end PageClip
