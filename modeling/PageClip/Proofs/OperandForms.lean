import PageClip.Expression
import PageClip.Proofs.BracketMatching
import PageClip.Proofs.SpacedTokens
import PageClip.Proofs.Splitting

/-! Reading an expression part by part. Each form of an operand is settled by the first
character of the trimmed text, and sums and alternatives are read one part at a time. -/

namespace PageClip

theorem readOperand_eq (source : Text) :
    readOperand source =
      match templateLiteral? (trim source), stringLiteral? (trim source),
        fieldNamed? (trim source), renderCall? (trim source) with
      | some body, _, _, _ => .template (templatePieces body)
      | none, some body, _, _ => .string (unescape body)
      | none, none, some f, _ => .field f
      | none, none, none, some template => .render (unescape template)
      | none, none, none, none =>
        match parenthesised? (trim source) with
        | some inner => .group (readExpression inner)
        | none => .verbatim (fieldPieces (stripQuotes (trim source))) := by
  rw [readOperand]
  cases templateLiteral? (trim source) with
  | some body => rfl
  | none =>
    cases stringLiteral? (trim source) with
    | some body => rfl
    | none =>
      cases fieldNamed? (trim source) with
      | some f => rfl
      | none =>
        cases renderCall? (trim source) with
        | some template => rfl
        | none =>
          dsimp only
          split
          · rename_i inner h
            simp only [h, readExpression, List.map_attach_eq_pmap, List.pmap_eq_map]
          · rename_i h
            simp only [h]

theorem readOperand_trim (source : Text) : readOperand (trim source) = readOperand source := by
  rw [readOperand_eq, readOperand_eq source, trim_trim]

theorem readOperand_padded {u v : Text} (hu : Blank u) (hv : Blank v) (s : Text) :
    readOperand (u ++ s ++ v) = readOperand s := by
  rw [← readOperand_trim, trim_padded hu hv, readOperand_trim]

section forms

theorem between?_of_ne {q c : Char} (h : c ≠ q) (t : Text) : between? q (c :: t) = none := by
  simp [between?, h]

theorem between?_quoted (q : Char) (body : Text) :
    between? q (q :: (body ++ [q])) = some body := by
  simp [between?]

theorem stringLiteral?_quoted {q : Char} (hq : q = '\x27' ∨ q = '"') (body : Text) :
    stringLiteral? (q :: (body ++ [q])) = some body := by
  rcases hq with rfl | rfl
  · rw [stringLiteral?, between?_quoted, Option.some_or]
  · rw [stringLiteral?, between?_of_ne (by decide), between?_quoted, Option.none_or]

theorem fieldNamed?_of_ne {c : Char} (h : c ≠ 'p') (t : Text) : fieldNamed? (c :: t) = none := by
  have hall : ∀ e ∈ fieldNames, e.1.head? = some 'p' := by decide
  rw [fieldNamed?, Option.map_eq_none_iff, List.find?_eq_none]
  intro e he heq
  have hp := hall e he
  rw [beq_iff_eq.mp heq] at hp
  exact h (Option.some.inj hp)

theorem renderCall?_of_ne {c : Char} (h : c ≠ 'r') (t : Text) : renderCall? (c :: t) = none := by
  have hr : afterPrefix? "render(".toList (c :: t) = none := if_neg h.symm
  rw [renderCall?, hr]
  rfl

theorem not_mem_of_isCallEnd {q : Char} (hq : isQuote q = true) {t : Text}
    (h : isCallEnd t = true) : q ∉ t := by
  simp only [isCallEnd, beq_iff_eq, Option.bind_eq_some_iff] at h
  obtain ⟨t₂, ⟨t₁, h₁, h₂⟩, h₃⟩ := h
  obtain ⟨u, hu, rfl⟩ := exists_of_afterToken? h₁
  obtain ⟨v, hv, rfl⟩ := exists_of_afterToken? h₂
  obtain ⟨w, hw, rfl⟩ := exists_of_afterToken? h₃
  have hblank := isBlank_of_isQuote hq
  have hchars : ∀ c ∈ [','] ++ "page".toList ++ [')'], isQuote c = false :=
    forall_mem_of_all (by decide)
  have hmem : q ∉ [','] ++ "page".toList ++ [')'] := fun hm => by simp [hchars q hm] at hq
  simp only [List.mem_append, not_or] at hmem ⊢
  exact ⟨hu.not_mem hblank, hmem.1.1, hv.not_mem hblank, hmem.1.2, hw.not_mem hblank, hmem.2,
    List.not_mem_nil⟩

/-- The call ends behind one quote only, so escapes in the literal play no part in finding it. -/
theorem callBody?_append {q : Char} (hq : isQuote q = true) {tail : Text}
    (htail : isCallEnd tail = true) (body : Text) :
    callBody? q (body ++ q :: tail) = some body := by
  induction body with
  | nil => exact if_pos ⟨rfl, htail⟩
  | cons c body ih =>
    have hno : ¬ (c = q ∧ isCallEnd (body ++ q :: tail) = true) := by
      rintro ⟨_, h⟩
      exact not_mem_of_isCallEnd hq h (by simp)
    rw [List.cons_append, callBody?, if_neg hno, ih]
    rfl

theorem isCallEnd_of_spaced {s : Text} (h : Spaced [[','], "page".toList] s) :
    isCallEnd (s ++ [')']) = true := by
  obtain ⟨s₁, h₁, he₁⟩ := h.afterToken? (c := ',') rfl (by decide)
  obtain ⟨s₂, h₂, he₂⟩ := h₁.afterToken? (c := 'p') rfl (by decide)
  have he₃ : afterToken? [')'] (s₂ ++ [')']) = some [] :=
    afterToken?_blank_append rfl (by decide) h₂.blank []
  rw [isCallEnd, he₁, Option.bind_some, he₂, Option.bind_some, he₃]
  rfl

theorem parenthesised?_bracketed {inner : Text} (h : Balanced inner) :
    parenthesised? ('(' :: (inner ++ [')'])) = some inner := by
  have hclose := findClosing_bracketed h (o := '(') (c := ')') rfl rfl []
  rw [parenthesised?, hclose, if_pos (by simp), List.dropLast_concat]

end forms

section reading
variable {source body : Text}

theorem readOperand_template (h : trim source = '\x60' :: (body ++ ['\x60'])) :
    readOperand source = .template (templatePieces body) := by
  rw [readOperand_eq, h, templateLiteral?, between?_quoted]

theorem readOperand_string {q : Char} (hq : q = '\x27' ∨ q = '"')
    (h : trim source = q :: (body ++ [q])) : readOperand source = .string (unescape body) := by
  have htemplate : templateLiteral? (trim source) = none := by
    rw [h]
    rcases hq with rfl | rfl <;> exact between?_of_ne (by decide) _
  rw [readOperand_eq, htemplate, h, stringLiteral?_quoted hq]

theorem readOperand_field {f : Field} (h : (trim source, f) ∈ fieldNames) :
    readOperand source = .field f := by
  have hall : ∀ e ∈ fieldNames, templateLiteral? e.1 = none ∧ stringLiteral? e.1 = none ∧
      fieldNamed? e.1 = some e.2 := by decide
  obtain ⟨htemplate, hstring, hfield⟩ := hall _ h
  rw [readOperand_eq, htemplate, hstring, hfield]

theorem readOperand_render {q : Char} (hq : isQuote q = true) {u tail : Text} (hu : Blank u)
    (htail : isCallEnd tail = true)
    (h : trim source = "render(".toList ++ (u ++ q :: (body ++ q :: tail))) :
    readOperand source = .render (unescape body) := by
  have hcall : renderCall? (trim source) = some body := by
    rw [h, renderCall?, afterPrefix?_append, Option.map_some, trimStart_blank_append hu,
      trimStart_cons (isBlank_of_isQuote hq)]
    simp only [hq, if_true]
    exact callBody?_append hq htail body
  have hcons : trim source = 'r' :: ("ender(".toList ++ (u ++ q :: (body ++ q :: tail))) := h
  have htemplate : templateLiteral? (trim source) = none :=
    hcons ▸ between?_of_ne (by decide) _
  have hstring : stringLiteral? (trim source) = none := by
    rw [hcons, stringLiteral?, between?_of_ne (by decide), between?_of_ne (by decide)]
    rfl
  have hfield : fieldNamed? (trim source) = none := hcons ▸ fieldNamed?_of_ne (by decide) _
  rw [readOperand_eq, htemplate, hstring, hfield, hcall]

theorem readOperand_group (hb : Balanced body) (h : trim source = '(' :: (body ++ [')'])) :
    readOperand source = .group (readExpression body) := by
  have htemplate : templateLiteral? (trim source) = none := h ▸ between?_of_ne (by decide) _
  have hstring : stringLiteral? (trim source) = none := by
    rw [h, stringLiteral?, between?_of_ne (by decide), between?_of_ne (by decide)]
    rfl
  have hfield : fieldNamed? (trim source) = none := h ▸ fieldNamed?_of_ne (by decide) _
  have hcall : renderCall? (trim source) = none := h ▸ renderCall?_of_ne (by decide) _
  have hgroup : parenthesised? (trim source) = some body := h ▸ parenthesised?_bracketed hb
  rw [readOperand_eq, htemplate, hstring, hfield, hcall, hgroup]

end reading

end PageClip
