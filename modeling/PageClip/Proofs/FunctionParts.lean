import PageClip.FunctionSource
import PageClip.Proofs.BracketMatching
import PageClip.Proofs.SpacedTokens

/-! The parts of a copy function, each found where it was written and cut out of the text
unchanged: the body, the returned object and the entries. -/

namespace PageClip

/-- What a function of the page begins with, in front of the brace of its body. -/
def functionStart : List Text := [['('], "page".toList, [')'], ['=', '>']]

/-- A text in the shape of a function of the page, and the body between its braces. -/
def FunctionForm (t body : Text) : Prop :=
  ∃ head tail, Spaced functionStart head ∧ (Spaced [] tail ∨ Spaced [[';']] tail) ∧
    t = head ++ '{' :: (body ++ '}' :: tail)

section cut
variable {c : Char} {t a b : Text}

theorem cutAtLast?_append (hb : c ∉ b) (a : Text) : cutAtLast? c (a ++ c :: b) = some (a, b) := by
  have hrev : (a ++ c :: b).reverse = b.reverse ++ c :: a.reverse := by simp
  obtain ⟨htake, hdrop⟩ := cut_before (mt List.mem_reverse.mp hb) a.reverse
  rw [cutAtLast?, hrev, hdrop, htake]
  simp

theorem eq_append_of_cutAtLast? (h : cutAtLast? c t = some (a, b)) : t = a ++ c :: b := by
  have hsplit := List.takeWhile_append_dropWhile (p := (· != c)) (l := t.reverse)
  have hhead := List.head?_dropWhile_not (· != c) t.reverse
  simp only [cutAtLast?] at h
  split at h
  · simp at h
  · rename_i d before hd
    rw [hd] at hsplit hhead
    obtain rfl : d = c := by simpa using hhead
    obtain ⟨rfl, rfl⟩ := Prod.mk.inj (Option.some.inj h)
    have ht := congrArg List.reverse hsplit
    simpa using ht.symm

end cut

section body
variable {t body other : Text}

theorem isFunctionEnd_iff : isFunctionEnd t = true ↔ Spaced [] t ∨ Spaced [[';']] t := by
  obtain ⟨w, ht, hw⟩ := trimStart_spec t
  constructor
  · intro h
    rw [isFunctionEnd] at h
    split at h
    · rename_i hnil
      rw [hnil, List.append_nil] at ht
      exact .inl (.nil (ht ▸ hw))
    · rename_i c r hcons
      simp only [Bool.and_eq_true, beq_iff_eq, List.all_eq_true] at h
      obtain ⟨rfl, hr⟩ := h
      have hsemi : Spaced [[';']] (w ++ ([';'] ++ r)) := .cons hw (.nil hr)
      rw [ht, hcons]
      exact .inr hsemi
  · rintro (h | h)
    · rw [isFunctionEnd, trimStart_eq_nil h.blank]
    · cases h with
      | cons hv hr =>
        have hblank := hr.blank
        rw [isFunctionEnd, trimStart_blank_append hv, List.cons_append, trimStart_cons (by decide)]
        simpa [List.all_eq_true, Blank] using hblank

theorem not_mem_functionEnd (h : Spaced [] t ∨ Spaced [[';']] t) : '}' ∉ t := by
  rcases h with h | h
  · exact h.not_mem (by decide) (by simp)
  · exact h.not_mem (by decide) (by simp)

theorem functionBody?_eq_some_iff : functionBody? t = some body ↔ FunctionForm t body := by
  constructor
  · intro h
    simp only [functionBody?, Option.bind_eq_bind, Option.bind_eq_some_iff] at h
    obtain ⟨t₁, h₁, t₂, h₂, t₃, h₃, t₄, h₄, t₅, h₅, ⟨a, b⟩, hcut, hbody⟩ := h
    split at hbody
    · rename_i hend
      obtain rfl := Option.some.inj hbody
      obtain rfl := eq_append_of_cutAtLast? hcut
      obtain ⟨w₁, hw₁, rfl⟩ := exists_of_afterToken? h₁
      obtain ⟨w₂, hw₂, rfl⟩ := exists_of_afterToken? h₂
      obtain ⟨w₃, hw₃, rfl⟩ := exists_of_afterToken? h₃
      obtain ⟨w₄, hw₄, rfl⟩ := exists_of_afterToken? h₄
      obtain ⟨w₅, hw₅, rfl⟩ := exists_of_afterToken? h₅
      have hhead : Spaced functionStart
          (w₁ ++ (['('] ++ (w₂ ++ ("page".toList ++ (w₃ ++ ([')'] ++ (w₄ ++ (['=', '>'] ++ w₅)))))))) :=
        .cons hw₁ (.cons hw₂ (.cons hw₃ (.cons hw₄ (.nil hw₅))))
      exact ⟨_, b, hhead, isFunctionEnd_iff.mp hend, by simp⟩
    · simp at hbody
  · rintro ⟨head, tail, hhead, htail, rfl⟩
    obtain ⟨r₁, h₁, e₁⟩ := hhead.afterToken? rfl (by decide)
    obtain ⟨r₂, h₂, e₂⟩ := h₁.afterToken? rfl (by decide)
    obtain ⟨r₃, h₃, e₃⟩ := h₂.afterToken? rfl (by decide)
    obtain ⟨r₄, h₄, e₄⟩ := h₃.afterToken? rfl (by decide)
    have e₅ : afterToken? ['{'] (r₄ ++ (['{'] ++ (body ++ '}' :: tail))) =
        some (body ++ '}' :: tail) := afterToken?_blank_append rfl (by decide) h₄.blank _
    rw [List.singleton_append] at e₅
    have hcut := cutAtLast?_append (not_mem_functionEnd htail) body
    simp only [functionBody?, e₁, e₂, e₃, e₄, e₅, hcut, Option.bind_eq_bind, Option.bind_some,
      isFunctionEnd_iff.mpr htail, if_true]

theorem FunctionForm.eq (h : FunctionForm t body) (h' : FunctionForm t other) : other = body := by
  have hbody := functionBody?_eq_some_iff.mpr h
  rw [functionBody?_eq_some_iff.mpr h'] at hbody
  exact Option.some.inj hbody

theorem infix_of_functionBody? (h : functionBody? t = some body) : body <:+: t := by
  obtain ⟨head, tail, _, _, rfl⟩ := functionBody?_eq_some_iff.mp h
  exact ⟨head ++ ['{'], '}' :: tail, by simp⟩

end body

section object
variable {t o u : Text}

theorem objectAt?_append {c : Char} (ht : Balanced t) (hc : isCloser c = true) (rest : Text) :
    objectAt? ('{' :: (t ++ c :: rest)) = some t := by
  have hclose := findClosing_bracketed (o := '{') ht rfl hc rest
  rw [objectAt?, hclose]
  simp

theorem objectAt?_spec (h : objectAt? t = some o) :
    Balanced o ∧ ∃ c rest, isCloser c = true ∧ t = '{' :: (o ++ c :: rest) := by
  unfold objectAt? at h
  split at h
  · rename_i inner
    obtain ⟨n, hn, rfl⟩ := Option.map_eq_some_iff.mp h
    obtain ⟨p, c, rest, rfl, rfl, hc, hp⟩ := exists_of_findClosing (o := '{') (a := []) rfl hn
    have htake : (p ++ c :: rest).take (0 + 1 + p.length - 1) = p := by simp
    rw [List.length_nil, htake]
    exact ⟨hp, c, rest, hc, rfl⟩
  · simp at h

theorem returnedObject?_blank_append (hu : Blank u) (t : Text) :
    returnedObject? false (u ++ t) = returnedObject? false t := by
  induction u with
  | nil => rfl
  | cons c u ih =>
    have hc : 'r' ≠ c := (ne_of_blank hu.head (by decide)).symm
    have hno : afterPrefix? "return".toList (c :: (u ++ t)) = none := if_neg hc
    rw [List.cons_append, returnedObject?, hno, isWordChar_of_blank hu.head]
    exact ih hu.tail

theorem returnedObject?_return (hu : Blank u) (ht : Balanced t) (rest : Text) :
    returnedObject? false ("return".toList ++ (u ++ '{' :: (t ++ '}' :: rest))) = some t := by
  have hret : afterPrefix? "return".toList
      ('r' :: ("eturn".toList ++ (u ++ '{' :: (t ++ '}' :: rest)))) =
        some (u ++ '{' :: (t ++ '}' :: rest)) := afterPrefix?_append "return".toList _
  show returnedObject? false ('r' :: ("eturn".toList ++ (u ++ '{' :: (t ++ '}' :: rest)))) = some t
  rw [returnedObject?, if_neg Bool.false_ne_true, hret, Option.map_some,
    trimStart_blank_append hu, trimStart_cons (by decide), Option.bind_some, objectAt?_append ht rfl]

/-- Wherever the returned object was found, its inside is a balanced part of the text. -/
theorem returnedObject?_spec {afterWord : Bool} (h : returnedObject? afterWord t = some o) :
    Balanced o ∧ o <:+: t := by
  induction t generalizing afterWord with
  | nil => simp [returnedObject?] at h
  | cons c t ih =>
    rw [returnedObject?] at h
    split at h
    · rename_i object hobj
      obtain rfl := Option.some.inj h
      -- A word character before the return rules it out.
      split at hobj
      · simp at hobj
      · obtain ⟨r, hr, hat⟩ := Option.bind_eq_some_iff.mp hobj
        obtain ⟨r', hret, rfl⟩ := Option.map_eq_some_iff.mp hr
        obtain ⟨w, hw, _⟩ := trimStart_spec r'
        obtain ⟨hbal, d, rest, _, hcons⟩ := objectAt?_spec hat
        refine ⟨hbal, ?_⟩
        rw [eq_append_of_afterPrefix? hret, hw, hcons]
        exact ⟨"return".toList ++ w ++ ['{'], d :: rest, by simp⟩
    · obtain ⟨hbal, hin⟩ := ih h
      exact ⟨hbal, hin.trans (List.suffix_cons c t).isInfix⟩

end object

end PageClip
