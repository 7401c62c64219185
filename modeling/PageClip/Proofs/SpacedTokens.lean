import PageClip.Proofs.Balance

/-! Tokens with any blanks around them, as a reader that skips blanks before each token sees
them. -/

namespace PageClip

/-- The tokens in order, with blanks before, between and behind them. -/
inductive Spaced : List Text → Text → Prop where
  | nil {w} : Blank w → Spaced [] w
  | cons {w token tokens t} :
      Blank w → Spaced tokens t → Spaced (token :: tokens) (w ++ (token ++ t))

theorem afterPrefix?_append (part t : Text) : afterPrefix? part (part ++ t) = some t := by
  induction part with
  | nil => rfl
  | cons c part ih => rw [List.cons_append, afterPrefix?, if_pos rfl, ih]

theorem afterToken?_blank_append {token : Text} {c : Char} (hc : token.head? = some c)
    (hb : isBlank c = false) {w : Text} (hw : Blank w) (t : Text) :
    afterToken? token (w ++ (token ++ t)) = some t := by
  cases token with
  | nil => simp at hc
  | cons d token =>
    obtain rfl := Option.some.inj hc
    rw [afterToken?, trimStart_blank_append hw, List.cons_append, trimStart_cons hb,
      ← List.cons_append, afterPrefix?_append]

theorem trimStart_spec (t : Text) : ∃ w, t = w ++ trimStart t ∧ Blank w := by
  rcases blank_or_cons t with ht | ⟨w, c, r, rfl, hw, hc⟩
  · exact ⟨t, by simp [trimStart_eq_nil ht], ht⟩
  · exact ⟨w, by rw [trimStart_blank_append hw, trimStart_cons hc], hw⟩

theorem exists_of_afterToken? {token t r : Text} (h : afterToken? token t = some r) :
    ∃ w, Blank w ∧ t = w ++ (token ++ r) := by
  obtain ⟨w, ht, hw⟩ := trimStart_spec t
  rw [eq_append_of_afterPrefix? h] at ht
  exact ⟨w, hw, ht⟩

theorem Spaced.blank {s : Text} (h : Spaced [] s) : Blank s := by
  cases h with
  | nil hw => exact hw

theorem Spaced.afterToken? {token : Text} {tokens : List Text} {s : Text} {c : Char}
    (h : Spaced (token :: tokens) s) (hc : token.head? = some c) (hb : isBlank c = false) :
    ∃ r, Spaced tokens r ∧ ∀ t, PageClip.afterToken? token (s ++ t) = some (r ++ t) := by
  cases h with
  | cons hw hr =>
    refine ⟨_, hr, fun t => ?_⟩
    rw [List.append_assoc, List.append_assoc]
    exact afterToken?_blank_append hc hb hw _

theorem Spaced.split {a b : List Text} {token s : Text} (h : Spaced (a ++ token :: b) s) :
    ∃ m r, Spaced a m ∧ Spaced b r ∧ s = m ++ (token ++ r) := by
  induction a generalizing s with
  | nil =>
    cases h with
    | cons hw hr => exact ⟨_, _, .nil hw, hr, rfl⟩
  | cons x a ih =>
    cases h with
    | cons hw hr =>
      obtain ⟨m, r, hm, hb, rfl⟩ := ih hr
      exact ⟨_, r, .cons hw hm, hb, by simp⟩

theorem Spaced.balanced {tokens : List Text} {s : Text} (h : Spaced tokens s)
    (ht : ∀ t ∈ tokens, Balanced t) : Balanced s := by
  induction h with
  | nil hw => exact hw.balanced
  | cons hw _ ih =>
    have hhead := ht _ List.mem_cons_self
    exact hw.balanced.append (hhead.append (ih fun t hm => ht t (List.mem_cons_of_mem _ hm)))

theorem Spaced.mem {tokens : List Text} {s : Text} {c : Char} (h : Spaced tokens s)
    (hm : c ∈ s) : isBlank c = true ∨ ∃ t ∈ tokens, c ∈ t := by
  induction h with
  | nil hw => exact .inl (hw c hm)
  | cons hw _ ih =>
    rcases List.mem_append.mp hm with hm | hm
    · exact .inl (hw c hm)
    · rcases List.mem_append.mp hm with hm | hm
      · exact .inr ⟨_, List.mem_cons_self, hm⟩
      · rcases ih hm with hb | ⟨t, ht, hc⟩
        · exact .inl hb
        · exact .inr ⟨t, List.mem_cons_of_mem _ ht, hc⟩

theorem Spaced.not_mem {tokens : List Text} {s : Text} {x : Char} (h : Spaced tokens s)
    (hb : isBlank x = false) (hx : ∀ token ∈ tokens, x ∉ token) : x ∉ s := by
  intro hm
  rcases h.mem hm with hblank | ⟨token, htoken, hmem⟩
  · simp [hb] at hblank
  · exact hx token htoken hmem

end PageClip
