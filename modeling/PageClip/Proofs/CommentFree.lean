import PageClip.Proofs.Balance
import PageClip.Scan

/-! Source without comments. A slash that could open a comment has to stand outside every string
literal, and where none does, the removal of comments changes nothing. What the removal leaves is
such a source. -/

namespace PageClip

def OpensComment (t : Text) : Prop := "//".toList <+: t ∨ "/*".toList <+: t

def Scan.InSource (s : Scan) : Prop := ∃ d, s = .source d

/-- No comment opens in the text when it is scanned from this place. -/
def Scan.CommentFree (s : Scan) (t : Text) : Prop :=
  ∀ p r, t = p ++ r → (s.run p).InSource → ¬ OpensComment r

/-- The reader of comments and the scan agree on what they are inside of. -/
inductive CommentState.Follows : CommentState → Scan → Prop where
  | source (d : Int) : Follows .source (.source d)
  | literal (d : Int) (q : Char) : Follows (.literal q) (.literal d q)

/-- What the text that the reader still puts out is inside of. -/
def CommentState.resumed : CommentState → CommentState
  | .line => .source
  | .block => .source
  | k => k

theorem opensComment_iff {t : Text} :
    OpensComment t ↔ ∃ c r, t = '/' :: c :: r ∧ (c = '/' ∨ c = '*') := by
  constructor
  · rintro (⟨r, rfl⟩ | ⟨r, rfl⟩)
    · exact ⟨'/', r, rfl, .inl rfl⟩
    · exact ⟨'*', r, rfl, .inr rfl⟩
  · rintro ⟨c, r, rfl, rfl | rfl⟩
    · exact .inl ⟨r, rfl⟩
    · exact .inr ⟨r, rfl⟩

theorem not_inSource_literal (d : Int) (q : Char) : ¬ (Scan.literal d q).InSource := by
  rintro ⟨_, h⟩
  cases h

theorem not_inSource_escape (d : Int) (q : Char) : ¬ (Scan.escape d q).InSource := by
  rintro ⟨_, h⟩
  cases h

theorem not_opensComment_of_ne {c : Char} (hc : c ≠ '/') (t : Text) : ¬ OpensComment (c :: t) := by
  intro h
  obtain ⟨_, _, hcons, _⟩ := opensComment_iff.mp h
  exact hc (List.cons.inj hcons).1

section step
variable {c q : Char} {t : Text}

theorem not_opensComment_cons (hline : ∀ r, c = '/' → t = '/' :: r → False)
    (hblock : ∀ r, c = '/' → t = '*' :: r → False) : ¬ OpensComment (c :: t) := by
  rintro (⟨r, hr⟩ | ⟨r, hr⟩)
  · obtain ⟨rfl, rfl⟩ := List.cons.inj hr
    exact hline r rfl rfl
  · obtain ⟨rfl, rfl⟩ := List.cons.inj hr
    exact hblock r rfl rfl

theorem stripCommentsFrom_source_cons (h : ¬ OpensComment (c :: t)) :
    stripCommentsFrom .source (c :: t) =
      c :: stripCommentsFrom (if isQuote c then .literal c else .source) t := by
  rw [stripCommentsFrom]
  · rintro r rfl rfl
    exact h (opensComment_iff.mpr ⟨'/', r, rfl, .inl rfl⟩)
  · rintro r rfl rfl
    exact h (opensComment_iff.mpr ⟨'*', r, rfl, .inr rfl⟩)

theorem stripCommentsFrom_literal_cons (h : c ≠ '\\') :
    stripCommentsFrom (.literal q) (c :: t) =
      c :: stripCommentsFrom (if c = q then .source else .literal q) t := by
  rw [stripCommentsFrom]
  exact fun _ _ hc _ => h hc

theorem stripCommentsFrom_block_cons (h : ¬ "*/".toList <+: c :: t) :
    stripCommentsFrom .block (c :: t) = stripCommentsFrom .block t := by
  rw [stripCommentsFrom]
  rintro r rfl rfl
  exact h ⟨r, rfl⟩

end step

section
variable {s : Scan} {t u : Text}

theorem Scan.CommentFree.tail {c : Char} (h : s.CommentFree (c :: t)) :
    (s.step c).CommentFree t := by
  intro p r hp hs
  exact h (c :: p) r (by rw [hp, List.cons_append]) hs

theorem Scan.CommentFree.head {d : Int} (h : (Scan.source d).CommentFree t) :
    ¬ OpensComment t :=
  h [] t rfl ⟨d, rfl⟩

theorem commentFree_of_not_mem (ht : '/' ∉ t) : s.CommentFree t := by
  rintro p r rfl _ hr
  obtain ⟨c, r', rfl, _⟩ := opensComment_iff.mp hr
  exact ht (List.mem_append_right p List.mem_cons_self)

theorem commentFree_cons {c : Char} :
    s.CommentFree (c :: t) ↔
      (s.InSource → ¬ OpensComment (c :: t)) ∧ (s.step c).CommentFree t := by
  constructor
  · intro h
    exact ⟨h [] (c :: t) rfl, h.tail⟩
  · rintro ⟨hhead, htail⟩ p r hp hs
    cases p with
    | nil =>
      rw [List.nil_append] at hp
      exact hp ▸ hhead hs
    | cons x p =>
      obtain ⟨rfl, rfl⟩ := List.cons.inj hp
      exact htail p r rfl hs

theorem inSource_raise {k : Int} : (s.raise k).InSource ↔ s.InSource := by
  cases s <;> simp [Scan.InSource, Scan.raise]

theorem Scan.CommentFree.source (h : Scan.start.CommentFree t) (d : Int) :
    (Scan.source d).CommentFree t := by
  intro p r hp hs
  rw [← raise_start, Scan.run_raise, inSource_raise] at hs
  exact h p r hp hs

/-- A seam is safe when there is no slash before it, or neither a slash nor a star behind it. -/
theorem Scan.CommentFree.append (ht : s.CommentFree t) (hu : (s.run t).CommentFree u)
    (hseam : '/' ∉ t ∨ ∀ c, u.head? = some c → c ≠ '/' ∧ c ≠ '*') : s.CommentFree (t ++ u) := by
  intro p r hp hs hr
  rcases List.append_eq_append_iff.mp hp with ⟨p', rfl, hu'⟩ | ⟨r', rfl, rfl⟩
  · rw [Scan.run_append] at hs
    exact hu p' r hu' hs hr
  · obtain ⟨c, r, hcons, hc⟩ := opensComment_iff.mp hr
    cases r' with
    | nil =>
      rw [List.append_nil] at hu
      exact hu [] u rfl hs (opensComment_iff.mpr ⟨c, r, hcons, hc⟩)
    | cons x r' =>
      obtain ⟨rfl, htail⟩ := List.cons.inj hcons
      cases r' with
      | cons y r' =>
        obtain ⟨rfl, _⟩ := List.cons.inj htail
        exact ht p _ rfl hs (opensComment_iff.mpr ⟨y, r', rfl, hc⟩)
      | nil =>
        rcases hseam with hslash | hnext
        · exact hslash (by simp)
        · obtain ⟨h₁, h₂⟩ := hnext c (congrArg List.head? htail)
          rcases hc with rfl | rfl
          · exact h₁ rfl
          · exact h₂ rfl

theorem ne_slash_star_of_blank {c : Char} (hc : isBlank c = true) : c ≠ '/' ∧ c ≠ '*' :=
  ⟨ne_of_blank hc (by decide), ne_of_blank hc (by decide)⟩

theorem CommentState.follows_step_source (d : Int) (c : Char) :
    (if isQuote c then CommentState.literal c else .source).Follows ((Scan.source d).step c) := by
  by_cases hq : isQuote c = true
  · rw [if_pos hq, Scan.step_source_quote hq]
    exact .literal d c
  · rw [if_neg hq, Scan.step, if_neg hq]
    split
    · exact .source _
    · split
      · exact .source _
      · exact .source _

theorem CommentState.follows_step_literal {c : Char} (hc : c ≠ '\\') (d : Int) (q : Char) :
    (if c = q then CommentState.source else .literal q).Follows ((Scan.literal d q).step c) := by
  rw [Scan.step, if_neg hc]
  split
  · exact .source d
  · exact .literal d q

theorem stripCommentsFrom_eq_self {k : CommentState} (hk : k.Follows s) (h : s.CommentFree t) :
    stripCommentsFrom k t = t := by
  -- The induction follows the reader, and the state it is in says where the scan stands.
  fun_induction stripCommentsFrom k t generalizing s with
  | case1 k => rfl
  | case2 t ih =>
    cases hk with
    | source d => exact absurd (.inl ⟨t, rfl⟩) h.head
  | case3 t ih =>
    cases hk with
    | source d => exact absurd (.inr ⟨t, rfl⟩) h.head
  | case4 c t _ _ ih =>
    cases hk with
    | source d => rw [ih (CommentState.follows_step_source d c) h.tail]
  | case5 q c t ih =>
    cases hk with
    | literal d =>
      have htail : (Scan.literal d q).CommentFree t := h.tail.tail
      rw [ih (.literal d q) htail]
  | case6 q c t hpair ih =>
    cases hk with
    | literal d =>
      by_cases hc : c = '\\'
      · cases t with
        | nil => rw [stripCommentsFrom]
        | cons x t => exact absurd rfl (hpair x t hc)
      · rw [ih (CommentState.follows_step_literal hc d q) h.tail]
  | case7 => nomatch hk
  | case8 => nomatch hk
  | case9 => nomatch hk
  | case10 => nomatch hk

theorem stripComments_eq_self (h : Scan.start.CommentFree t) : stripComments t = t :=
  stripCommentsFrom_eq_self (.source 0) h

theorem CommentState.Follows.resumed {k : CommentState} (h : k.Follows s) :
    k.resumed.Follows s := by
  cases h with
  | source d => exact .source d
  | literal d q => exact .literal d q

/-- A slash that is put out still has the character behind it that it had in the source. -/
theorem not_opensComment_stripCommentsFrom {c : Char} (h : ¬ OpensComment (c :: t)) :
    ¬ OpensComment (c :: stripCommentsFrom (if isQuote c then .literal c else .source) t) := by
  intro hout
  obtain ⟨y, r, hcons, hy⟩ := opensComment_iff.mp hout
  obtain ⟨rfl, hr⟩ := List.cons.inj hcons
  have hsource : (if isQuote '/' then CommentState.literal '/' else .source) = .source := rfl
  rw [hsource] at hr
  cases t with
  | nil => cases hr
  | cons z t =>
    have hz : ¬ (z = '/' ∨ z = '*') := fun hz => h (opensComment_iff.mpr ⟨z, t, rfl, hz⟩)
    have hslash : z ≠ '/' := fun hz' => hz (.inl hz')
    rw [stripCommentsFrom_source_cons (not_opensComment_of_ne hslash t)] at hr
    exact hz ((List.cons.inj hr).1 ▸ hy)

theorem commentFree_blank_cons {c : Char} {d : Int} (hc : isBlank c = true)
    (h : (Scan.source d).CommentFree t) : (Scan.source d).CommentFree (c :: t) := by
  rw [commentFree_cons, Scan.step_source_ordinary (isOrdinary_of_blank hc)]
  exact ⟨fun _ => not_opensComment_of_ne (ne_slash_star_of_blank hc).1 t, h⟩

theorem commentFree_literal_cons {c q : Char} {d : Int}
    (h : ((Scan.literal d q).step c).CommentFree t) : (Scan.literal d q).CommentFree (c :: t) :=
  commentFree_cons.mpr ⟨fun hs => absurd hs (not_inSource_literal d q), h⟩

theorem commentFree_escape_cons {c q : Char} {d : Int} (h : (Scan.literal d q).CommentFree t) :
    (Scan.escape d q).CommentFree (c :: t) :=
  commentFree_cons.mpr ⟨fun hs => absurd hs (not_inSource_escape d q), h⟩

theorem commentFree_stripCommentsFrom {k : CommentState} (hk : k.resumed.Follows s) (t : Text) :
    s.CommentFree (stripCommentsFrom k t) := by
  -- The induction follows the reader. The scan of what is put out stands where the reader does,
  -- or in source while the reader passes over a comment.
  fun_induction stripCommentsFrom k t generalizing s with
  | case1 k => exact commentFree_of_not_mem List.not_mem_nil
  | case2 t ih => exact ih hk
  | case3 t ih => exact ih hk
  | case4 c t hline hblock ih =>
    cases hk with
    | source d =>
      have hopen := not_opensComment_stripCommentsFrom (not_opensComment_cons hline hblock)
      have hfollows := CommentState.follows_step_source d c
      exact commentFree_cons.mpr ⟨fun _ => hopen, ih hfollows.resumed⟩
  | case5 q c t ih =>
    cases hk with
    | literal d => exact commentFree_literal_cons (commentFree_escape_cons (ih (.literal d q)))
  | case6 q c t hpair ih =>
    cases hk with
    | literal d =>
      apply commentFree_literal_cons
      by_cases hc : c = '\\'
      · cases t with
        | nil =>
          rw [stripCommentsFrom]
          exact commentFree_of_not_mem List.not_mem_nil
        | cons x t => exact absurd rfl (hpair x t hc)
      · exact ih (CommentState.follows_step_literal hc d q).resumed
  | case7 t ih =>
    cases hk with
    | source d => exact commentFree_blank_cons (by decide) (ih (.source d))
  | case8 c t hc ih => exact ih hk
  | case9 t ih =>
    cases hk with
    | source d => exact commentFree_blank_cons (by decide) (ih (.source d))
  | case10 c t hpair ih => exact ih hk

theorem commentFree_stripComments (t : Text) : Scan.start.CommentFree (stripComments t) :=
  commentFree_stripCommentsFrom (k := .source) (.source 0) t

end

/-- No comment opens in what the removal of comments leaves, so a second removal finds nothing to
do. Exactly the sources in which no comment opens are left as they are. -/
theorem stripComments_complete (source : Text) :
    Scan.start.CommentFree (stripComments source) ∧
    stripComments (stripComments source) = stripComments source ∧
    (stripComments source = source ↔ Scan.start.CommentFree source) := by
  have hfree := commentFree_stripComments source
  refine ⟨hfree, stripComments_eq_self hfree, fun h => ?_, stripComments_eq_self⟩
  rwa [h] at hfree

instance (t : Text) : Decidable (OpensComment t) :=
  inferInstanceAs (Decidable ("//".toList <+: t ∨ "/*".toList <+: t))

instance Scan.decidableInSource : (s : Scan) → Decidable s.InSource
  | .source d => .isTrue ⟨d, rfl⟩
  | .literal _ _ => .isFalse nofun
  | .escape _ _ => .isFalse nofun

instance Scan.decidableCommentFree : (s : Scan) → (t : Text) → Decidable (s.CommentFree t)
  | _, [] => .isTrue (commentFree_of_not_mem List.not_mem_nil)
  | s, c :: t =>
    have := Scan.decidableCommentFree (s.step c) t
    decidable_of_iff _ commentFree_cons.symm

end PageClip
