import PageClip.Proofs.Balance

/-! Splitting at a separator. Parts in which the separator never starts at the top level come
back as they were, and blanks around the whole text stay blanks around the outer parts. -/

namespace PageClip

def joinHead (a : Text) : List Text → List Text
  | [] => [a]
  | p :: ps => (a ++ p) :: ps

theorem consHead_ne_nil (c : Char) (ps : List Text) : consHead c ps ≠ [] := by
  cases ps <;> simp [consHead]

theorem consHead_joinHead (c : Char) (a : Text) (ps : List Text) :
    consHead c (joinHead a ps) = joinHead (c :: a) ps := by
  cases ps <;> rfl

theorem joinHead_nil {ps : List Text} (h : ps ≠ []) : joinHead [] ps = ps := by
  cases ps with
  | nil => exact absurd rfl h
  | cons p ps => rfl

theorem splitFrom_ne_nil (sep : Text) (s : Scan) (n : Nat) (t : Text) :
    splitFrom sep s n t ≠ [] := by
  induction t generalizing s n with
  | nil => simp [splitFrom]
  | cons c t ih =>
    cases n with
    | succ n => exact ih _ _
    | zero =>
      rw [splitFrom]
      split
      · split <;> simp
      · exact consHead_ne_nil _ _

theorem splitFrom_skip (sep : Text) (s : Scan) (t b : Text) :
    splitFrom sep s t.length (t ++ b) = splitFrom sep (s.run t) 0 b := by
  induction t generalizing s with
  | nil => rfl
  | cons c t ih => exact ih (s.step c)

section
variable {x : Char} {xs : Text}

theorem splitFrom_cons_separator {s : Scan} {c : Char} {t : Text}
    (h : (s.topLevel c && (x :: xs).isPrefixOf (c :: t)) = true) :
    splitFrom (x :: xs) s 0 (c :: t) = [] :: splitFrom (x :: xs) (s.step c) xs.length t := by
  rw [splitFrom, if_pos h]
  rfl

theorem length_le_of_separator {s : Scan} {c : Char} {t : Text}
    (h : (s.topLevel c && (x :: xs).isPrefixOf (c :: t)) = true) : xs.length ≤ t.length := by
  rw [Bool.and_eq_true, List.isPrefixOf_iff_prefix] at h
  simpa using h.2.length_le

theorem splitFrom_cons_other {s : Scan} {c : Char} {t : Text}
    (h : ¬ (s.topLevel c && (x :: xs).isPrefixOf (c :: t)) = true) :
    splitFrom (x :: xs) s 0 (c :: t) = consHead c (splitFrom (x :: xs) (s.step c) 0 t) := by
  rw [splitFrom, if_neg h]

/-- A text that never shows the first character of the separator stays in one part. -/
theorem splitFrom_append (xs : Text) {s : Scan} {a : Text} (ha : x ∉ s.outer a) (b : Text) :
    splitFrom (x :: xs) s 0 (a ++ b) = joinHead a (splitFrom (x :: xs) (s.run a) 0 b) := by
  induction a generalizing s with
  | nil => exact (joinHead_nil (splitFrom_ne_nil _ _ _ _)).symm
  | cons c a ih =>
    have hno : ¬ (s.topLevel c && (x :: xs).isPrefixOf (c :: (a ++ b))) = true := by
      intro h
      simp only [Bool.and_eq_true, List.isPrefixOf_cons_cons, beq_iff_eq] at h
      obtain ⟨htop, rfl, _⟩ := h
      rw [Scan.outer, if_pos htop] at ha
      exact ha List.mem_cons_self
    have hrest : x ∉ (s.step c).outer a := by
      rw [Scan.outer] at ha
      split at ha
      · exact fun h => ha (List.mem_cons_of_mem c h)
      · exact ha
    rw [List.cons_append, splitFrom_cons_other hno, ih hrest, consHead_joinHead, Scan.run_cons]

theorem splitTopLevel_eq_singleton {a : Text} (ha : x ∉ Scan.start.outer a) :
    splitTopLevel (x :: xs) a = [a] := by
  have h := splitFrom_append xs ha []
  rw [List.append_nil] at h
  rw [splitTopLevel, h]
  simp [splitFrom, joinHead]

theorem splitFrom_separator (hsep : ∀ c ∈ x :: xs, isOrdinary c = true) (b : Text) :
    splitFrom (x :: xs) (.source 0) 0 (x :: xs ++ b) =
      [] :: splitFrom (x :: xs) (.source 0) 0 b := by
  have hx := isQuote_eq_false_of_ordinary (hsep x List.mem_cons_self)
  have hyes : ((Scan.source 0).topLevel x && (x :: xs).isPrefixOf (x :: (xs ++ b))) = true := by
    simp [Scan.topLevel, hx]
  have hrun : ((Scan.source 0).step x).run xs = .source 0 := run_source_ordinary hsep 0
  rw [List.cons_append, splitFrom_cons_separator hyes, splitFrom_skip, hrun]

/-- The part before a separator comes first when nothing in it is open or shows a separator. -/
theorem splitTopLevel_append {a : Text} (hsep : ∀ c ∈ x :: xs, isOrdinary c = true)
    (hrun : Scan.start.run a = .source 0) (ha : x ∉ Scan.start.outer a) (b : Text) :
    splitTopLevel (x :: xs) (a ++ (x :: xs ++ b)) = a :: splitTopLevel (x :: xs) b := by
  rw [splitTopLevel, splitFrom_append xs ha, hrun, splitFrom_separator hsep, joinHead,
    List.append_nil]
  rfl

/-- The first part goes on from the scan's place and the others start afresh, each closing what it
opens and showing no separator. -/
theorem splitFrom_spec (hx : isOrdinary x = true) {s : Scan} {t : Text} (hrun : s.run t = .source 0)
    (habove : s.Above 0 t) :
    ∃ p ps, splitFrom [x] s 0 t = p :: ps ∧ p <+: t ∧ s.run p = .source 0 ∧ s.Above 0 p ∧
      x ∉ s.outer p ∧ ∀ q ∈ ps, q <:+: t ∧ Balanced q ∧ x ∉ Scan.start.outer q := by
  -- Only the first part can begin inside a literal or a bracket: a separator is met at depth
  -- zero outside of both, so the scan starts over behind it.
  induction t generalizing s with
  | nil =>
    exact ⟨[], [], rfl, List.nil_prefix, hrun, habove, List.not_mem_nil, by simp⟩
  | cons c t ih =>
    obtain ⟨hs, hstep⟩ := Scan.above_cons.mp habove
    obtain ⟨p, ps, hsplit, hp, hprun, hpabove, hout, hps⟩ := ih hrun hstep
    have hsub : ∀ {q}, q <:+: t → q <:+: c :: t :=
      fun h => h.trans (List.suffix_cons c t).isInfix
    by_cases hsep : (s.topLevel c && [x].isPrefixOf (c :: t)) = true
    · have hc := splitFrom_cons_separator hsep
      simp only [Bool.and_eq_true, List.isPrefixOf_cons_cons, beq_iff_eq] at hsep
      obtain ⟨htop, rfl, _⟩ := hsep
      obtain ⟨rfl, _⟩ := Scan.topLevel_eq_true.mp htop
      rw [Scan.step_source_ordinary hx] at hprun hpabove hout
      refine ⟨[], p :: ps, by rw [hc, List.length_nil, hsplit], List.nil_prefix, rfl, Scan.above_nil.mpr hs,
        List.not_mem_nil, ?_⟩
      intro q hq
      rcases List.mem_cons.mp hq with rfl | hq
      · exact ⟨hsub hp.isInfix, ⟨hprun, hpabove⟩, hout⟩
      · obtain ⟨hin, hbal⟩ := hps q hq
        exact ⟨hsub hin, hbal⟩
    · have hout' : x ∉ s.outer (c :: p) := by
        rw [Scan.outer]
        by_cases htop : s.topLevel c = true
        · rw [if_pos htop]
          intro hm
          rcases List.mem_cons.mp hm with rfl | hm
          · exact hsep (by simp [htop])
          · exact hout hm
        · rwa [if_neg htop]
      refine ⟨c :: p, ps, by rw [splitFrom_cons_other hsep, hsplit, consHead],
        List.cons_prefix_cons.mpr ⟨rfl, hp⟩, hprun, Scan.above_cons.mpr ⟨hs, hpabove⟩, hout', ?_⟩
      intro q hq
      obtain ⟨hin, hbal⟩ := hps q hq
      exact ⟨hsub hin, hbal⟩

theorem mem_splitTopLevel_spec (hx : isOrdinary x = true) {t q : Text} (ht : Balanced t)
    (hq : q ∈ splitTopLevel [x] t) : q <:+: t ∧ Balanced q ∧ x ∉ Scan.start.outer q := by
  obtain ⟨p, ps, hsplit, hp, hrun, habove, hout, hps⟩ := splitFrom_spec hx ht.run_eq ht.above
  rw [splitTopLevel, hsplit] at hq
  rcases List.mem_cons.mp hq with rfl | hq
  · exact ⟨hp.isInfix, ⟨hrun, habove⟩, hout⟩
  · exact hps q hq

theorem isPrefixOf_append_blank {sep w : Text} (hsep : ∀ c ∈ sep, isBlank c = false)
    (hw : Blank w) (t : Text) : sep.isPrefixOf (t ++ w) = sep.isPrefixOf t := by
  induction sep generalizing t with
  | nil => simp
  | cons x sep ih =>
    cases t with
    | cons c t =>
      rw [List.cons_append, List.isPrefixOf_cons_cons, List.isPrefixOf_cons_cons,
        ih (fun y hy => hsep y (List.mem_cons_of_mem x hy))]
    | nil =>
      cases w with
      | nil => rfl
      | cons b w =>
        have hne : x ≠ b := (ne_of_blank hw.head (hsep x List.mem_cons_self)).symm
        simp [List.isPrefixOf_cons_cons, hne]

theorem map_trimEnd_consHead {ps qs : List Text} (h : ps.map trimEnd = qs.map trimEnd)
    (c : Char) : (consHead c ps).map trimEnd = (consHead c qs).map trimEnd := by
  cases ps with
  | nil =>
    rw [List.map_nil, eq_comm, List.map_eq_nil_iff] at h
    rw [h]
  | cons p ps =>
    cases qs with
    | nil => simp at h
    | cons q qs =>
      obtain ⟨hp, hps⟩ := List.cons.inj h
      simp only [consHead, List.map_cons, trimEnd_cons_congr hp c, hps]

theorem map_trimEnd_splitFrom (hsep : ∀ c ∈ x :: xs, isBlank c = false) {w : Text}
    (hw : Blank w) (s : Scan) {n : Nat} {t : Text} (hn : n ≤ t.length) :
    (splitFrom (x :: xs) s n (t ++ w)).map trimEnd =
      (splitFrom (x :: xs) s n t).map trimEnd := by
  induction t generalizing s n with
  | nil =>
    obtain rfl : n = 0 := Nat.le_zero.mp hn
    have hx : x ∉ s.outer w :=
      fun h => hw.not_mem (hsep x List.mem_cons_self) (Scan.mem_of_mem_outer h)
    have h := splitFrom_append xs hx []
    rw [List.append_nil] at h
    rw [List.nil_append, h]
    simpa [splitFrom, joinHead] using trimEnd_append_blank hw []
  | cons c t ih =>
    cases n with
    | succ n => exact ih _ (Nat.le_of_succ_le_succ hn)
    | zero =>
      have hpre := isPrefixOf_append_blank hsep hw (c :: t)
      rw [List.cons_append] at hpre ⊢
      by_cases h : (s.topLevel c && (x :: xs).isPrefixOf (c :: t)) = true
      · have hlen := length_le_of_separator h
        rw [splitFrom_cons_separator h, splitFrom_cons_separator (hpre ▸ h), List.map_cons,
          List.map_cons, ih _ hlen]
      · rw [splitFrom_cons_other h, splitFrom_cons_other (hpre ▸ h)]
        exact map_trimEnd_consHead (ih _ (Nat.zero_le _)) c

theorem map_trim_of_map_trimEnd {ps qs : List Text} (h : ps.map trimEnd = qs.map trimEnd) :
    ps.map trim = qs.map trim := by
  have hh := congrArg (List.map trim) h
  simpa only [List.map_map, Function.comp_def, trim_trimEnd] using hh

/-- Up to blanks around them, the parts do not depend on blanks around the whole. -/
theorem map_trim_splitTopLevel (hsep : ∀ c ∈ x :: xs, isBlank c = false) {u v : Text}
    (hu : Blank u) (hv : Blank v) (t : Text) :
    (splitTopLevel (x :: xs) (u ++ t ++ v)).map trim =
      (splitTopLevel (x :: xs) t).map trim := by
  have hx : x ∉ Scan.start.outer u := hu.not_mem_outer (hsep x List.mem_cons_self)
  have hend := map_trim_of_map_trimEnd
    (map_trimEnd_splitFrom (n := 0) hsep hv .start (Nat.zero_le (u ++ t).length))
  refine hend.trans ?_
  rw [splitFrom_append xs hx, hu.balanced.run_eq, splitTopLevel]
  cases hps : splitFrom (x :: xs) Scan.start 0 t with
  | nil => exact absurd hps (splitFrom_ne_nil _ _ _ _)
  | cons p ps =>
    rw [Scan.start] at hps
    rw [hps, joinHead, List.map_cons, List.map_cons, trim_blank_append hu]

end

end PageClip
