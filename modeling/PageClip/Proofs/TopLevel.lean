import PageClip.Proofs.Splitting

/-! Where a separator shows at the top level. A text is split exactly there, and a text joined to
another one by a separator is split as the two are, when the separator cannot begin earlier. -/

namespace PageClip

/-- The separator stands in the text at a place outside string literals and brackets. -/
def Scan.Shows (s : Scan) (sep t : Text) : Prop := ∃ p, p ++ sep <+: t ∧ s.run p = .source 0

section
variable {x : Char} {xs sep a t u : Text} {s : Scan}

theorem Scan.Shows.mono (h : s.Shows sep t) (htu : t <+: u) : s.Shows sep u := by
  obtain ⟨p, hp, hrun⟩ := h
  exact ⟨p, hp.trans htu, hrun⟩

theorem consHead_eq_singleton {ps : List Text} (hps : ps ≠ []) (c : Char) :
    consHead c ps = [c :: t] ↔ ps = [t] := by
  cases ps with
  | nil => exact absurd rfl hps
  | cons p ps => simp [consHead]

theorem splitFrom_eq_singleton_iff (hx : isQuote x = false) :
    splitFrom (x :: xs) s 0 t = [t] ↔ ¬ s.Shows (x :: xs) t := by
  induction t generalizing s with
  | nil =>
    have hno : ¬ s.Shows (x :: xs) [] := by
      rintro ⟨p, hp, _⟩
      have hlen := hp.length_le
      simp at hlen
    simp [splitFrom, hno]
  | cons c t ih =>
    by_cases hsep : (s.topLevel c && (x :: xs).isPrefixOf (c :: t)) = true
    · have hparts := splitFrom_cons_separator hsep
      have hyes : s.Shows (x :: xs) (c :: t) := by
        simp only [Bool.and_eq_true] at hsep
        obtain ⟨htop, hpre⟩ := hsep
        obtain ⟨rfl, _⟩ := Scan.topLevel_eq_true.mp htop
        exact ⟨[], List.isPrefixOf_iff_prefix.mp hpre, rfl⟩
      simp [hparts, hyes]
    · have hstep : s.Shows (x :: xs) (c :: t) ↔ (s.step c).Shows (x :: xs) t := by
        constructor
        · rintro ⟨p, hp, hrun⟩
          cases p with
          | nil =>
            obtain rfl : s = .source 0 := hrun
            obtain ⟨rfl, hxs⟩ := List.cons_prefix_cons.mp hp
            exact absurd (by simp [Scan.topLevel, hx, hxs]) hsep
          | cons y p =>
            obtain ⟨rfl, hp'⟩ := List.cons_prefix_cons.mp hp
            exact ⟨p, hp', hrun⟩
        · rintro ⟨p, hp, hrun⟩
          exact ⟨c :: p, List.cons_prefix_cons.mpr ⟨rfl, hp⟩, hrun⟩
      rw [splitFrom_cons_other hsep, consHead_eq_singleton (splitFrom_ne_nil _ _ _ _), ih, hstep]

theorem splitTopLevel_eq_singleton_iff (hx : isQuote x = false) :
    splitTopLevel (x :: xs) t = [t] ↔ ¬ Scan.start.Shows (x :: xs) t :=
  splitFrom_eq_singleton_iff hx

/-- A character that the separator does not hold joins no two parts to one. -/
theorem not_shows_append {y : Char} (hy : isOrdinary y = true) (hsep : y ∉ x :: xs)
    (hrun : Scan.start.run a = .source 0) (ha : ¬ Scan.start.Shows (x :: xs) a)
    (hu : ¬ Scan.start.Shows (x :: xs) u) : ¬ Scan.start.Shows (x :: xs) (a ++ y :: u) := by
  rintro ⟨p, ⟨r, hr⟩, hp⟩
  rw [List.append_assoc] at hr
  rcases List.append_eq_append_iff.mp hr with ⟨d, hd, hrest⟩ | ⟨d, rfl, hrest⟩
  · rcases List.append_eq_append_iff.mp hrest with ⟨e, rfl, _⟩ | ⟨e, he, hyu⟩
    · exact ha ⟨p, ⟨e, by rw [hd]; simp⟩, hp⟩
    · cases e with
      | nil => exact ha ⟨p, ⟨[], by rw [hd, he]; simp⟩, hp⟩
      | cons z e =>
        obtain ⟨rfl, _⟩ := List.cons.inj hyu
        exact hsep (by rw [he]; simp)
  · cases d with
    | nil =>
      obtain ⟨rfl, _⟩ := List.cons.inj hrest
      exact hsep List.mem_cons_self
    | cons z d =>
      obtain ⟨rfl, hu'⟩ := List.cons.inj hrest
      have hstep : (Scan.source 0).step y = .source 0 := Scan.step_source_ordinary hy 0
      rw [Scan.run_append, hrun, Scan.run_cons, hstep] at hp
      exact hu ⟨d, ⟨r, by rw [List.append_assoc, hu']; rfl⟩, hp⟩

/-- What a text starts with does not depend on what follows it, when it ends in no character that
the separator goes on behind. -/
theorem isPrefixOf_append_of_last (ha : a ≠ [])
    (hlast : ∀ c, a.getLast? = some c → c ∉ sep.dropLast) (b : Text) :
    sep.isPrefixOf (a ++ b) = sep.isPrefixOf a := by
  rw [Bool.eq_iff_iff, List.isPrefixOf_iff_prefix, List.isPrefixOf_iff_prefix]
  constructor
  · intro h
    by_cases hlen : sep.length ≤ a.length
    · exact List.prefix_of_prefix_length_le h (List.prefix_append a b) hlen
    · obtain ⟨r, rfl⟩ := List.prefix_of_prefix_length_le (List.prefix_append a b) h (by omega)
      have hr : r ≠ [] := by
        rintro rfl
        simp at hlen
      refine absurd ?_ (hlast (a.getLast ha) (List.getLast?_eq_some_getLast ha))
      rw [List.dropLast_append_of_ne_nil hr]
      exact List.mem_append_left _ (List.getLast_mem ha)
  · intro h
    exact h.trans (List.prefix_append a b)

theorem splitFrom_join (hsep : ∀ c ∈ x :: xs, isOrdinary c = true) {n : Nat} (hn : n ≤ a.length)
    (hrun : s.run a = .source 0) (hlast : ∀ c, a.getLast? = some c → c ∉ (x :: xs).dropLast)
    (b : Text) :
    splitFrom (x :: xs) s n (a ++ (x :: xs ++ b)) =
      splitFrom (x :: xs) s n a ++ splitTopLevel (x :: xs) b := by
  -- A separator found inside the left text ends there too, so what is skipped never reaches
  -- the one between the texts.
  induction a generalizing s n with
  | nil =>
    obtain rfl : n = 0 := Nat.le_zero.mp hn
    obtain rfl : s = .source 0 := hrun
    exact splitFrom_separator hsep b
  | cons c a ih =>
    have hlast' : ∀ d, a.getLast? = some d → d ∉ (x :: xs).dropLast := by
      intro d hd
      apply hlast
      rw [List.getLast?_cons, hd]
      rfl
    cases n with
    | succ n => exact ih (Nat.le_of_succ_le_succ hn) hrun hlast'
    | zero =>
      have hpre := isPrefixOf_append_of_last (List.cons_ne_nil c a) hlast (x :: xs ++ b)
      rw [List.cons_append] at hpre
      rw [List.cons_append]
      by_cases h : (s.topLevel c && (x :: xs).isPrefixOf (c :: a)) = true
      · have hlen := length_le_of_separator h
        rw [splitFrom_cons_separator h, splitFrom_cons_separator (hpre ▸ h), ih hlen hrun hlast',
          List.cons_append]
      · rw [splitFrom_cons_other h, splitFrom_cons_other (hpre ▸ h),
          ih (Nat.zero_le _) hrun hlast']
        cases hps : splitFrom (x :: xs) (s.step c) 0 a with
        | nil => exact absurd hps (splitFrom_ne_nil _ _ _ _)
        | cons p ps => rfl

theorem splitTopLevel_join (hsep : ∀ c ∈ x :: xs, isOrdinary c = true)
    (hrun : Scan.start.run a = .source 0)
    (hlast : ∀ c, a.getLast? = some c → c ∉ (x :: xs).dropLast) (b : Text) :
    splitTopLevel (x :: xs) (a ++ (x :: xs ++ b)) =
      splitTopLevel (x :: xs) a ++ splitTopLevel (x :: xs) b :=
  splitFrom_join hsep (Nat.zero_le _) hrun hlast b

end

end PageClip
