import PageClip.Proofs.Balance

/-! Matching brackets. The closer of a bracket stands right behind the longest balanced text
that follows the bracket, and it is the first place where a scan from the bracket is back outside
of all brackets, whatever surrounds the text. -/

namespace PageClip

/-- The bracket this far ahead leads the scan out of the outermost open bracket. -/
def Scan.ClosesAhead (s : Scan) (t : Text) (n : Nat) : Prop :=
  s.run (t.take n) = .source 1 ∧ t[n]?.any isCloser = true

/-- A scan that starts at the bracket at `i` is outside of all brackets and literals behind the
bracket at `j`. -/
structure ClosesAt (t : Text) (i j : Nat) : Prop where
  lt : i < j
  closer : t[j]?.any isCloser = true
  run_eq : Scan.start.run ((t.take (j + 1)).drop i) = .source 0

theorem closingFrom_append {s : Scan} {t : Text} {c : Char} (ht : s.Above 1 t)
    (hrun : s.run t = .source 1) (hc : isCloser c = true) (rest : Text) :
    closingFrom s (t ++ c :: rest) = some t.length := by
  induction t generalizing s with
  | nil =>
    rw [Scan.run_nil] at hrun
    simp [closingFrom, hrun, hc]
  | cons x t ih =>
    obtain ⟨_, hstep⟩ := Scan.above_cons.mp ht
    have hx : ¬ (s = .source 1 ∧ isCloser x = true) := by
      rintro ⟨rfl, hx⟩
      have h := hstep [] List.nil_prefix
      rw [Scan.step_source_closer hx] at h
      exact absurd h (by decide)
    rw [List.cons_append, closingFrom, if_neg hx, ih hstep hrun]
    rfl

/-- Until the match is found the scan stays inside the bracket. -/
theorem closingFrom_spec {s : Scan} {t : Text} {n : Nat} (hs : 1 ≤ s.depth)
    (h : closingFrom s t = some n) :
    ∃ p c rest, t = p ++ c :: rest ∧ p.length = n ∧ isCloser c = true ∧ s.Above 1 p ∧
      s.run p = .source 1 := by
  induction t generalizing s n with
  | nil => simp [closingFrom] at h
  | cons c t ih =>
    rw [closingFrom] at h
    split at h
    · rename_i hc
      obtain rfl := Option.some.inj h
      exact ⟨[], c, t, rfl, rfl, hc.2, Scan.above_nil.mpr hs, hc.1⟩
    · rename_i hc
      obtain ⟨m, hm, rfl⟩ := Option.map_eq_some_iff.mp h
      obtain ⟨p, d, rest, rfl, hp, hd, habove, hrun⟩ := ih (Scan.one_le_depth_step hs hc) hm
      exact ⟨c :: p, d, rest, rfl, by simp [hp], hd, Scan.above_cons.mpr ⟨hs, habove⟩, hrun⟩

theorem exists_balanced_of_closingFrom {t : Text} {n : Nat}
    (h : closingFrom (.source 1) t = some n) :
    ∃ p c rest, t = p ++ c :: rest ∧ p.length = n ∧ isCloser c = true ∧ Balanced p := by
  obtain ⟨p, c, rest, ht, hp, hc, habove, hrun⟩ := closingFrom_spec (by decide) h
  exact ⟨p, c, rest, ht, hp, hc, balanced_of_source hrun habove⟩

theorem above_of_closingFrom_eq_none {s : Scan} {t : Text} (hs : 1 ≤ s.depth)
    (h : closingFrom s t = none) : s.Above 1 t := by
  induction t generalizing s with
  | nil => exact Scan.above_nil.mpr hs
  | cons c t ih =>
    rw [closingFrom] at h
    split at h
    · cases h
    · rename_i hc
      exact Scan.above_cons.mpr
        ⟨hs, ih (Scan.one_le_depth_step hs hc) (Option.map_eq_none_iff.mp h)⟩

section ahead
variable {s : Scan} {t : Text} {c : Char} {n : Nat}

theorem not_closesAhead_nil : ¬ s.ClosesAhead [] n := by
  rintro ⟨_, hc⟩
  simp at hc

theorem closesAhead_zero : s.ClosesAhead (c :: t) 0 ↔ s = .source 1 ∧ isCloser c = true := by
  simp [Scan.ClosesAhead]

theorem closesAhead_succ : s.ClosesAhead (c :: t) (n + 1) ↔ (s.step c).ClosesAhead t n := by
  simp [Scan.ClosesAhead]

theorem closingFrom_eq_some_iff :
    closingFrom s t = some n ↔ s.ClosesAhead t n ∧ ∀ m, s.ClosesAhead t m → n ≤ m := by
  induction t generalizing s n with
  | nil => simp [closingFrom, not_closesAhead_nil]
  | cons c t ih =>
    rw [closingFrom]
    by_cases hc : s = .source 1 ∧ isCloser c = true
    · rw [if_pos hc]
      have hzero : s.ClosesAhead (c :: t) 0 := closesAhead_zero.mpr hc
      constructor
      · intro h
        obtain rfl := Option.some.inj h
        exact ⟨hzero, fun m _ => Nat.zero_le m⟩
      · rintro ⟨_, hfirst⟩
        rw [Nat.le_zero.mp (hfirst 0 hzero)]
    · rw [if_neg hc]
      have hno : ¬ s.ClosesAhead (c :: t) 0 := mt closesAhead_zero.mp hc
      constructor
      · intro h
        obtain ⟨m, hm, rfl⟩ := Option.map_eq_some_iff.mp h
        obtain ⟨hcloses, hfirst⟩ := ih.mp hm
        refine ⟨closesAhead_succ.mpr hcloses, fun k hk => ?_⟩
        cases k with
        | zero => exact absurd hk hno
        | succ k => exact Nat.succ_le_succ (hfirst k (closesAhead_succ.mp hk))
      · rintro ⟨hcloses, hfirst⟩
        cases n with
        | zero => exact absurd hcloses hno
        | succ n =>
          have hrest : closingFrom (s.step c) t = some n := by
            refine ih.mpr ⟨closesAhead_succ.mp hcloses, fun k hk => ?_⟩
            exact Nat.le_of_succ_le_succ (hfirst (k + 1) (closesAhead_succ.mpr hk))
          rw [hrest]
          rfl

theorem closingFrom_eq_none_iff : closingFrom s t = none ↔ ∀ n, ¬ s.ClosesAhead t n := by
  induction t generalizing s with
  | nil => simp [closingFrom, not_closesAhead_nil]
  | cons c t ih =>
    rw [closingFrom]
    by_cases hc : s = .source 1 ∧ isCloser c = true
    · rw [if_pos hc]
      have hzero : s.ClosesAhead (c :: t) 0 := closesAhead_zero.mpr hc
      constructor
      · intro h
        cases h
      · intro h
        exact absurd hzero (h 0)
    · rw [if_neg hc, Option.map_eq_none_iff, ih]
      constructor
      · intro h n hn
        cases n with
        | zero => exact hc (closesAhead_zero.mp hn)
        | succ n => exact h n (closesAhead_succ.mp hn)
      · intro h n hn
        exact h (n + 1) (closesAhead_succ.mpr hn)

end ahead

theorem exists_append_of_getElem? {t : Text} {i : Nat} {c : Char} (h : t[i]? = some c) :
    ∃ a u, t = a ++ c :: u ∧ i = a.length := by
  obtain ⟨hi, rfl⟩ := List.getElem?_eq_some_iff.mp h
  refine ⟨t.take i, t.drop (i + 1), ?_, ?_⟩
  · rw [List.getElem_cons_drop, List.take_append_drop]
  · rw [List.length_take, Nat.min_eq_left (Nat.le_of_lt hi)]

section closes
variable {o : Char} {a u : Text}

/-- Only the text from the bracket on is read. -/
theorem findClosing_opener (ho : isOpener o = true) (a u : Text) :
    findClosing (a ++ o :: u) a.length = (closingFrom (.source 1) u).map (a.length + 1 + ·) := by
  have hno : ¬ (Scan.start = .source 1 ∧ isCloser o = true) := by
    rintro ⟨h, _⟩
    cases h
  have hopen : Scan.start.step o = .source 1 := Scan.step_source_opener ho 0
  rw [findClosing, List.drop_left, closingFrom, if_neg hno, hopen, Option.map_map]
  congr 1
  funext n
  simp only [Function.comp_apply]
  omega

theorem drop_take_opener (a u : Text) (o : Char) (n : Nat) :
    ((a ++ o :: u).take (a.length + 1 + n)).drop a.length = o :: u.take n := by
  have hlen : a.length + 1 + n - a.length = n + 1 := by omega
  rw [List.drop_take, List.drop_left, hlen, List.take_succ_cons]

theorem getElem?_opener (a u : Text) (o : Char) (n : Nat) :
    (a ++ o :: u)[a.length + 1 + n]? = u[n]? := by
  have hn : a.length + 1 + n - a.length = n + 1 := by omega
  rw [List.getElem?_append_right (by omega), hn, List.getElem?_cons_succ]

/-- The closer is the last character read, and only from depth one does it lead to depth zero. -/
theorem run_closer_iff (ho : isOpener o = true) {n : Nat} {c : Char} (hn : u[n]? = some c)
    (hc : isCloser c = true) :
    Scan.start.run (((a ++ o :: u).take (a.length + 1 + n + 1)).drop a.length) = .source 0 ↔
      (Scan.source 1).run (u.take n) = .source 1 := by
  have hopen : Scan.start.step o = .source 1 := Scan.step_source_opener ho 0
  have hquoted : ((Scan.source 1).run (u.take n)).Quoted :=
    Scan.Quoted.run (s := .source 1) trivial _
  rw [Nat.add_assoc, drop_take_opener, List.take_add_one, hn, Option.toList_some, Scan.run_cons,
    hopen, Scan.run_append, Scan.run_cons, Scan.run_nil, hquoted.step_closer_iff hc, Int.zero_add]

theorem closesAt_iff (ho : isOpener o = true) {j : Nat} :
    ClosesAt (a ++ o :: u) a.length j ↔
      ∃ n, j = a.length + 1 + n ∧ (Scan.source 1).ClosesAhead u n := by
  constructor
  · rintro ⟨hlt, hcloser, hrun⟩
    obtain ⟨n, hj⟩ := Nat.exists_eq_add_of_lt hlt
    obtain rfl : j = a.length + 1 + n := by omega
    rw [getElem?_opener] at hcloser
    obtain ⟨c, hn, hc⟩ := (Option.any_eq_true _ _).mp hcloser
    exact ⟨n, rfl, (run_closer_iff ho hn hc).mp hrun, hcloser⟩
  · rintro ⟨n, rfl, hrun, hcloser⟩
    obtain ⟨c, hn, hc⟩ := (Option.any_eq_true _ _).mp hcloser
    refine ⟨by omega, ?_, (run_closer_iff ho hn hc).mpr hrun⟩
    rw [getElem?_opener]
    exact hcloser

theorem exists_of_findClosing (ho : isOpener o = true) {j : Nat}
    (h : findClosing (a ++ o :: u) a.length = some j) :
    ∃ p c r, u = p ++ c :: r ∧ j = a.length + 1 + p.length ∧ isCloser c = true ∧ Balanced p := by
  rw [findClosing_opener ho] at h
  obtain ⟨n, hn, rfl⟩ := Option.map_eq_some_iff.mp h
  obtain ⟨p, c, r, rfl, rfl, hc, hp⟩ := exists_balanced_of_closingFrom hn
  exact ⟨p, c, r, rfl, rfl, hc, hp⟩

theorem findClosing_enclosed {c : Char} {p : Text} (hp : Balanced p) (ho : isOpener o = true)
    (hc : isCloser c = true) (a r : Text) :
    findClosing (a ++ o :: (p ++ c :: r)) a.length = some (a.length + 1 + p.length) := by
  rw [findClosing_opener ho, closingFrom_append (hp.above_source 1) (hp.run_source 1) hc]
  rfl

theorem findClosing_bracketed {c : Char} {p : Text} (hp : Balanced p) (ho : isOpener o = true)
    (hc : isCloser c = true) (r : Text) :
    findClosing (o :: (p ++ c :: r)) 0 = some (p.length + 1) := by
  have h := findClosing_enclosed hp ho hc [] r
  rwa [List.length_nil, Nat.zero_add, Nat.add_comm] at h

theorem drop_take_enclosed (a p r : Text) (o : Char) :
    ((a ++ o :: (p ++ r)).take (a.length + 1 + p.length)).drop (a.length + 1) = p := by
  rw [← List.drop_drop, drop_take_opener, List.take_left]
  rfl

theorem findClosing_eq_some_iff (ho : isOpener o = true) {j : Nat} :
    findClosing (a ++ o :: u) a.length = some j ↔
      ClosesAt (a ++ o :: u) a.length j ∧ ∀ k, ClosesAt (a ++ o :: u) a.length k → j ≤ k := by
  rw [findClosing_opener ho, Option.map_eq_some_iff]
  constructor
  · rintro ⟨n, hn, rfl⟩
    obtain ⟨hcloses, hfirst⟩ := closingFrom_eq_some_iff.mp hn
    refine ⟨(closesAt_iff ho).mpr ⟨n, rfl, hcloses⟩, fun k hk => ?_⟩
    obtain ⟨m, rfl, hm⟩ := (closesAt_iff ho).mp hk
    exact Nat.add_le_add_left (hfirst m hm) _
  · rintro ⟨hcloses, hfirst⟩
    obtain ⟨n, rfl, hn⟩ := (closesAt_iff ho).mp hcloses
    refine ⟨n, closingFrom_eq_some_iff.mpr ⟨hn, fun m hm => ?_⟩, rfl⟩
    have hle := hfirst _ ((closesAt_iff ho).mpr ⟨m, rfl, hm⟩)
    omega

theorem findClosing_eq_none_iff (ho : isOpener o = true) :
    findClosing (a ++ o :: u) a.length = none ↔ ∀ j, ¬ ClosesAt (a ++ o :: u) a.length j := by
  rw [findClosing_opener ho, Option.map_eq_none_iff, closingFrom_eq_none_iff]
  constructor
  · intro hno j hj
    obtain ⟨n, _, hn⟩ := (closesAt_iff ho).mp hj
    exact hno n hn
  · intro hno n hn
    exact hno _ ((closesAt_iff ho).mpr ⟨n, rfl, hn⟩)

/-- Between a bracket and its closer the scan stays inside the bracket. -/
theorem one_le_depth_enclosed (ho : isOpener o = true) {p : Text} (hp : Balanced p) (r : Text)
    {k : Nat} (hk : a.length < k) (hle : k ≤ a.length + 1 + p.length) :
    1 ≤ (Scan.start.run (((a ++ o :: (p ++ r)).take k).drop a.length)).depth := by
  have hopen : Scan.start.step o = .source 1 := Scan.step_source_opener ho 0
  obtain ⟨n, hj⟩ := Nat.exists_eq_add_of_lt hk
  obtain rfl : k = a.length + 1 + n := by omega
  have htake : (p ++ r).take n = p.take n := List.take_append_of_le_length (by omega)
  rw [drop_take_opener, htake, Scan.run_cons, hopen]
  exact hp.above_source 1 _ (List.take_prefix n p)

end closes

/-- A bracket is closed at the first index behind it where the scan from it is back outside of all
brackets, if there is one. What stands between is balanced, and what stands around does not
matter. -/
theorem findClosing_matches {source : Text} {i : Nat} (hopen : source[i]?.any isOpener = true) :
    (∀ j, findClosing source i = some j ↔
      ClosesAt source i j ∧ ∀ k, ClosesAt source i k → j ≤ k) ∧
    (findClosing source i = none ↔ ∀ j, ¬ ClosesAt source i j) ∧
    ∀ j, findClosing source i = some j →
      (∀ k, i < k → k < j → 1 ≤ (Scan.start.run ((source.take k).drop i)).depth) ∧
      Balanced ((source.take j).drop (i + 1)) ∧
      ∀ p t, findClosing (p ++ source ++ t) (p.length + i) = some (p.length + j) := by
  obtain ⟨o, hi, ho⟩ := (Option.any_eq_true _ _).mp hopen
  obtain ⟨a, u, rfl, rfl⟩ := exists_append_of_getElem? hi
  refine ⟨fun j => findClosing_eq_some_iff ho, findClosing_eq_none_iff ho, fun j hj => ?_⟩
  obtain ⟨p, c, r, rfl, rfl, hc, hp⟩ := exists_of_findClosing ho hj
  refine ⟨fun k hk hlt => one_le_depth_enclosed ho hp _ hk (Nat.le_of_lt hlt), ?_, fun q t => ?_⟩
  · rwa [drop_take_enclosed]
  · have htext : q ++ (a ++ o :: (p ++ c :: r)) ++ t = q ++ a ++ o :: (p ++ c :: (r ++ t)) := by
      simp
    rw [htext, ← List.length_append, findClosing_enclosed hp ho hc, List.length_append]
    congr 1
    omega

/-- Quotes around the text are of no account, and one kind of bracket closes another. -/
theorem findClosing_matches_quoted :
    "a) [\x7b1\x7d, ')') b]".toList[3]?.any isOpener = true ∧
    findClosing "a) [\x7b1\x7d, ')') b]".toList 3 = some 12 ∧
    ClosesAt "a) [\x7b1\x7d, ')') b]".toList 3 12 ∧ Balanced "\x7b1\x7d, ')'".toList ∧
    findClosing ("'(\"".toList ++ "a) [\x7b1\x7d, ')') b]".toList ++ "'".toList) (3 + 3) =
      some (3 + 12) := by
  have hopen : "a) [\x7b1\x7d, ')') b]".toList[3]?.any isOpener = true := by decide
  have hclose : findClosing "a) [\x7b1\x7d, ')') b]".toList 3 = some 12 := by decide +kernel
  obtain ⟨hsome, _, hinside⟩ := findClosing_matches hopen
  obtain ⟨_, hbalanced, hcontext⟩ := hinside 12 hclose
  exact ⟨hopen, hclose, ((hsome 12).mp hclose).1, hbalanced, hcontext "'(\"".toList "'".toList⟩

end PageClip
