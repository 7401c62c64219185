import PageClip.Proofs.TopLevel

/-! Splitting and joining undo each other. The parts of a split are the lists that the separator
joins without showing before its own place, and a text has one such list. -/

namespace PageClip

/-- The part ends in source outside every bracket, and a separator behind it shows nowhere
earlier. -/
structure Scan.Ends (s : Scan) (sep part : Text) : Prop where
  run_eq : s.run part = .source 0
  first : ∀ q, q ++ sep <+: part ++ sep → s.run q = .source 0 → q = part

/-- Parts that a separator joins so that it shows in the whole exactly between them. -/
inductive Separated (sep : Text) : List Text → Prop where
  | last {p} : ¬ Scan.start.Shows sep p → Separated sep [p]
  | cons {p ps} : Scan.start.Ends sep p → Separated sep ps → Separated sep (p :: ps)

section join
variable {sep : Text} {ps : List Text}

theorem Separated.ne_nil (h : Separated sep ps) : ps ≠ [] := by
  cases h <;> simp

theorem joinWith_cons (h : ps ≠ []) (p : Text) :
    joinWith sep (p :: ps) = p ++ (sep ++ joinWith sep ps) := by
  rw [joinWith, List.intercalate_cons_of_ne_nil h, List.append_assoc, joinWith]

theorem joinWith_consHead (c : Char) (ps : List Text) :
    joinWith sep (consHead c ps) = c :: joinWith sep ps := by
  cases ps with
  | nil => simp [consHead, joinWith]
  | cons p ps =>
    by_cases hps : ps = []
    · simp [hps, consHead, joinWith]
    · simp [consHead, joinWith_cons hps]

/-- What is still to be passed over of a separator is missing from the parts. -/
theorem joinWith_splitFrom (s : Scan) (n : Nat) (t : Text) :
    joinWith sep (splitFrom sep s n t) = t.drop n := by
  induction t generalizing s n with
  | nil => simp [splitFrom, joinWith]
  | cons c t ih =>
    cases n with
    | succ n => simpa [splitFrom] using ih (s.step c) n
    | zero =>
      have hrest := ih (s.step c) 0
      have hkeep : joinWith sep (consHead c (splitFrom sep (s.step c) 0 t)) = c :: t := by
        rw [joinWith_consHead, hrest, List.drop_zero]
      rw [List.drop_zero]
      cases sep with
      | nil =>
        rw [splitFrom]
        split
        · show joinWith [] ([] :: consHead c (splitFrom [] (s.step c) 0 t)) = c :: t
          rw [joinWith_cons (consHead_ne_nil _ _), hkeep]
          rfl
        · exact hkeep
      | cons x xs =>
        by_cases hsep : (s.topLevel c && (x :: xs).isPrefixOf (c :: t)) = true
        · rw [splitFrom_cons_separator hsep, joinWith_cons (splitFrom_ne_nil _ _ _ _), ih]
          simp only [Bool.and_eq_true, List.isPrefixOf_iff_prefix] at hsep
          obtain ⟨rfl, r, rfl⟩ := List.cons_prefix_cons.mp hsep.2
          rw [List.drop_left]
          rfl
        · rw [splitFrom_cons_other hsep]
          exact hkeep

theorem joinWith_splitTopLevel (sep source : Text) :
    joinWith sep (splitTopLevel sep source) = source :=
  joinWith_splitFrom .start 0 source

end join

section parts
variable {x : Char} {xs sep t p : Text} {s : Scan} {ps : List Text}

theorem Scan.Ends.tail {c : Char} (h : s.Ends sep (c :: p)) : (s.step c).Ends sep p := by
  refine ⟨h.run_eq, fun q hq hrun => ?_⟩
  have hcons := h.first (c :: q) (List.cons_prefix_cons.mpr ⟨rfl, hq⟩) hrun
  exact (List.cons.inj hcons).2

theorem Scan.Ends.not_shows (h : s.Ends sep p) (hsep : sep ≠ []) : ¬ s.Shows sep p := by
  rintro ⟨q, hq, hrun⟩
  have hlen := hq.length_le
  obtain rfl := h.first q (hq.trans (List.prefix_append p sep)) hrun
  have hpos := List.length_pos_iff.mpr hsep
  rw [List.length_append] at hlen
  omega

/-- A separator that shows at all shows behind a shortest part. -/
theorem Scan.Shows.exists_ends (h : s.Shows sep t) :
    ∃ p r, t = p ++ (sep ++ r) ∧ s.Ends sep p := by
  induction t generalizing s with
  | nil =>
    obtain ⟨p, hp, hrun⟩ := h
    obtain ⟨rfl, rfl⟩ := List.append_eq_nil_iff.mp (List.prefix_nil.mp hp)
    refine ⟨[], [], rfl, hrun, fun q hq _ => ?_⟩
    simpa using hq
  | cons c t ih =>
    by_cases hhere : s = .source 0 ∧ sep <+: c :: t
    · obtain ⟨rfl, r, hr⟩ := hhere
      refine ⟨[], r, hr.symm, rfl, fun q hq _ => ?_⟩
      have hlen := hq.length_le
      rw [List.length_append, List.nil_append] at hlen
      exact List.length_eq_zero_iff.mp (by omega)
    · obtain ⟨p, hp, hrun⟩ := h
      have hlater : (s.step c).Shows sep t := by
        cases p with
        | nil => exact absurd ⟨hrun, hp⟩ hhere
        | cons y p =>
          obtain ⟨rfl, hrest⟩ := List.cons_prefix_cons.mp hp
          exact ⟨p, hrest, hrun⟩
      obtain ⟨p, r, rfl, hends⟩ := ih hlater
      refine ⟨c :: p, r, rfl, hends.run_eq, fun q hq hrun => ?_⟩
      cases q with
      | nil =>
        have hpre : sep <+: c :: (p ++ (sep ++ r)) := by
          refine List.IsPrefix.trans hq ?_
          simp
        exact absurd ⟨hrun, hpre⟩ hhere
      | cons y q =>
        obtain ⟨rfl, hrest⟩ := List.cons_prefix_cons.mp hq
        rw [hends.first q hrest hrun]

theorem Scan.Ends.splitFrom (hsep : ∀ c ∈ x :: xs, isOrdinary c = true)
    (h : s.Ends (x :: xs) p) (b : Text) :
    PageClip.splitFrom (x :: xs) s 0 (p ++ (x :: xs ++ b)) = p :: splitTopLevel (x :: xs) b := by
  induction p generalizing s with
  | nil =>
    obtain rfl : s = .source 0 := h.run_eq
    exact splitFrom_separator hsep b
  | cons c p ih =>
    have hno : ¬ (s.topLevel c && (x :: xs).isPrefixOf (c :: (p ++ (x :: xs ++ b)))) = true := by
      intro hyes
      simp only [Bool.and_eq_true, List.isPrefixOf_iff_prefix] at hyes
      have hrun := (Scan.topLevel_eq_true.mp hyes.1).1
      have hpre : x :: xs <+: c :: p ++ x :: xs := by
        refine List.prefix_of_prefix_length_le hyes.2 ⟨b, by simp⟩ ?_
        simp only [List.length_append, List.length_cons]
        omega
      exact List.cons_ne_nil c p (h.first [] hpre hrun).symm
    rw [List.cons_append, splitFrom_cons_other hno, ih h.tail, consHead]

theorem splitTopLevel_eq_self (hsep : ∀ c ∈ x :: xs, isOrdinary c = true)
    (h : ¬ Scan.start.Shows (x :: xs) t) : splitTopLevel (x :: xs) t = [t] :=
  (splitTopLevel_eq_singleton_iff (isQuote_eq_false_of_ordinary (hsep x List.mem_cons_self))).mpr h

theorem Separated.splitTopLevel (hsep : ∀ c ∈ x :: xs, isOrdinary c = true)
    (h : Separated (x :: xs) ps) : PageClip.splitTopLevel (x :: xs) (joinWith (x :: xs) ps) = ps := by
  induction h with
  | last hp =>
    rw [joinWith, List.intercalate_singleton]
    exact splitTopLevel_eq_self hsep hp
  | @cons p ps hp hps ih =>
    rw [joinWith_cons hps.ne_nil, PageClip.splitTopLevel, hp.splitFrom hsep, ih]

theorem Separated.not_shows (h : Separated sep ps) (hsep : sep ≠ []) :
    ∀ p ∈ ps, ¬ Scan.start.Shows sep p := by
  induction h with
  | last hp => simpa using hp
  | cons hp _ ih => exact List.forall_mem_cons.mpr ⟨hp.not_shows hsep, ih⟩

theorem separated_splitTopLevel (hsep : ∀ c ∈ x :: xs, isOrdinary c = true) (t : Text) :
    Separated (x :: xs) (splitTopLevel (x :: xs) t) := by
  -- The text behind the first separator is shorter, so the induction is on the length.
  induction hn : t.length using Nat.strongRecOn generalizing t with
  | ind n ih =>
    by_cases hshows : Scan.start.Shows (x :: xs) t
    · obtain ⟨p, r, rfl, hp⟩ := hshows.exists_ends
      have hlen : r.length < n := by
        simp only [List.length_append, List.length_cons] at hn
        omega
      rw [splitTopLevel, hp.splitFrom hsep]
      exact .cons hp (ih r.length hlen r rfl)
    · rw [splitTopLevel_eq_self hsep hshows]
      exact .last hshows

end parts

/-- Joining gives back what was split, whatever the separator. When the separator holds no quote
and no bracket, no part shows it, and splitting gives back what was joined at its own places. -/
theorem splitTopLevel_joinWith (sep source : Text) :
    joinWith sep (splitTopLevel sep source) = source ∧
    (sep ≠ [] → (∀ c ∈ sep, isOrdinary c = true) →
      (∀ part ∈ splitTopLevel sep source,
        ¬ Scan.start.Shows sep part ∧ splitTopLevel sep part = [part]) ∧
      ∀ parts, Separated sep parts ↔ splitTopLevel sep (joinWith sep parts) = parts) := by
  refine ⟨joinWith_splitTopLevel sep source, fun hne hsep => ?_⟩
  cases sep with
  | nil => exact absurd rfl hne
  | cons x xs =>
    refine ⟨fun part hpart => ?_, fun parts => ⟨fun h => h.splitTopLevel hsep, fun h => ?_⟩⟩
    · have hno := (separated_splitTopLevel hsep source).not_shows hne part hpart
      exact ⟨hno, splitTopLevel_eq_self hsep hno⟩
    · have hparts := separated_splitTopLevel hsep (joinWith (x :: xs) parts)
      rwa [h] at hparts

/-- Three bars are one separator and a bar of the next part, in which a literal is left open. -/
theorem splitTopLevel_joinWith_bars :
    (∀ c ∈ "||".toList, isOrdinary c = true) ∧
    splitTopLevel "||".toList "f('(' || b)|||c'||".toList =
      ["f('(' || b)".toList, "|c'||".toList] ∧
    joinWith "||".toList ["f('(' || b)".toList, "|c'||".toList] = "f('(' || b)|||c'||".toList ∧
    Separated "||".toList ["f('(' || b)".toList, "|c'||".toList] ∧
    splitTopLevel "||".toList "|c'||".toList = ["|c'||".toList] := by
  have hbars : ∀ c ∈ "||".toList, isOrdinary c = true := forall_mem_of_all (by decide)
  have hsplit : splitTopLevel "||".toList "f('(' || b)|||c'||".toList =
      ["f('(' || b)".toList, "|c'||".toList] := by decide +kernel
  obtain ⟨hjoin, hparts⟩ := splitTopLevel_joinWith "||".toList "f('(' || b)|||c'||".toList
  obtain ⟨hsingle, hseparated⟩ := hparts (by decide) hbars
  rw [hsplit] at hjoin hsingle
  refine ⟨hbars, hsplit, hjoin, (hseparated _).mpr ?_, (hsingle _ (by simp)).2⟩
  rw [hjoin, hsplit]

end PageClip
