import PageClip.Proofs.LiteralExtent
import PageClip.Proofs.ReturnSite

/-! Kinds of brackets. The scan counts brackets of all kinds together, so a returned object is
closed by the first bracket that brings the count back, whichever kind that is. -/

namespace PageClip

def SameKind (o c : Char) : Prop :=
  (o = '(' ∧ c = ')') ∨ (o = '[' ∧ c = ']') ∨ (o = '{' ∧ c = '}')

def AnyKind (o c : Char) : Prop := isOpener o = true ∧ isCloser c = true

/-- Every bracket outside string literals is closed by one that it makes a pair with. -/
inductive Nested (pair : Char → Char → Prop) : Text → Prop where
  | nil : Nested pair []
  | char {c t} : isOrdinary c = true → Nested pair t → Nested pair (c :: t)
  | literal {q s t} :
      isQuote q = true → LiteralBody q s → Nested pair t → Nested pair (q :: (s ++ q :: t))
  | bracket {o c t u} :
      pair o c → Nested pair t → Nested pair u → Nested pair (o :: (t ++ c :: u))

/-- Two brackets of a text that the scan takes for a pair. -/
def Paired (t : Text) (o c : Char) : Prop :=
  ∃ p m r, t = p ++ o :: (m ++ c :: r) ∧ (Scan.start.run p).InSource ∧ AnyKind o c ∧ Balanced m

def OneKind (t : Text) : Prop := ∀ o c, Paired t o c → SameKind o c

/-- A return with an object that the bracket `c` closes. -/
structure ClosedReturn (body before object : Text) (c : Char) : Prop where
  boundary : before.getLast?.any isWordChar = false
  written : ∃ w rest, Blank w ∧
    body = before ++ ("return".toList ++ (w ++ '{' :: (object ++ c :: rest)))
  closer : isCloser c = true
  nested : Nested AnyKind object

section nesting
variable {pair : Char → Char → Prop} {t u : Text}

theorem SameKind.anyKind {o c : Char} (h : SameKind o c) : AnyKind o c := by
  rcases h with ⟨rfl, rfl⟩ | ⟨rfl, rfl⟩ | ⟨rfl, rfl⟩ <;> exact ⟨rfl, rfl⟩

theorem ordinary_or (c : Char) :
    isOrdinary c = true ∨ isQuote c = true ∨ isOpener c = true ∨ isCloser c = true := by
  by_cases hq : isQuote c = true
  · exact .inr (.inl hq)
  · by_cases ho : isOpener c = true
    · exact .inr (.inr (.inl ho))
    · by_cases hc : isCloser c = true
      · exact .inr (.inr (.inr hc))
      · exact .inl (by simp [isOrdinary, hq, ho, hc])

theorem enclosed_append (o c : Char) (t u : Text) :
    o :: (t ++ c :: u) = o :: (t ++ [c]) ++ u := by
  rw [List.cons_append, List.append_assoc, List.singleton_append]

theorem balanced_singleton {c : Char} (hc : isOrdinary c = true) : Balanced [c] :=
  balanced_of_ordinary fun _ hx => List.mem_singleton.mp hx ▸ hc

theorem Nested.balanced (hpair : ∀ o c, pair o c → AnyKind o c) (h : Nested pair t) :
    Balanced t := by
  induction h with
  | nil => exact balanced_of_ordinary (by simp)
  | @char c t hc _ ih => exact (balanced_singleton hc).append ih
  | @literal q s t hq hs _ ih =>
    rw [enclosed_append]
    exact (hs.quoted hq).1.append ih
  | @bracket o c t u hoc _ _ iht ihu =>
    rw [enclosed_append]
    exact (iht.bracketed (hpair o c hoc).1 (hpair o c hoc).2).1.append ihu

/-- A bracket that is still open at some place is closed behind it. -/
theorem exists_closer {r : Text} (h : (Scan.source 1).run r = .source 0) :
    ∃ p c rest, r = p ++ c :: rest ∧ isCloser c = true ∧ Balanced p := by
  cases hn : closingFrom (.source 1) r with
  | none =>
    have habove := above_of_closingFrom_eq_none (by decide) hn r (List.prefix_refl r)
    rw [h] at habove
    exact absurd habove (by decide)
  | some n =>
    obtain ⟨p, c, rest, hr, _, hc, hp⟩ := exists_balanced_of_closingFrom hn
    exact ⟨p, c, rest, hr, hc, hp⟩

/-- What a balanced text opens with its first character is cut off with it. -/
theorem Balanced.cases_cons {c : Char} {r : Text} (h : Balanced (c :: r)) :
    (isOrdinary c = true ∧ Balanced r) ∨
    (∃ s u, r = s ++ c :: u ∧ isQuote c = true ∧ LiteralBody c s ∧ Balanced u) ∨
    ∃ p d u, r = p ++ d :: u ∧ AnyKind c d ∧ Balanced p ∧ Balanced u := by
  have hrun := h.run_eq
  rcases ordinary_or c with hc | hq | ho | hcl
  · have hr : Balanced r := Balanced.of_append (t := [c]) h (balanced_singleton hc)
    exact .inl ⟨hc, hr⟩
  · have hopen : Scan.start.step c = .literal 0 c := Scan.step_source_quote hq 0
    rw [Scan.run_cons, hopen] at hrun
    rcases literalBody_cases c r with hs | ⟨s, u, hs, rfl⟩ | ⟨s, hs, rfl⟩
    · rw [hs.run_eq] at hrun
      cases hrun
    · rw [enclosed_append] at h
      exact .inr (.inl ⟨s, u, rfl, hq, hs, h.of_append (hs.quoted hq).1⟩)
    · rw [hs.run_escaped] at hrun
      cases hrun
  · have hopen : Scan.start.step c = .source 1 := Scan.step_source_opener ho 0
    rw [Scan.run_cons, hopen] at hrun
    obtain ⟨p, d, u, rfl, hd, hp⟩ := exists_closer hrun
    rw [enclosed_append] at h
    exact .inr (.inr ⟨p, d, u, rfl, ⟨ho, hd⟩, hp, h.of_append (hp.bracketed ho hd).1⟩)
  · have hclose : Scan.start.step c = .source (-1) := Scan.step_source_closer hcl 0
    have hdepth := h.above [c] ⟨r, rfl⟩
    rw [Scan.run_cons, hclose] at hdepth
    exact absurd hdepth (by decide)

theorem nested_of_balanced (h : Balanced t) : Nested AnyKind t := by
  -- A pair leaves two shorter texts, its inside and the rest, so the induction is on the length.
  induction hn : t.length using Nat.strongRecOn generalizing t with
  | ind n ih =>
    have hshort : ∀ u : Text, u.length < t.length → Balanced u → Nested AnyKind u :=
      fun u hlt hu => ih u.length (hn ▸ hlt) hu rfl
    cases t with
    | nil => exact .nil
    | cons c r =>
      rcases h.cases_cons with ⟨hc, hr⟩ | ⟨s, u, rfl, hq, hs, hu⟩ | ⟨p, d, u, rfl, hcd, hp, hu⟩
      all_goals simp only [List.length_cons, List.length_append] at hshort
      · exact .char hc (hshort r (by omega) hr)
      · exact .literal hq hs (hshort u (by omega) hu)
      · exact .bracket hcd (hshort p (by omega) hp) (hshort u (by omega) hu)

theorem nested_anyKind_iff : Nested AnyKind t ↔ Balanced t :=
  ⟨fun h => h.balanced fun _ _ hoc => hoc, nested_of_balanced⟩

end nesting

section pairs
variable {t u a p m r : Text} {o c d : Char}

theorem paired_nil : ¬ Paired [] o c := by
  rintro ⟨p, m, r, h, _⟩
  simp at h

/-- Behind an opening bracket a balanced text comes to a depth that a balanced part of it alone
does not come to. -/
theorem Balanced.outgrows {x : Text} (ha : Balanced (p ++ o :: x))
    (hp : (Scan.start.run p).InSource) (ho : isOpener o = true) (hm : Balanced m) : ¬ x <+: m := by
  intro hx
  obtain ⟨k, hk⟩ := hp
  have hdepth := ha.above p ⟨o :: x, rfl⟩
  have hend := ha.run_eq
  rw [hk] at hdepth
  rw [Scan.run_append, hk, Scan.run_cons, Scan.step_source_opener ho] at hend
  have habove := hm.above_source (k + 1) x hx
  rw [hend] at habove
  simp only [Scan.depth] at hdepth habove
  omega

/-- A bracket that a balanced text opens is closed inside the text. -/
theorem Balanced.closes_inside (ha : Balanced a) (h : a ++ u = p ++ o :: (m ++ d :: r))
    (hlt : p.length < a.length) (hp : (Scan.start.run p).InSource) (ho : isOpener o = true)
    (hm : Balanced m) : ∃ r', a = p ++ o :: (m ++ d :: r') := by
  rcases List.append_eq_append_iff.mp h with ⟨x, hx, _⟩ | ⟨x, rfl, hx⟩
  · rw [hx, List.length_append] at hlt
    omega
  · cases x with
    | nil => simp at hlt
    | cons y x =>
      obtain ⟨rfl, hrest⟩ := List.cons.inj hx
      rcases List.append_eq_append_iff.mp hrest with ⟨z, rfl, hz⟩ | ⟨z, rfl, _⟩
      · cases z with
        | nil =>
          rw [List.append_nil] at ha
          exact absurd (List.prefix_refl m) (ha.outgrows hp ho hm)
        | cons e z =>
          obtain ⟨rfl, _⟩ := List.cons.inj hz
          exact ⟨z, rfl⟩
      · exact absurd ⟨z, rfl⟩ (ha.outgrows hp ho hm)

theorem Paired.within (h : Paired t o d) (hp : (Scan.start.run p).InSource) (r : Text) :
    Paired (p ++ t ++ r) o d := by
  obtain ⟨p', m, r', rfl, ⟨e, hp'⟩, hod, hm⟩ := h
  obtain ⟨k, hk⟩ := hp
  refine ⟨p ++ p', m, r' ++ r, by simp, ⟨e + k, ?_⟩, hod, hm⟩
  rw [Scan.run_append, hk, ← raise_start, Scan.run_raise, hp']
  rfl

/-- A pair stands in one of two balanced parts, never across the cut between them. -/
theorem Balanced.paired_append (ha : Balanced a) (h : Paired (a ++ u) o d) :
    Paired a o d ∨ Paired u o d := by
  obtain ⟨p, m, r, he, hp, hod, hm⟩ := h
  by_cases hlt : p.length < a.length
  · obtain ⟨r', rfl⟩ := ha.closes_inside he hlt hp hod.1 hm
    exact .inl ⟨p, m, r', rfl, hp, hod, hm⟩
  · rcases List.append_eq_append_iff.mp he with ⟨x, rfl, hu⟩ | ⟨x, rfl, hu⟩
    · rw [Scan.run_append, ha.run_eq] at hp
      exact .inr ⟨x, m, r, hu, hp, hod, hm⟩
    · obtain rfl : x = [] := by
        rw [List.length_append] at hlt
        exact List.length_eq_zero_iff.mp (by omega)
      exact .inr ⟨[], m, r, hu.symm, ⟨0, rfl⟩, hod, hm⟩

theorem not_paired_singleton : ¬ Paired [c] o d := by
  rintro ⟨p, m, r, h, _⟩
  have hlen := congrArg List.length h
  simp at hlen
  omega

theorem LiteralBody.not_paired {q : Char} {s : Text} (hs : LiteralBody q s)
    (hq : isQuote q = true) : ¬ Paired (q :: (s ++ [q])) o d := by
  rintro ⟨p, m, r, h, hp, hod, _⟩
  cases p with
  | nil =>
    obtain ⟨rfl, _⟩ := List.cons.inj h
    rw [isQuote_eq_false_of_opener hod.1] at hq
    cases hq
  | cons x p =>
    obtain ⟨rfl, hrest⟩ := List.cons.inj h
    have hopen : Scan.start.step q = .literal 0 q := Scan.step_source_quote hq 0
    rw [Scan.run_cons, hopen] at hp
    have hprefix : p <+: s := by
      rcases List.prefix_concat_iff.mp ⟨_, hrest.symm⟩ with rfl | hps
      · simp at hrest
      · exact hps
    exact hs.not_inSource hprefix 0 hp

/-- The outermost pair of a bracketed text, and the pairs inside it. -/
theorem Balanced.paired_bracketed (ht : Balanced t) (hoc : AnyKind o c)
    {o' c' : Char} (h : Paired (o :: (t ++ [c])) o' c') : (o' = o ∧ c' = c) ∨ Paired t o' c' := by
  obtain ⟨p, m, r, he, hp, hoc', hm⟩ := h
  cases p with
  | nil =>
    obtain ⟨rfl, hrest⟩ := List.cons.inj he
    have hleft := closingFrom_append (ht.above_source 1) (ht.run_source 1) hoc.2 []
    have hright := closingFrom_append (hm.above_source 1) (hm.run_source 1) hoc'.2 r
    rw [hrest, hright] at hleft
    obtain ⟨rfl, hc⟩ := List.append_inj hrest (Option.some.inj hleft).symm
    exact .inl ⟨rfl, (List.cons.inj hc).1.symm⟩
  | cons x p =>
    obtain ⟨rfl, hrest⟩ := List.cons.inj he
    have hopen : Scan.start.step o = .source 1 := Scan.step_source_opener hoc.1 0
    rw [Scan.run_cons, hopen, ← raise_start, Scan.run_raise, inSource_raise] at hp
    have hlt : p.length < t.length := by
      by_cases hge : t.length ≤ p.length
      · have hlen := congrArg List.length hrest
        simp at hlen
        omega
      · omega
    obtain ⟨r', rfl⟩ := ht.closes_inside hrest hlt hp hoc'.1 hm
    exact .inr ⟨p, m, r', rfl, hp, hoc', hm⟩

end pairs

section kinds
variable {t : Text}

theorem Nested.oneKind (h : Nested SameKind t) : OneKind t := by
  have hbalanced : ∀ {u : Text}, Nested SameKind u → Balanced u :=
    fun hu => hu.balanced fun _ _ hoc => hoc.anyKind
  intro o' c' hpaired
  induction h with
  | nil => exact absurd hpaired paired_nil
  | @char c t hc _ ih =>
    rcases Balanced.paired_append (a := [c]) (balanced_singleton hc) hpaired with h | h
    · exact absurd h not_paired_singleton
    · exact ih h
  | @literal q s t hq hs _ ih =>
    rw [enclosed_append] at hpaired
    rcases (hs.quoted hq).1.paired_append hpaired with h | h
    · exact absurd h (hs.not_paired hq)
    · exact ih h
  | @bracket o c t u hoc ht _ iht ihu =>
    rw [enclosed_append] at hpaired
    have hparens := ((hbalanced ht).bracketed hoc.anyKind.1 hoc.anyKind.2).1
    rcases hparens.paired_append hpaired with h | h
    · rcases (hbalanced ht).paired_bracketed hoc.anyKind h with ⟨rfl, rfl⟩ | h
      · exact hoc
      · exact iht h
    · exact ihu h

theorem OneKind.part {p r : Text} (h : OneKind (p ++ t ++ r)) (hp : (Scan.start.run p).InSource) :
    OneKind t := fun o c hpaired => h o c (hpaired.within hp r)

theorem Nested.sameKind (h : Nested AnyKind t) (hone : OneKind t) : Nested SameKind t := by
  induction h with
  | nil => exact .nil
  | @char c t hc ht ih =>
    have hstep : Scan.start.run [c] = .source 0 := Scan.step_source_ordinary hc 0
    refine .char hc (ih (OneKind.part (p := [c]) (r := []) ?_ ⟨0, hstep⟩))
    rwa [List.append_nil]
  | @literal q s t hq hs ht ih =>
    refine .literal hq hs (ih (OneKind.part (p := q :: (s ++ [q])) (r := []) ?_ ?_))
    · rwa [List.append_nil, ← enclosed_append]
    · exact ⟨0, (hs.quoted hq).1.run_eq⟩
  | @bracket o c t u hoc ht hu iht ihu =>
    have htb := nested_anyKind_iff.mp ht
    have hparens := (htb.bracketed hoc.1 hoc.2).1
    have hopen : Scan.start.run [o] = .source 1 := Scan.step_source_opener hoc.1 0
    have hpaired : Paired (o :: (t ++ c :: u)) o c := ⟨[], t, u, rfl, ⟨0, rfl⟩, hoc, htb⟩
    refine .bracket (hone o c hpaired) (iht (OneKind.part (p := [o]) (r := c :: u) ?_ ⟨1, hopen⟩))
      (ihu (OneKind.part (p := o :: (t ++ [c])) (r := []) ?_ ⟨0, hparens.run_eq⟩))
    · exact hone
    · rwa [List.append_nil, ← enclosed_append]

/-- A bracketed text nests by kind when every two brackets that the scan pairs in it are of one
kind. -/
theorem sameKind_nested_iff {o c : Char} (ht : Nested AnyKind t) (hoc : AnyKind o c) :
    SameKind o c ∧ Nested SameKind t ↔ OneKind (o :: (t ++ [c])) := by
  have htb := nested_anyKind_iff.mp ht
  constructor
  · rintro ⟨hkind, hnested⟩ o' c' hpaired
    rcases htb.paired_bracketed hoc hpaired with ⟨rfl, rfl⟩ | hpaired
    · exact hkind
    · exact hnested.oneKind o' c' hpaired
  · intro hone
    have hopen : Scan.start.run [o] = .source 1 := Scan.step_source_opener hoc.1 0
    refine ⟨hone o c ⟨[], t, [], rfl, ⟨0, rfl⟩, hoc, htb⟩, ht.sameKind ?_⟩
    exact OneKind.part (p := [o]) (r := [c]) hone ⟨1, hopen⟩

end kinds

section returns
variable {code body before object : Text} {c : Char}

theorem returnSite_iff_closedReturn :
    ReturnSite body before object ↔ ∃ c, ClosedReturn body before object c := by
  constructor
  · rintro ⟨hboundary, w, rest, hw, hbody, hobject⟩
    obtain ⟨hbal, c, r, hc, rfl⟩ := objectAt?_spec hobject
    exact ⟨c, hboundary, ⟨w, r, hw, hbody⟩, hc, nested_of_balanced hbal⟩
  · rintro ⟨c, hboundary, ⟨w, r, hw, hbody⟩, hc, hnested⟩
    have hbal := nested_anyKind_iff.mp hnested
    exact ⟨hboundary, w, _, hw, hbody, objectAt?_append hbal hc r⟩

end returns

/-- A function is rejected when no bracket of any kind closes the object of a return. The object
that is taken is closed by its own brace, and nests by kind, when every two brackets that the scan
pairs in it are of one kind. -/
theorem parseFunction_closer {code body : Text}
    (hbody : functionBody? (stripComments code) = some body) :
    (parseFunction code = .error .missingReturn ↔
      ∀ before object c, ¬ ClosedReturn body before object c) ∧
    ∀ fields, parseFunction code = .ok fields → ∃ before object c,
      Returned body before object ∧ ClosedReturn body before object c ∧
      fields = objectFields object ∧
      (c = '}' ∧ Nested SameKind object ↔ OneKind ('{' :: (object ++ [c]))) := by
  constructor
  · rw [parseFunction_eq_missingReturn_iff hbody]
    constructor
    · intro h before object c hclosed
      exact h before object (returnSite_iff_closedReturn.mpr ⟨c, hclosed⟩)
    · intro h before object hsite
      obtain ⟨c, hclosed⟩ := returnSite_iff_closedReturn.mp hsite
      exact h before object c hclosed
  · intro fields h
    obtain ⟨body', before, object, hbody', hreturned, rfl⟩ := parseFunction_ok_iff.mp h
    obtain rfl := Option.some.inj (hbody.symm.trans hbody')
    obtain ⟨c, hclosed⟩ := returnSite_iff_closedReturn.mp hreturned.toReturnSite
    have hkind : SameKind '{' c ↔ c = '}' := by simp [SameKind]
    refine ⟨before, object, c, hreturned, hclosed, rfl, ?_⟩
    rw [← hkind]
    exact sameKind_nested_iff hclosed.nested ⟨rfl, hclosed.closer⟩

theorem parseFunction_closer_mixed :
    parseFunction "(page) => \x7b return \x7b text: [page.url) \x7d \x7d".toList =
      .ok ⟨some "[page.url)".toList, none⟩ ∧
    ∃ before object c, Returned " return \x7b text: [page.url) \x7d ".toList before object ∧
      ClosedReturn " return \x7b text: [page.url) \x7d ".toList before object c ∧
      ⟨some "[page.url)".toList, none⟩ = objectFields object ∧
      (c = '}' ∧ Nested SameKind object ↔ OneKind ('{' :: (object ++ [c]))) := by
  have hbody : functionBody? (stripComments
      "(page) => \x7b return \x7b text: [page.url) \x7d \x7d".toList) =
        some " return \x7b text: [page.url) \x7d ".toList := by decide +kernel
  exact ⟨rfl, (parseFunction_closer hbody).2 _ rfl⟩

theorem closed_by_parenthesis :
    ¬ ∀ code fields, parseFunction code = .ok fields → ∀ body before object c,
      functionBody? (stripComments code) = some body → Returned body before object →
        ClosedReturn body before object c → c = '}' ∧ Nested SameKind object := by
  intro h
  have hspace : Blank [' '] := by simp [Blank, isBlank]
  have hnested : Nested AnyKind " text: page.title ".toList :=
    nested_of_balanced (by decide +kernel)
  have hclosed : ClosedReturn " return \x7b text: page.title ) ".toList [' ']
      " text: page.title ".toList ')' :=
    ⟨by decide, ⟨[' '], [' '], hspace, rfl⟩, rfl, hnested⟩
  have hreturned : Returned " return \x7b text: page.title ) ".toList [' ']
      " text: page.title ".toList :=
    (returnSite_iff_closedReturn.mpr ⟨_, hclosed⟩).returned (by decide +kernel)
  have hbrace := h "(page) => \x7b return \x7b text: page.title ) \x7d".toList
    ⟨some "page.title".toList, none⟩ rfl _ _ _ _ (by decide +kernel) hreturned hclosed
  exact absurd hbrace.1 (by decide)

end PageClip
