import PageClip.Scan
import PageClip.Proofs.Blank

/-! Depth along a scan. A balanced text leaves the scan where it found it and never goes below,
so what it does to a scan is the same wherever it stands. -/

namespace PageClip

def Scan.depth : Scan → Int
  | .source d => d
  | .literal d _ => d
  | .escape d _ => d

/-- The same place of a scan with `k` more brackets open around it. -/
def Scan.raise (k : Int) : Scan → Scan
  | .source d => .source (d + k)
  | .literal d q => .literal (d + k) q
  | .escape d q => .escape (d + k) q

/-- From this place on the depth stays at `n` or more. -/
def Scan.Above (n : Int) (s : Scan) (t : Text) : Prop := ∀ p, p <+: t → n ≤ (s.run p).depth

/-- A scan is inside a literal only behind a quote. -/
def Scan.Quoted : Scan → Prop
  | .source _ => True
  | .literal _ q => isQuote q = true
  | .escape _ q => isQuote q = true

/-- The characters met outside every string literal and bracket. -/
def Scan.outer (s : Scan) : Text → Text
  | [] => []
  | c :: t => if s.topLevel c then c :: (s.step c).outer t else (s.step c).outer t

/-- A text whose scan ends outside every string literal and bracket and closes none that was
open before. -/
structure Balanced (t : Text) : Prop where
  run_eq : Scan.start.run t = .source 0
  above : Scan.start.Above 0 t

/-- What can stand between two quotes `q`: a backslash takes the next character with it. -/
inductive LiteralBody (q : Char) : Text → Prop where
  | nil : LiteralBody q []
  | pair {c t} : LiteralBody q t → LiteralBody q ('\\' :: c :: t)
  | char {c t} : c ≠ '\\' → c ≠ q → LiteralBody q t → LiteralBody q (c :: t)

/-- The characters that a scan of source does not merely pass over. -/
def syntaxChars : List Char := ['\x27', '"', '\x60', '(', '[', '{', ')', ']', '}']

def isOrdinary (c : Char) : Bool := !isQuote c && !isOpener c && !isCloser c

theorem isOrdinary_iff {c : Char} : isOrdinary c = true ↔ c ∉ syntaxChars := by
  simp only [isOrdinary, isQuote, isOpener, isCloser, syntaxChars, Bool.and_eq_true,
    Bool.not_eq_true', Bool.or_eq_false_iff, beq_eq_false_iff_ne, List.mem_cons, List.not_mem_nil,
    or_false, not_or]
  constructor
  · rintro ⟨⟨⟨⟨h₁, h₂⟩, h₃⟩, ⟨h₄, h₅⟩, h₆⟩, ⟨h₇, h₈⟩, h₉⟩
    exact ⟨h₁, h₂, h₃, h₄, h₅, h₆, h₇, h₈, h₉⟩
  · rintro ⟨h₁, h₂, h₃, h₄, h₅, h₆, h₇, h₈, h₉⟩
    exact ⟨⟨⟨⟨h₁, h₂⟩, h₃⟩, ⟨h₄, h₅⟩, h₆⟩, ⟨h₇, h₈⟩, h₉⟩

theorem isOrdinary_of_class {p : Char → Bool} (hp : ∀ x ∈ syntaxChars, p x = false) {c : Char}
    (hc : p c = true) : isOrdinary c = true := by
  rw [isOrdinary_iff]
  intro hm
  simp [hp c hm] at hc

theorem isOrdinary_of_blank {c : Char} (hc : isBlank c = true) : isOrdinary c = true :=
  isOrdinary_of_class (p := isBlank) (forall_mem_of_all (by decide)) hc

theorem isOrdinary_of_isWordChar {c : Char} (hc : isWordChar c = true) : isOrdinary c = true :=
  isOrdinary_of_class (p := isWordChar) (forall_mem_of_all (by decide)) hc

theorem isQuote_eq_false_of_ordinary {c : Char} (hc : isOrdinary c = true) : isQuote c = false := by
  simp only [isOrdinary, Bool.and_eq_true, Bool.not_eq_true'] at hc
  exact hc.1.1

theorem Scan.step_source_ordinary {c : Char} (hc : isOrdinary c = true) (d : Int) :
    (Scan.source d).step c = .source d := by
  simp only [isOrdinary, Bool.and_eq_true, Bool.not_eq_true'] at hc
  simp [Scan.step, hc.1.1, hc.1.2, hc.2]

theorem Scan.step_source_quote {q : Char} (hq : isQuote q = true) (d : Int) :
    (Scan.source d).step q = .literal d q := by
  simp [Scan.step, hq]

theorem isOpener_iff {c : Char} : isOpener c = true ↔ c = '(' ∨ c = '[' ∨ c = '{' := by
  simp [isOpener, or_assoc]

theorem isCloser_iff {c : Char} : isCloser c = true ↔ c = ')' ∨ c = ']' ∨ c = '}' := by
  simp [isCloser, or_assoc]

theorem Scan.step_source_opener {c : Char} (hc : isOpener c = true) (d : Int) :
    (Scan.source d).step c = .source (d + 1) := by
  rcases isOpener_iff.mp hc with rfl | rfl | rfl <;> rfl

theorem Scan.step_source_closer {c : Char} (hc : isCloser c = true) (d : Int) :
    (Scan.source d).step c = .source (d - 1) := by
  rcases isCloser_iff.mp hc with rfl | rfl | rfl <;> rfl

theorem isQuote_eq_false_of_opener {c : Char} (hc : isOpener c = true) : isQuote c = false := by
  rcases isOpener_iff.mp hc with rfl | rfl | rfl <;> rfl

theorem isQuote_eq_false_of_closer {c : Char} (hc : isCloser c = true) : isQuote c = false := by
  rcases isCloser_iff.mp hc with rfl | rfl | rfl <;> rfl

theorem isBlank_of_isQuote {q : Char} (hq : isQuote q = true) : isBlank q = false := by
  cases hb : isBlank q with
  | false => rfl
  | true => simp [isQuote_eq_false_of_ordinary (isOrdinary_of_blank hb)] at hq

theorem isQuote_ne_backslash {q : Char} (hq : isQuote q = true) : q ≠ '\\' := by
  rintro rfl
  simp [isQuote] at hq

/-- Only a closer met at depth one leads out of the outermost bracket. -/
theorem Scan.one_le_depth_step {s : Scan} {c : Char} (hs : 1 ≤ s.depth)
    (hc : ¬ (s = .source 1 ∧ isCloser c = true)) : 1 ≤ (s.step c).depth := by
  cases s with
  | source d =>
    simp only [Scan.depth] at hs
    simp only [Scan.step]
    split
    · exact hs
    · split
      · simp only [Scan.depth]
        omega
      · split
        · rename_i hcl
          have hd : d ≠ 1 := by
            rintro rfl
            exact hc ⟨rfl, hcl⟩
          simp only [Scan.depth]
          omega
        · exact hs
  | literal d q =>
    simp only [Scan.step]
    split
    · exact hs
    · split <;> exact hs
  | escape d q => exact hs

section raise

theorem Scan.depth_raise (k : Int) (s : Scan) : (s.raise k).depth = s.depth + k := by
  cases s <;> rfl

theorem Scan.eq_source_of_raise {k d : Int} {s : Scan} (h : s.raise k = .source d) :
    s = .source (d - k) := by
  cases s with
  | source e =>
    simp only [Scan.raise, Scan.source.injEq] at h ⊢
    omega
  | literal e q => simp [Scan.raise] at h
  | escape e q => simp [Scan.raise] at h

theorem Scan.step_raise (k : Int) (s : Scan) (c : Char) :
    (s.raise k).step c = (s.step c).raise k := by
  cases s with
  | source d =>
    simp only [Scan.raise, Scan.step]
    split
    · rfl
    · split
      · simp only [Scan.source.injEq]
        omega
      · split
        · simp only [Scan.source.injEq]
          omega
        · rfl
  | literal d q =>
    simp only [Scan.raise, Scan.step]
    split
    · rfl
    · split <;> rfl
  | escape d q => rfl

theorem Scan.run_raise (k : Int) (s : Scan) (t : Text) :
    (s.raise k).run t = (s.run t).raise k := by
  induction t generalizing s with
  | nil => rfl
  | cons c t ih => rw [Scan.run_cons, Scan.run_cons, Scan.step_raise, ih]

theorem Scan.above_raise {k n : Int} {s : Scan} {t : Text} :
    (s.raise k).Above (n + k) t ↔ s.Above n t := by
  simp only [Scan.Above, Scan.run_raise, Scan.depth_raise]
  exact ⟨fun h p hp => by have := h p hp; omega, fun h p hp => by have := h p hp; omega⟩

end raise

section above
variable {n : Int} {s : Scan} {c : Char} {t u : Text}

theorem Scan.above_nil : s.Above n [] ↔ n ≤ s.depth := by
  simp [Scan.Above]

theorem Scan.above_cons : s.Above n (c :: t) ↔ n ≤ s.depth ∧ (s.step c).Above n t := by
  constructor
  · intro h
    exact ⟨h [] List.nil_prefix, fun p hp => h (c :: p) (List.cons_prefix_cons.mpr ⟨rfl, hp⟩)⟩
  · rintro ⟨h, hstep⟩ p hp
    rcases List.prefix_cons_iff.mp hp with rfl | ⟨p', rfl, hp'⟩
    · exact h
    · exact hstep p' hp'

instance Scan.decidableAbove (n : Int) : (s : Scan) → (t : Text) → Decidable (s.Above n t)
  | _, [] => decidable_of_iff _ Scan.above_nil.symm
  | s, c :: t =>
    have := Scan.decidableAbove n (s.step c) t
    decidable_of_iff _ Scan.above_cons.symm

theorem Scan.above_append : s.Above n (t ++ u) ↔ s.Above n t ∧ (s.run t).Above n u := by
  induction t generalizing s with
  | nil =>
    simp only [List.nil_append, Scan.run_nil, Scan.above_nil, iff_and_self]
    exact fun h => h [] List.nil_prefix
  | cons c t ih =>
    rw [List.cons_append, Scan.above_cons, ih, Scan.above_cons, Scan.run_cons, and_assoc]

end above

section outer
variable {s : Scan} {t : Text}

theorem Scan.outer_append (s : Scan) (t u : Text) :
    s.outer (t ++ u) = s.outer t ++ (s.run t).outer u := by
  induction t generalizing s with
  | nil => rfl
  | cons c t ih =>
    rw [List.cons_append, Scan.outer, Scan.outer, Scan.run_cons, ih]
    split <;> rfl

theorem Scan.topLevel_eq_true {c : Char} :
    s.topLevel c = true ↔ s = .source 0 ∧ isQuote c = false := by
  simp [Scan.topLevel]

theorem Scan.outer_of_above (h : s.Above 1 t) : s.outer t = [] := by
  induction t generalizing s with
  | nil => rfl
  | cons c t ih =>
    obtain ⟨hs, ht⟩ := Scan.above_cons.mp h
    have hc : ¬ s.topLevel c = true := by
      rw [Scan.topLevel_eq_true]
      rintro ⟨rfl, _⟩
      simp [Scan.depth] at hs
    rw [Scan.outer, if_neg hc]
    exact ih ht

theorem Scan.mem_of_mem_outer {x : Char} (h : x ∈ s.outer t) : x ∈ t := by
  induction t generalizing s with
  | nil => exact h
  | cons c t ih =>
    rw [Scan.outer] at h
    split at h
    · rcases List.mem_cons.mp h with rfl | h
      · exact List.mem_cons_self
      · exact List.mem_cons_of_mem _ (ih h)
    · exact List.mem_cons_of_mem _ (ih h)

end outer

section balanced
variable {t u : Text}

instance (t : Text) : Decidable (Balanced t) :=
  decidable_of_iff (Scan.start.run t = .source 0 ∧ Scan.start.Above 0 t)
    ⟨fun h => ⟨h.1, h.2⟩, fun h => ⟨h.run_eq, h.above⟩⟩

theorem Balanced.append (ht : Balanced t) (hu : Balanced u) : Balanced (t ++ u) := by
  refine ⟨?_, ?_⟩
  · rw [Scan.run_append, ht.run_eq]
    exact hu.run_eq
  · rw [Scan.above_append, ht.run_eq]
    exact ⟨ht.above, hu.above⟩

theorem Balanced.outer_append (ht : Balanced t) (u : Text) :
    Scan.start.outer (t ++ u) = Scan.start.outer t ++ Scan.start.outer u := by
  rw [Scan.outer_append, ht.run_eq]
  rfl

theorem Balanced.of_append (h : Balanced (t ++ u)) (ht : Balanced t) : Balanced u := by
  have hrun := h.run_eq
  have habove := (Scan.above_append.mp h.above).2
  rw [Scan.run_append, ht.run_eq] at hrun
  rw [ht.run_eq] at habove
  exact ⟨hrun, habove⟩

theorem raise_start (d : Int) : Scan.start.raise d = .source d := by
  simp [Scan.start, Scan.raise]

theorem Balanced.run_source (ht : Balanced t) (d : Int) : (Scan.source d).run t = .source d := by
  rw [← raise_start, Scan.run_raise, ht.run_eq]
  rfl

theorem Balanced.above_source (ht : Balanced t) (d : Int) : (Scan.source d).Above d t := by
  have h := (Scan.above_raise (k := d)).mpr ht.above
  rwa [raise_start, Int.zero_add] at h

theorem balanced_of_source {d : Int} (hr : (Scan.source d).run t = .source d)
    (ha : (Scan.source d).Above d t) : Balanced t := by
  rw [← raise_start] at hr ha
  refine ⟨?_, Scan.above_raise.mp (by simpa using ha)⟩
  rw [Scan.run_raise, raise_start] at hr
  simpa using Scan.eq_source_of_raise hr

/-- Whatever a balanced text holds, brackets around it hide it from the top level. -/
theorem Balanced.bracketed {o c : Char} (ht : Balanced t) (ho : isOpener o = true)
    (hc : isCloser c = true) :
    Balanced (o :: (t ++ [c])) ∧ Scan.start.outer (o :: (t ++ [c])) = [o] := by
  have hopen : Scan.start.step o = .source 1 := Scan.step_source_opener ho 0
  have hrun := ht.run_source 1
  have hclose : (Scan.source 1).step c = .source 0 := Scan.step_source_closer hc 1
  refine ⟨⟨?_, ?_⟩, ?_⟩
  · rw [Scan.run_cons, hopen, Scan.run_append, hrun, Scan.run_cons, hclose, Scan.run_nil]
  · rw [Scan.above_cons, hopen, Scan.above_append, hrun, Scan.above_cons, hclose, Scan.above_nil]
    refine ⟨by decide, fun p hp => ?_, by decide, by decide⟩
    have := ht.above_source 1 p hp
    omega
  · have htop : Scan.start.topLevel o = true :=
      Scan.topLevel_eq_true.mpr ⟨rfl, isQuote_eq_false_of_opener ho⟩
    have hin : (Scan.source 1).topLevel c = false := rfl
    rw [Scan.outer, if_pos htop, hopen, Scan.outer_append, Scan.outer_of_above (ht.above_source 1),
      hrun, Scan.outer, hin]
    rfl

theorem exists_run_source (ht : ∀ c ∈ t, isQuote c = false) (d : Int) :
    ∃ e, (Scan.source d).run t = .source e := by
  induction t generalizing d with
  | nil => exact ⟨d, rfl⟩
  | cons c t ih =>
    have hstep : ∃ e, (Scan.source d).step c = .source e := by
      rw [Scan.step, ht c List.mem_cons_self]
      split
      · contradiction
      · split
        · exact ⟨_, rfl⟩
        · split <;> exact ⟨_, rfl⟩
    obtain ⟨e, he⟩ := hstep
    rw [Scan.run_cons, he]
    exact ih (fun x hx => ht x (List.mem_cons_of_mem c hx)) e

theorem run_source_ordinary (ht : ∀ c ∈ t, isOrdinary c = true) (d : Int) :
    (Scan.source d).run t = .source d := by
  induction t with
  | nil => rfl
  | cons c t ih =>
    rw [Scan.run_cons, Scan.step_source_ordinary (ht c List.mem_cons_self)]
    exact ih fun x hx => ht x (List.mem_cons_of_mem c hx)

theorem balanced_of_ordinary (ht : ∀ c ∈ t, isOrdinary c = true) : Balanced t := by
  refine ⟨run_source_ordinary ht 0, fun p hp => ?_⟩
  have h := run_source_ordinary (fun c hc => ht c (hp.subset hc)) 0
  rw [Scan.start, h]
  decide

theorem Blank.balanced {w : Text} (hw : Blank w) : Balanced w :=
  balanced_of_ordinary fun c hc => isOrdinary_of_blank (hw c hc)

theorem Blank.not_mem_outer {w : Text} (hw : Blank w) {x : Char} (hx : isBlank x = false) :
    x ∉ Scan.start.outer w := fun h => hw.not_mem hx (Scan.mem_of_mem_outer h)

end balanced

section quoted
variable {s : Scan} {c : Char} {d : Int}

theorem Scan.Quoted.step (hs : s.Quoted) (c : Char) : (s.step c).Quoted := by
  cases s with
  | source d =>
    by_cases hq : isQuote c = true
    · rw [Scan.step_source_quote hq]
      exact hq
    · rw [Scan.step, if_neg hq]
      split
      · trivial
      · split <;> trivial
  | literal d q =>
    rw [Scan.step]
    split
    · exact hs
    · split
      · trivial
      · exact hs
  | escape d q => exact hs

theorem Scan.Quoted.run (hs : s.Quoted) (t : Text) : (s.run t).Quoted := by
  induction t generalizing s with
  | nil => exact hs
  | cons c t ih => exact ih (hs.step c)

/-- Only a quote leads from a literal into source. -/
theorem Scan.Quoted.exists_source_of_step (hs : s.Quoted) (hc : isQuote c = false)
    (h : s.step c = .source d) : ∃ e, s = .source e := by
  cases s with
  | source e => exact ⟨e, rfl⟩
  | literal e q =>
    have hq : c ≠ q := by
      rintro rfl
      simp [Scan.Quoted, hc] at hs
    rw [Scan.step, if_neg hq] at h
    split at h <;> cases h
  | escape e q => cases h

theorem Scan.Quoted.step_closer_iff (hs : s.Quoted) (hc : isCloser c = true) :
    s.step c = .source d ↔ s = .source (d + 1) := by
  constructor
  · intro h
    obtain ⟨e, rfl⟩ := hs.exists_source_of_step (isQuote_eq_false_of_closer hc) h
    rw [Scan.step_source_closer hc] at h
    have he := Scan.source.inj h
    rw [← he, Int.sub_add_cancel]
  · rintro rfl
    rw [Scan.step_source_closer hc, Int.add_sub_cancel]

/-- Blanks close no literal. -/
theorem Scan.Quoted.eq_source_of_run_blank {w : Text} (hs : s.Quoted) (hw : Blank w)
    (h : s.run w = .source d) : s = .source d := by
  induction w generalizing s with
  | nil => exact h
  | cons c w ih =>
    have hord := isOrdinary_of_blank hw.head
    have hstep := ih (hs.step c) hw.tail h
    obtain ⟨e, rfl⟩ := hs.exists_source_of_step (isQuote_eq_false_of_ordinary hord) hstep
    rwa [Scan.step_source_ordinary hord] at hstep

end quoted

section literal
variable {q : Char} {t u : Text}

theorem literalBody_of_not_mem {q : Char} (hb : '\\' ∉ t) (hq : q ∉ t) : LiteralBody q t := by
  induction t with
  | nil => exact .nil
  | cons c t ih =>
    simp only [List.mem_cons, not_or] at hb hq
    exact .char (Ne.symm hb.1) (Ne.symm hq.1) (ih hb.2 hq.2)

theorem LiteralBody.append (ht : LiteralBody q t) (hu : LiteralBody q u) :
    LiteralBody q (t ++ u) := by
  induction ht with
  | nil => exact hu
  | pair _ ih => exact .pair ih
  | char hb hq _ ih => exact .char hb hq ih

theorem LiteralBody.run_eq (ht : LiteralBody q t) (d : Int) :
    (Scan.literal d q).run t = .literal d q := by
  induction ht with
  | nil => rfl
  | pair _ ih => exact ih
  | char hb hq _ ih => rwa [Scan.run_cons, Scan.step, if_neg hb, if_neg hq]

theorem LiteralBody.above (ht : LiteralBody q t) (d : Int) : (Scan.literal d q).Above d t := by
  induction ht with
  | nil => exact Scan.above_nil.mpr (Int.le_refl d)
  | pair _ ih => exact Scan.above_cons.mpr ⟨Int.le_refl d, Scan.above_cons.mpr ⟨Int.le_refl d, ih⟩⟩
  | char hb hq _ ih =>
    rw [Scan.above_cons, Scan.step, if_neg hb, if_neg hq]
    exact ⟨Int.le_refl d, ih⟩

theorem LiteralBody.outer_eq_nil (ht : LiteralBody q t) (d : Int) :
    (Scan.literal d q).outer t = [] := by
  induction ht with
  | nil => rfl
  | pair _ ih => exact ih
  | char hb hq _ ih =>
    rw [Scan.outer, Scan.step, if_neg hb, if_neg hq]
    exact ih

/-- A string literal shows nothing to the top level. -/
theorem LiteralBody.quoted (ht : LiteralBody q t) (hq : isQuote q = true) :
    Balanced (q :: (t ++ [q])) ∧ Scan.start.outer (q :: (t ++ [q])) = [] := by
  have hopen : Scan.start.step q = .literal 0 q := Scan.step_source_quote hq 0
  have hclose : (Scan.literal 0 q).step q = .source 0 := by
    rw [Scan.step, if_neg (isQuote_ne_backslash hq), if_pos rfl]
  refine ⟨⟨?_, ?_⟩, ?_⟩
  · rw [Scan.run_cons, hopen, Scan.run_append, ht.run_eq, Scan.run_cons, hclose, Scan.run_nil]
  · rw [Scan.above_cons, hopen, Scan.above_append, ht.run_eq, Scan.above_cons, hclose,
      Scan.above_nil]
    exact ⟨by decide, ht.above 0, Int.le_refl 0, Int.le_refl 0⟩
  · have htop : Scan.start.topLevel q = false := by simp [Scan.topLevel, hq]
    have hin : (Scan.literal 0 q).topLevel q = false := rfl
    rw [Scan.outer, htop, hopen, Scan.outer_append, ht.outer_eq_nil, ht.run_eq, Scan.outer, hin]
    rfl

end literal

end PageClip
