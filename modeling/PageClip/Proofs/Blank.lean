import PageClip.CharacterClass

/-! Blanks at the ends of a text. Trimming takes off exactly these, and no blank is a word
character. -/

namespace PageClip

def Blank (w : Text) : Prop := ∀ c ∈ w, isBlank c = true

theorem Blank.nil : Blank [] := fun _ h => absurd h (List.not_mem_nil)

theorem Blank.append {u v : Text} (hu : Blank u) (hv : Blank v) : Blank (u ++ v) :=
  fun c hc => (List.mem_append.mp hc).elim (hu c) (hv c)

theorem Blank.head {c : Char} {w : Text} (h : Blank (c :: w)) : isBlank c = true :=
  h c List.mem_cons_self

theorem Blank.tail {c : Char} {w : Text} (h : Blank (c :: w)) : Blank w :=
  fun x hx => h x (List.mem_cons_of_mem c hx)

theorem Blank.reverse {w : Text} (h : Blank w) : Blank w.reverse :=
  fun c hc => h c (List.mem_reverse.mp hc)

theorem ne_of_blank {c x : Char} (hc : isBlank c = true) (hx : isBlank x = false) : c ≠ x := by
  rintro rfl
  simp [hc] at hx

theorem Blank.not_mem {w : Text} {x : Char} (h : Blank w) (hx : isBlank x = false) : x ∉ w :=
  fun hm => ne_of_blank (h x hm) hx rfl

theorem head?_blank_append {w : Text} (hw : Blank w) {x c : Char} {r : Text}
    (h : (w ++ x :: r).head? = some c) : isBlank c = true ∨ c = x := by
  cases w with
  | nil => exact .inr (Option.some.inj h).symm
  | cons b w =>
    obtain rfl := Option.some.inj h
    exact .inl hw.head

/-- A fact about the characters of a fixed text is decided along the text. -/
theorem forall_mem_of_all {p : Char → Prop} [DecidablePred p] {t : Text}
    (h : t.all (fun c => decide (p c)) = true) : ∀ c ∈ t, p c := by
  simpa only [List.all_eq_true, decide_eq_true_eq] using h

def blankCodes : List Nat :=
  [9, 10, 11, 12, 13, 28, 29, 30, 31, 32, 0x85, 0xa0, 0x1680, 0x2000, 0x2001, 0x2002, 0x2003,
    0x2004, 0x2005, 0x2006, 0x2007, 0x2008, 0x2009, 0x200a, 0x2028, 0x2029, 0x202f, 0x205f, 0x3000]

theorem mem_blankCodes {c : Char} (h : isBlank c = true) : c.toNat ∈ blankCodes := by
  simp only [isBlank, Bool.or_eq_true, Bool.and_eq_true, decide_eq_true_eq, beq_iff_eq] at h
  simp only [blankCodes, List.mem_cons, List.not_mem_nil, or_false]
  omega

/-- The table of word characters has a gap at every blank. -/
theorem isWordChar_of_blank {c : Char} (h : isBlank c = true) : isWordChar c = false := by
  have hall : ∀ n ∈ blankCodes, isWordChar (Char.ofNat n) = false := by decide +kernel
  simpa only [Char.ofNat_toNat] using hall c.toNat (mem_blankCodes h)

theorem takeWhile_append_eq {p : Char → Bool} {a b : Text} (ha : ∀ c ∈ a, p c = true)
    (hb : ∀ c, b.head? = some c → p c = false) :
    (a ++ b).takeWhile p = a ∧ (a ++ b).dropWhile p = b := by
  rw [List.takeWhile_append_of_pos ha, List.dropWhile_append_of_pos ha]
  cases b with
  | nil => simp
  | cons c b => simp [hb c rfl]

theorem cut_before {x : Char} {a : Text} (h : x ∉ a) (b : Text) :
    (a ++ x :: b).takeWhile (· != x) = a ∧ (a ++ x :: b).dropWhile (· != x) = x :: b := by
  refine takeWhile_append_eq (fun c hc => ?_) (fun c hc => ?_)
  · rw [bne_iff_ne]
    rintro rfl
    exact h hc
  · obtain rfl := Option.some.inj hc
    simp

/-- A character that is not in the first part of a text stands behind it. -/
theorem exists_append_of_not_mem {x : Char} {a b before after : Text} (hx : x ∉ a)
    (h : a ++ b = before ++ x :: after) : ∃ d, before = a ++ d ∧ b = d ++ x :: after := by
  rcases List.append_eq_append_iff.mp h with ⟨d, hbefore, hb⟩ | ⟨d, rfl, hafter⟩
  · exact ⟨d, hbefore, hb⟩
  · cases d with
    | nil => exact ⟨[], by simp, hafter.symm⟩
    | cons y d =>
      obtain ⟨rfl, _⟩ := List.cons.inj hafter
      exact absurd (by simp) hx

theorem dropWhile_blank_append {w : Text} (hw : Blank w) (t : Text) :
    (w ++ t).dropWhile isBlank = t.dropWhile isBlank := by
  induction w with
  | nil => rfl
  | cons c w ih =>
    rw [List.cons_append, List.dropWhile_cons, if_pos hw.head]
    exact ih hw.tail

theorem trimStart_blank_append {w : Text} (hw : Blank w) (t : Text) :
    trimStart (w ++ t) = trimStart t := dropWhile_blank_append hw t

theorem trimStart_cons {c : Char} (hc : isBlank c = false) (t : Text) :
    trimStart (c :: t) = c :: t := by
  simp [trimStart, hc]

theorem trimStart_eq_nil {w : Text} (hw : Blank w) : trimStart w = [] := by
  simpa [trimStart] using dropWhile_blank_append hw []

theorem trimEnd_append_blank {w : Text} (hw : Blank w) (t : Text) :
    trimEnd (t ++ w) = trimEnd t := by
  rw [trimEnd, List.reverse_append, dropWhile_blank_append hw.reverse]
  rfl

theorem trimEnd_append_singleton {c : Char} (hc : isBlank c = false) (t : Text) :
    trimEnd (t ++ [c]) = t ++ [c] := by
  simp [trimEnd, hc]

theorem blank_or_cons (t : Text) :
    Blank t ∨ ∃ w c r, t = w ++ c :: r ∧ Blank w ∧ isBlank c = false := by
  induction t with
  | nil => exact .inl Blank.nil
  | cons c t ih =>
    cases hc : isBlank c with
    | false => exact .inr ⟨[], c, t, rfl, Blank.nil, hc⟩
    | true =>
      rcases ih with hb | ⟨w, d, r, rfl, hw, hd⟩
      · exact .inl (List.forall_mem_cons.mpr ⟨hc, hb⟩)
      · exact .inr ⟨c :: w, d, r, rfl, List.forall_mem_cons.mpr ⟨hc, hw⟩, hd⟩

theorem blank_or_append_singleton (t : Text) :
    Blank t ∨ ∃ r c w, t = r ++ c :: w ∧ Blank w ∧ isBlank c = false := by
  rcases blank_or_cons t.reverse with h | ⟨w, c, r, ht, hw, hc⟩
  · exact .inl (by simpa using h.reverse)
  · refine .inr ⟨r.reverse, c, w.reverse, ?_, hw.reverse, hc⟩
    have ht' := congrArg List.reverse ht
    simpa using ht'

theorem trimEnd_spec (t : Text) : ∃ v, t = trimEnd t ++ v ∧ Blank v := by
  rcases blank_or_append_singleton t with ht | ⟨r, c, w, rfl, hw, hc⟩
  · have hnil : trimEnd t = [] := trimEnd_append_blank ht []
    exact ⟨t, by rw [hnil]; rfl, ht⟩
  · have hs : r ++ c :: w = r ++ [c] ++ w := by simp
    exact ⟨w, by rw [hs, trimEnd_append_blank hw, trimEnd_append_singleton hc], hw⟩

theorem trimEnd_cons_congr {t u : Text} (h : trimEnd t = trimEnd u) (c : Char) :
    trimEnd (c :: t) = trimEnd (c :: u) := by
  obtain ⟨v, ht, hv⟩ := trimEnd_spec t
  obtain ⟨w, hu, hw⟩ := trimEnd_spec u
  rw [ht, hu, h, ← List.cons_append, ← List.cons_append, trimEnd_append_blank hv,
    trimEnd_append_blank hw]

theorem trim_blank_append {u : Text} (hu : Blank u) (t : Text) : trim (u ++ t) = trim t := by
  rw [trim, trimStart_blank_append hu, trim]

theorem trim_append_blank {v : Text} (hv : Blank v) (t : Text) : trim (t ++ v) = trim t := by
  rcases blank_or_cons t with ht | ⟨w, c, r, rfl, hw, hc⟩
  · rw [trim, trim, trimStart_eq_nil ht, trimStart_eq_nil (ht.append hv)]
  · have hs : w ++ c :: r ++ v = w ++ (c :: (r ++ v)) := by simp
    rw [hs, trim_blank_append hw, trim_blank_append hw, trim, trim, trimStart_cons hc,
      trimStart_cons hc, ← List.cons_append, trimEnd_append_blank hv]

theorem trim_trimEnd (t : Text) : trim (trimEnd t) = trim t := by
  obtain ⟨v, ht, hv⟩ := trimEnd_spec t
  rw [← trim_append_blank hv, ← ht]

theorem trim_padded {u v : Text} (hu : Blank u) (hv : Blank v) (t : Text) :
    trim (u ++ t ++ v) = trim t := by
  rw [trim_append_blank hv, trim_blank_append hu]

theorem trim_of_blank {w : Text} (hw : Blank w) : trim w = [] := by
  rw [trim, trimStart_eq_nil hw]
  rfl

/-- Nothing is taken off a text that neither starts nor ends with a blank. -/
def Trimmed (t : Text) : Prop :=
  (∀ c, t.head? = some c → isBlank c = false) ∧ ∀ c, t.getLast? = some c → isBlank c = false

instance (t : Text) : Decidable (Trimmed t) :=
  decidable_of_iff ((t.head?.all fun c => !isBlank c) && t.getLast?.all fun c => !isBlank c) <| by
    simp [Trimmed, Option.all_eq_true]

theorem Trimmed.trim_eq {t : Text} (h : Trimmed t) : trim t = t := by
  cases t with
  | nil => rfl
  | cons c r =>
    have hc := h.1 c rfl
    rcases blank_or_append_singleton (c :: r) with hb | ⟨p, d, w, he, hw, hd⟩
    · simp [hb.head] at hc
    · rw [trim, trimStart_cons hc, he]
      cases w with
      | nil => exact trimEnd_append_singleton hd p
      | cons x w =>
        have hx := h.2 ((x :: w).getLast (by simp)) (by simp [he, List.getLast?_eq_some_getLast])
        rw [hw _ (List.getLast_mem _)] at hx
        exact absurd hx (by simp)

/-- What trimming takes off at the two ends is blank, and what it leaves is trimmed. -/
theorem trim_spec (t : Text) :
    ∃ u v, t = u ++ trim t ++ v ∧ Blank u ∧ Blank v ∧ Trimmed (trim t) := by
  rcases blank_or_cons t with ht | ⟨u, c, r, rfl, hu, hc⟩
  · exact ⟨t, [], by simp [trim_of_blank ht], ht, Blank.nil, by simp [Trimmed, trim_of_blank ht]⟩
  · rcases blank_or_append_singleton (c :: r) with hb | ⟨p, d, v, he, hv, hd⟩
    · simp [hb.head] at hc
    · have htrim : trim (u ++ c :: r) = p ++ [d] := by
        have hs : p ++ d :: v = p ++ [d] ++ v := by simp
        rw [trim_blank_append hu, trim, trimStart_cons hc, he, hs, trimEnd_append_blank hv,
          trimEnd_append_singleton hd]
      refine ⟨u, v, by rw [htrim, he]; simp, hu, hv, ?_, ?_⟩
      · intro x hx
        have hh : (c :: r).head? = (p ++ [d]).head? := by rw [he]; cases p <;> rfl
        rw [htrim, ← hh] at hx
        simpa [← Option.some.inj hx] using hc
      · intro x hx
        rw [htrim, List.getLast?_append] at hx
        simpa [← Option.some.inj hx] using hd

theorem trim_trim (t : Text) : trim (trim t) = trim t := by
  obtain ⟨u, v, _, _, _, h⟩ := trim_spec t
  exact h.trim_eq

end PageClip
