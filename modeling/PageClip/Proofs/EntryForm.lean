import PageClip.FunctionSource
import PageClip.Proofs.SpacedTokens

/-! Entries of an object: a key of word characters, bare or in quotes, a colon and an
expression. Reading an entry inverts writing it. -/

namespace PageClip

def keyQuotes : List Text := [[], ['\x27'], ['"']]

/-- An entry with this key and `r` behind the colon. -/
inductive EntryForm (key r : Text) : Text → Prop where
  | mk {u q v : Text} : Blank u → q ∈ keyQuotes → key ≠ [] → (∀ c ∈ key, isWordChar c = true) →
      Blank v → EntryForm key r (u ++ (q ++ (key ++ (q ++ (v ++ ':' :: r)))))

theorem isBlank_of_isWordChar {c : Char} (hc : isWordChar c = true) : isBlank c = false := by
  cases hb : isBlank c with
  | false => rfl
  | true => simp [isWordChar_of_blank hb] at hc

section quotes
variable {q v : Text} {c : Char}

theorem eq_of_mem_keyQuotes (hq : q ∈ keyQuotes) : q = [] ∨ q = ['\x27'] ∨ q = ['"'] := by
  simpa [keyQuotes] using hq

theorem mem_keyQuotes (hlen : q.length ≤ 1) (hq : ∀ c ∈ q, (c == '\x27' || c == '"') = true) :
    q ∈ keyQuotes := by
  match q, hlen with
  | [], _ => exact List.mem_cons_self
  | [c], _ =>
    have hc := hq c List.mem_cons_self
    rw [Bool.or_eq_true, beq_iff_eq, beq_iff_eq] at hc
    rcases hc with rfl | rfl <;> decide

theorem keyQuote_of_mem (hq : q ∈ keyQuotes) (hc : c ∈ q) : c = '\x27' ∨ c = '"' := by
  rcases eq_of_mem_keyQuotes hq with rfl | rfl | rfl
  · simp at hc
  · exact .inl (List.mem_singleton.mp hc)
  · exact .inr (List.mem_singleton.mp hc)

theorem takeWhile_keyQuote (hq : q ∈ keyQuotes) (hc : isWordChar c = true) (r : Text) :
    (q ++ c :: r).takeWhile (fun c => c == '\x27' || c == '"') = q := by
  have hstop : ∀ x, (c :: r).head? = some x → (x == '\x27' || x == '"') = false := by
    intro x hx
    obtain rfl := Option.some.inj hx
    rw [Bool.or_eq_false_iff, beq_eq_false_iff_ne, beq_eq_false_iff_ne]
    constructor
    · rintro rfl
      exact absurd hc (by decide)
    · rintro rfl
      exact absurd hc (by decide)
  refine (takeWhile_append_eq (fun x hx => ?_) hstop).1
  rcases keyQuote_of_mem hq hx with rfl | rfl <;> rfl

theorem trimStart_key (hq : q ∈ keyQuotes) (hc : isWordChar c = true) (r : Text) :
    trimStart (q ++ c :: r) = q ++ c :: r := by
  rcases eq_of_mem_keyQuotes hq with rfl | rfl | rfl
  · exact trimStart_cons (isBlank_of_isWordChar hc) r
  · exact trimStart_cons (by decide) (c :: r)
  · exact trimStart_cons (by decide) (c :: r)

/-- A key ends where its quote stands or, when it is bare, a blank or the colon. -/
theorem isWordChar_head_behind_key (hq : q ∈ keyQuotes) (hv : Blank v) (r : Text)
    (hc : (q ++ (v ++ ':' :: r)).head? = some c) : isWordChar c = false := by
  rcases eq_of_mem_keyQuotes hq with rfl | rfl | rfl
  · rcases head?_blank_append hv hc with hblank | rfl
    · exact isWordChar_of_blank hblank
    · decide
  · obtain rfl := Option.some.inj hc
    decide
  · obtain rfl := Option.some.inj hc
    decide

theorem balanced_key {key : Text} (hq : q ∈ keyQuotes) (hkey : ∀ c ∈ key, isWordChar c = true) :
    Balanced (q ++ (key ++ q)) := by
  have hmem : ∀ {x}, isWordChar x = false → x ∉ key := by
    intro x hx hm
    simp [hkey x hm] at hx
  rcases eq_of_mem_keyQuotes hq with rfl | rfl | rfl
  · rw [List.nil_append, List.append_nil]
    exact balanced_of_ordinary fun c hc => isOrdinary_of_isWordChar (hkey c hc)
  · exact ((literalBody_of_not_mem (hmem (by decide)) (hmem (by decide))).quoted rfl).1
  · exact ((literalBody_of_not_mem (hmem (by decide)) (hmem (by decide))).quoted rfl).1

theorem not_mem_entryHead {u key : Text} {x : Char} (hu : Blank u) (hq : q ∈ keyQuotes)
    (hkey : ∀ c ∈ key, isWordChar c = true) (hv : Blank v) (hblank : isBlank x = false)
    (hquote : isQuote x = false) (hword : isWordChar x = false) (hcolon : x ≠ ':') :
    x ∉ u ++ (q ++ (key ++ q) ++ (v ++ [':'])) := by
  have hq' : x ∉ q := by
    intro hx
    rcases keyQuote_of_mem hq hx with rfl | rfl <;> exact absurd hquote (by decide)
  have hkey' : x ∉ key := by
    intro hx
    simp [hkey x hx] at hword
  simp only [List.mem_append, List.mem_singleton, not_or]
  exact ⟨hu.not_mem hblank, ⟨hq', hkey', hq'⟩, hv.not_mem hblank, hcolon⟩

end quotes

section entry
variable {key r t expr : Text}

theorem EntryForm.entry? (h : EntryForm key r t) : entry? t = some (key, trim r) := by
  obtain ⟨hu, hq, hne, hkey, hv⟩ := h
  rename_i u q v
  obtain ⟨k, ks, rfl⟩ := List.exists_cons_of_ne_nil hne
  have hk := hkey k List.mem_cons_self
  have htrim : trimStart (u ++ (q ++ (k :: ks ++ (q ++ (v ++ ':' :: r))))) =
      q ++ (k :: (ks ++ (q ++ (v ++ ':' :: r)))) := by
    rw [trimStart_blank_append hu]
    exact trimStart_key hq hk _
  have hquote := takeWhile_keyQuote hq hk (ks ++ (q ++ (v ++ ':' :: r)))
  obtain ⟨hword, hrest⟩ := takeWhile_append_eq hkey
    (fun c => isWordChar_head_behind_key hq hv r (c := c))
  have hcolon : afterToken? [':'] (v ++ ':' :: r) = some r :=
    afterToken?_blank_append rfl (by decide) hv r
  have hlen : ¬ q.length > 1 := by
    rcases eq_of_mem_keyQuotes hq with rfl | rfl | rfl <;> decide
  rw [List.cons_append] at hword hrest
  simp only [PageClip.entry?, htrim, hquote, List.drop_left, hword, hrest, afterPrefix?_append,
    hcolon, List.isEmpty_cons, hlen, decide_false, Bool.or_false, Bool.false_eq_true, if_false,
    Option.bind_eq_bind, Option.bind_some]

theorem exists_of_entry? (h : entry? t = some (key, expr)) :
    ∃ r, EntryForm key r t ∧ expr = trim r := by
  obtain ⟨u, ht, hu⟩ := trimStart_spec t
  simp only [PageClip.entry?] at h
  generalize hq : (trimStart t).takeWhile (fun c => c == '\x27' || c == '"') = q at h
  have hdrop : trimStart t = q ++ (trimStart t).drop q.length :=
    (List.prefix_iff_eq_append.mp (hq ▸ List.takeWhile_prefix _)).symm
  split at h
  · simp at h
  · rename_i hcond
    simp only [Option.bind_eq_bind, Option.bind_eq_some_iff] at h
    obtain ⟨t₁, hquote, t₂, hcolon, hentry⟩ := h
    obtain ⟨hkey, rfl⟩ := Prod.mk.inj (Option.some.inj hentry)
    obtain ⟨v, hv, rfl⟩ := exists_of_afterToken? hcolon
    rw [hkey] at hcond
    simp only [Bool.or_eq_true, List.isEmpty_iff, decide_eq_true_eq, not_or] at hcond
    have hsplit := List.takeWhile_append_dropWhile (p := isWordChar)
      (l := (trimStart t).drop q.length)
    rw [hkey, eq_append_of_afterPrefix? hquote] at hsplit
    have hword : ∀ c ∈ key, isWordChar c = true := by
      rw [← hkey]
      exact List.all_eq_true.mp List.all_takeWhile
    have hmem : q ∈ keyQuotes := by
      refine mem_keyQuotes (Nat.le_of_not_gt hcond.2) ?_
      rw [← hq]
      exact List.all_eq_true.mp List.all_takeWhile
    refine ⟨t₂, ?_, rfl⟩
    rw [ht, hdrop, ← hsplit]
    exact .mk hu hmem hcond.1 hword hv

/-- What stands before the expression holds whole literals only, and neither a comma nor a
slash. -/
theorem EntryForm.exists_head (h : EntryForm key r t) :
    ∃ head, t = head ++ r ∧ Balanced head ∧ ',' ∉ head ∧ '/' ∉ head := by
  obtain ⟨hu, hq, hne, hkey, hv⟩ := h
  rename_i u q v
  refine ⟨u ++ (q ++ (key ++ q) ++ (v ++ [':'])), by simp, ?_, ?_, ?_⟩
  · have hcolon : Balanced [':'] := balanced_of_ordinary (forall_mem_of_all (by decide))
    exact hu.balanced.append ((balanced_key hq hkey).append (hv.balanced.append hcolon))
  · exact not_mem_entryHead hu hq hkey hv (by decide) (by decide) (by decide) (by decide)
  · exact not_mem_entryHead hu hq hkey hv (by decide) (by decide) (by decide) (by decide)

end entry

end PageClip
