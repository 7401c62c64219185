import PageClip.Proofs.PageData
import PageClip.Proofs.TemplateParts

/-! The names of a page inside a template. A page exposes identifiers and a token takes word
characters, so a name with a combining mark or a middle dot is exposed and stands in no token. -/

namespace PageClip

section identifiers
variable {key : Text} {x : Char}

theorem not_mem_of_isIdentifier (h : isIdentifier key = true) (hstart : isIdentifierStart x = false)
    (hcontinue : isIdentifierContinue x = false) : x ∉ key := by
  cases key with
  | nil => exact List.not_mem_nil
  | cons c t =>
    obtain ⟨hc, ht⟩ := Bool.and_eq_true_iff.mp h
    intro hx
    rcases List.mem_cons.mp hx with rfl | hx
    · rw [hstart] at hc
      cases hc
    · rw [List.all_eq_true.mp ht x hx] at hcontinue
      cases hcontinue

theorem ne_nil_of_isIdentifier (h : isIdentifier key = true) : key ≠ [] := by
  rintro rfl
  cases h

/-- Among the ASCII characters the two classes are one. -/
theorem isName_of_ascii (h : isIdentifier key = true) (hascii : ∀ c ∈ key, c.toNat < 128) :
    IsName key := by
  refine ⟨ne_nil_of_isIdentifier h, ?_⟩
  cases key with
  | nil => exact fun c hc => absurd hc List.not_mem_nil
  | cons c t =>
    obtain ⟨hc, ht⟩ := Bool.and_eq_true_iff.mp h
    intro x hx
    have hlow := hascii x hx
    rw [isWordChar, if_pos hlow]
    rcases List.mem_cons.mp hx with rfl | hx
    · rw [isIdentifierStart, if_pos hlow] at hc
      simp only [Char.isAlphanum, Bool.or_eq_true] at hc ⊢
      rcases hc with hc | hc
      · exact .inl (.inl hc)
      · exact .inr hc
    · have hx := List.all_eq_true.mp ht x hx
      rwa [isIdentifierContinue, if_pos hlow] at hx

/-- Between its braces an identifier that is no name makes no token, nor do the braces make one
with a part of it. -/
theorem not_tokenIn_of_not_isName (h : isIdentifier key = true) (hname : ¬ IsName key)
    (before : Text) (raw : Bool) (name after : Text) :
    ¬ TokenIn (tokenText true key) before raw name after := by
  have hopen : '\x7b' ∉ key := not_mem_of_isIdentifier h (by decide) (by decide)
  have hclose : '\x7d' ∉ key := not_mem_of_isIdentifier h (by decide) (by decide)
  rintro ⟨hname', heq⟩
  have hinner : tokenInner true key = '&' :: (key ++ ['\x7d', '\x7d']) := by simp [tokenInner]
  rw [tokenText, hinner] at heq
  cases before with
  | nil =>
    have heq := (List.cons.inj (List.cons.inj heq).2).2
    cases raw with
    | true =>
      have hclose' : '\x7d' ∉ name := by
        intro hm
        have hword := hname'.2 _ hm
        revert hword
        decide
      have hrest : key ++ '\x7d' :: ['\x7d'] = name ++ '\x7d' :: ('\x7d' :: after) := by
        simpa [tokenInner] using heq
      have hkey := congrArg (List.takeWhile (· != '\x7d')) hrest
      rw [(cut_before hclose _).1, (cut_before hclose' _).1] at hkey
      exact hname (hkey ▸ hname')
    | false =>
      obtain ⟨c, n, rfl⟩ := List.exists_cons_of_ne_nil hname'.1
      have hamp : '&' = c := (List.cons.inj heq).1
      have hword := hname'.2 c List.mem_cons_self
      rw [← hamp] at hword
      revert hword
      decide
  | cons x b =>
    have heq := (List.cons.inj heq).2
    cases b with
    | nil =>
      have hamp : '&' = '\x7b' := (List.cons.inj (List.cons.inj heq).2).1
      revert hamp
      decide
    | cons y b =>
      have hmem : '\x7b' ∈ '&' :: (key ++ ['\x7d', '\x7d']) := by
        rw [(List.cons.inj heq).2]
        simp [tokenText]
      simp [hopen] at hmem

end identifiers

section exposed
variable {page : Page} {key value : Text}

theorem render_exposed (h : (key, value) ∈ page.templateData) :
    render (tokenText true key) page.lookup =
      if key.all isWordChar then value else tokenText true key := by
  have hid := isIdentifier_of_mem_templateData h
  split
  · rename_i hword
    rw [render_tokenText ⟨ne_nil_of_isIdentifier hid, List.all_eq_true.mp hword⟩, Segment.fill,
      lookup_of_mem_templateData h]
  · rename_i hword
    have hname : ¬ IsName key := fun hn => hword (List.all_eq_true.mpr hn.2)
    exact render_eq_self (not_tokenIn_of_not_isName hid hname) page.lookup

end exposed

/-- A name that a page exposes stands for its text in a token when all its characters are word
characters, as in ASCII they are. A token around any other name stays as it is written. -/
theorem exposed_usable_iff {page : Page} {key value : Text}
    (h : (key, value) ∈ page.templateData) :
    render (tokenText true key) page.lookup =
        (if key.all isWordChar then value else tokenText true key) ∧
      (render (tokenText true key) page.lookup = value ↔
        key.all isWordChar = true ∨ value = tokenText true key) ∧
      ((∀ c ∈ key, c.toNat < 128) → render (tokenText true key) page.lookup = value) := by
  have hrender := render_exposed h
  refine ⟨hrender, ?_, fun hascii => ?_⟩
  · rw [hrender]
    split
    · rename_i hword
      exact ⟨fun _ => .inl hword, fun _ => rfl⟩
    · rename_i hword
      exact ⟨fun heq => .inr heq.symm, fun hor => (hor.resolve_left hword).symm⟩
  · have hname := isName_of_ascii (isIdentifier_of_mem_templateData h) hascii
    rw [hrender, if_pos (List.all_eq_true.mpr hname.2)]

theorem exposed_usable_iff_middle_dot :
    ("l\u00b7l".toList, ['x']) ∈ Page.templateData
        { title := ['T'], url := ['u'], metadata := [("l\u00b7l".toList, some ['x'])] } ∧
      render (tokenText true "l\u00b7l".toList) (Page.lookup
        { title := ['T'], url := ['u'], metadata := [("l\u00b7l".toList, some ['x'])] }) =
          tokenText true "l\u00b7l".toList := by
  have hmem : ("l\u00b7l".toList, ['x']) ∈ Page.templateData
      { title := ['T'], url := ['u'], metadata := [("l\u00b7l".toList, some ['x'])] } := by
    decide +kernel
  have hword : "l\u00b7l".toList.all isWordChar = false := by decide +kernel
  obtain ⟨hrender, _, _⟩ := exposed_usable_iff hmem
  rw [hword] at hrender
  exact ⟨hmem, hrender⟩

/-- A letter with an accent of its own is an identifier, and the accent is no word character. -/
theorem accent_not_rendered :
    ¬ ∀ (page : Page) (key value : Text), (key, value) ∈ page.templateData →
      render (tokenText true key) page.lookup = value := by
  intro h
  have hmem : ("e\u0301".toList, ['x']) ∈ Page.templateData
      { title := ['T'], url := ['u'], metadata := [("e\u0301".toList, some ['x'])] } := by
    decide +kernel
  have hword : "e\u0301".toList.all isWordChar = false := by decide +kernel
  have hvalue := h _ _ _ hmem
  rw [render_exposed hmem, hword] at hvalue
  exact absurd hvalue (by decide)

end PageClip
