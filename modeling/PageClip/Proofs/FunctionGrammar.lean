import PageClip.Proofs.ReturnSite

/-! Which sources are functions. A source is rejected for its outer form, or else for the returns in
its one body, or else it is read by the leftmost return whose brace is closed. -/

namespace PageClip

/-- A return that is no part of a longer word, and the index of the brace behind it. -/
structure ReturnBrace (body before : Text) (i : Nat) : Prop where
  boundary : before.getLast?.any isWordChar = false
  opens : ∃ w rest, Blank w ∧ body = before ++ "return".toList ++ w ++ '{' :: rest ∧
    i = (before ++ "return".toList ++ w).length

/-- The leftmost return whose brace is closed has the brace at `i` and the closer at `j`. -/
def FirstClosed (body : Text) (i j : Nat) : Prop :=
  ∃ before, ReturnBrace body before i ∧ findClosing body i = some j ∧
    ∀ b k, ReturnBrace body b k → b.length < before.length → findClosing body k = none

/-- The text between the brackets at two indices. -/
def between (t : Text) (i j : Nat) : Text := (t.take j).drop (i + 1)

section returns
variable {code body before object : Text} {i j : Nat}

theorem returnSite_iff_closed :
    ReturnSite body before object ↔ ∃ i j, ReturnBrace body before i ∧
      findClosing body i = some j ∧ object = between body i j := by
  constructor
  · rintro ⟨hboundary, w, rest, hw, hbody, hobject⟩
    obtain ⟨hbal, c, r, hc, rfl⟩ := objectAt?_spec hobject
    have htext : body = before ++ "return".toList ++ w ++ '{' :: (object ++ c :: r) := by
      rw [hbody]
      simp
    have hclose := findClosing_enclosed (o := '{') hbal rfl hc (before ++ "return".toList ++ w) r
    refine ⟨_, _, ⟨hboundary, w, _, hw, htext, rfl⟩, htext ▸ hclose, ?_⟩
    rw [between, htext, drop_take_enclosed]
  · rintro ⟨i, j, ⟨hboundary, w, rest, hw, hbody, rfl⟩, hclose, rfl⟩
    rw [hbody] at hclose
    obtain ⟨p, c, r, rfl, rfl, hc, hp⟩ := exists_of_findClosing rfl hclose
    have hbetween : between body (before ++ "return".toList ++ w).length
        ((before ++ "return".toList ++ w).length + 1 + p.length) = p := by
      rw [between, hbody, drop_take_enclosed]
    rw [hbetween]
    refine ⟨hboundary, w, _, hw, ?_, objectAt?_append hp hc r⟩
    rw [hbody]
    simp

theorem not_returnSite_iff :
    (∀ o, ¬ ReturnSite body before o) ↔
      ∀ i, ReturnBrace body before i → findClosing body i = none := by
  constructor
  · intro hno i hi
    rw [Option.eq_none_iff_forall_ne_some]
    intro j hj
    exact hno _ (returnSite_iff_closed.mpr ⟨i, j, hi, hj, rfl⟩)
  · intro hnone o ho
    obtain ⟨i, j, hi, hj, _⟩ := returnSite_iff_closed.mp ho
    rw [hnone i hi] at hj
    cases hj

theorem exists_returned_iff :
    (∃ before, Returned body before object) ↔
      ∃ i j, FirstClosed body i j ∧ object = between body i j := by
  constructor
  · rintro ⟨before, hsite, hfirst⟩
    obtain ⟨i, j, hi, hj, rfl⟩ := returnSite_iff_closed.mp hsite
    refine ⟨i, j, ⟨before, hi, hj, fun b k hk hlt => ?_⟩, rfl⟩
    have hno : ∀ o, ¬ ReturnSite body b o := fun o ho => absurd (hfirst b o ho) (by omega)
    exact not_returnSite_iff.mp hno k hk
  · rintro ⟨i, j, ⟨before, hi, hj, hfirst⟩, rfl⟩
    refine ⟨before, returnSite_iff_closed.mpr ⟨i, j, hi, hj, rfl⟩, fun b o hb => ?_⟩
    apply Nat.le_of_not_lt
    intro hlt
    exact not_returnSite_iff.mpr (fun k hk => hfirst b k hk hlt) o hb

theorem parseFunction_eq_invalidFormat_iff :
    parseFunction code = .error .invalidFormat ↔ ∀ body, ¬ FunctionForm (stripComments code) body := by
  constructor
  · intro h body hform
    rw [parseFunction_of_body (functionBody?_eq_some_iff.mpr hform)] at h
    cases hobject : returnedObject? false body <;> simp [hobject] at h
  · intro hno
    have hnone : functionBody? (stripComments code) = none := by
      rw [Option.eq_none_iff_forall_ne_some]
      intro body hbody
      exact hno body (functionBody?_eq_some_iff.mp hbody)
    rw [parseFunction, hnone]

theorem parseFunction_missing_or_ok (hform : FunctionForm (stripComments code) body) :
    parseFunction code = .error .missingReturn ∨ ∃ fields, parseFunction code = .ok fields := by
  rw [parseFunction_of_body (functionBody?_eq_some_iff.mpr hform)]
  cases returnedObject? false body with
  | none => exact .inl rfl
  | some object => exact .inr ⟨objectFields object, rfl⟩

theorem parseFunction_ok_iff_firstClosed (hform : FunctionForm (stripComments code) body)
    (fields : Clip Text) :
    parseFunction code = .ok fields ↔
      ∃ i j, FirstClosed body i j ∧ fields = objectFields (between body i j) := by
  have hbody := functionBody?_eq_some_iff.mpr hform
  rw [parseFunction_ok_iff]
  constructor
  · rintro ⟨other, before, object, hother, hreturned, rfl⟩
    obtain rfl := hform.eq (functionBody?_eq_some_iff.mp hother)
    obtain ⟨i, j, hfirst, rfl⟩ := exists_returned_iff.mp ⟨before, hreturned⟩
    exact ⟨i, j, hfirst, rfl⟩
  · rintro ⟨i, j, hfirst, rfl⟩
    obtain ⟨before, hreturned⟩ := exists_returned_iff.mpr ⟨i, j, hfirst, rfl⟩
    exact ⟨body, before, _, hbody, hreturned, rfl⟩

end returns

/-- A source without its comments has the form of a function or is rejected for it. The form has
one body, up to the last closing brace. Without a return in it whose brace is closed the source is
rejected for that, and with one it is read by the leftmost. -/
theorem parseFunction_grammar (code : Text) :
    (parseFunction code = .error .invalidFormat ↔
      ∀ body, ¬ FunctionForm (stripComments code) body) ∧
    ∀ body, FunctionForm (stripComments code) body →
      (∀ other, FunctionForm (stripComments code) other → other = body) ∧
      (∃ head tail, Spaced functionStart head ∧ '}' ∉ tail ∧
        stripComments code = head ++ '{' :: (body ++ '}' :: tail)) ∧
      (parseFunction code = .error .missingReturn ↔
        ∀ before i, ReturnBrace body before i → findClosing body i = none) ∧
      (parseFunction code ≠ .error .missingReturn → ∃ fields, parseFunction code = .ok fields) ∧
      ∀ fields, parseFunction code = .ok fields ↔
        ∃ i j, FirstClosed body i j ∧ fields = objectFields (between body i j) := by
  refine ⟨parseFunction_eq_invalidFormat_iff, fun body hform => ?_⟩
  have hmissing := parseFunction_eq_missingReturn_iff (functionBody?_eq_some_iff.mpr hform)
  refine ⟨fun other hother => hform.eq hother, ?_, ?_, fun hreturn => ?_,
    parseFunction_ok_iff_firstClosed hform⟩
  · obtain ⟨head, tail, hhead, htail, htext⟩ := hform
    exact ⟨head, tail, hhead, not_mem_functionEnd htail, htext⟩
  · rw [hmissing]
    exact forall_congr' fun before => not_returnSite_iff
  · exact (parseFunction_missing_or_ok hform).resolve_left hreturn

/-- The first return is passed over, and the brace in the comment ends nothing. -/
theorem parseFunction_grammar_unclosed :
    FunctionForm (stripComments
      "(page)=>\x7b return \x7b x: (1; return \x7b text: page.url \x7d \x7d // \x7d\n ;".toList)
        " return \x7b x: (1; return \x7b text: page.url \x7d ".toList ∧
    findClosing " return \x7b x: (1; return \x7b text: page.url \x7d ".toList 8 = none ∧
    ∃ i j, FirstClosed " return \x7b x: (1; return \x7b text: page.url \x7d ".toList i j ∧
      ⟨some "page.url".toList, none⟩ =
        objectFields (between " return \x7b x: (1; return \x7b text: page.url \x7d ".toList i j) := by
  have hbody : functionBody? (stripComments
      "(page)=>\x7b return \x7b x: (1; return \x7b text: page.url \x7d \x7d // \x7d\n ;".toList) =
        some " return \x7b x: (1; return \x7b text: page.url \x7d ".toList := by decide +kernel
  have hform := functionBody?_eq_some_iff.mp hbody
  have hread : parseFunction
      "(page)=>\x7b return \x7b x: (1; return \x7b text: page.url \x7d \x7d // \x7d\n ;".toList =
        .ok ⟨some "page.url".toList, none⟩ := by rfl
  obtain ⟨_, _, _, _, hfields⟩ := (parseFunction_grammar _).2 _ hform
  exact ⟨hform, by decide +kernel, (hfields _).mp hread⟩

end PageClip
