import PageClip.Proofs.CommentFree
import PageClip.Proofs.FunctionParts

/-! Where the returned object is found. The search goes by the word, the blanks and the closed
object behind it, and does not ask whether the word stands in source or in a string literal. -/

namespace PageClip

/-- A return that is no part of a longer word, and the inside of the closed object behind it. -/
structure ReturnSite (body before object : Text) : Prop where
  boundary : before.getLast?.any isWordChar = false
  closes : ∃ w rest, Blank w ∧ body = before ++ ("return".toList ++ (w ++ rest)) ∧
    objectAt? rest = some object

/-- The return that a function is read by. -/
structure Returned (body before object : Text) : Prop extends ReturnSite body before object where
  first : ∀ b o, ReturnSite body b o → before.length ≤ b.length

/-- The inside of the object of a return at the head of the text. -/
def returnAt? (t : Text) : Option Text :=
  ((afterPrefix? "return".toList t).map trimStart).bind objectAt?

theorem returnedObject?_cons (afterWord : Bool) (c : Char) (t : Text) :
    returnedObject? afterWord (c :: t) =
      (if afterWord then none else returnAt? (c :: t)).or (returnedObject? (isWordChar c) t) := by
  rw [returnedObject?, returnAt?]
  cases (if afterWord then none else
    ((afterPrefix? "return".toList (c :: t)).map trimStart).bind objectAt?) <;> rfl

theorem trimStart_of_objectAt? {t o : Text} (h : objectAt? t = some o) : trimStart t = t := by
  obtain ⟨_, c, rest, _, rfl⟩ := objectAt?_spec h
  exact trimStart_cons (by decide) _

theorem returnAt?_eq_some_iff {t o : Text} :
    returnAt? t = some o ↔
      ∃ w rest, Blank w ∧ t = "return".toList ++ (w ++ rest) ∧ objectAt? rest = some o := by
  constructor
  · intro h
    obtain ⟨r, hr, ho⟩ := Option.bind_eq_some_iff.mp h
    obtain ⟨r', hreturn, rfl⟩ := Option.map_eq_some_iff.mp hr
    obtain ⟨w, hw, hblank⟩ := trimStart_spec r'
    refine ⟨w, trimStart r', hblank, ?_, ho⟩
    rw [← hw]
    exact eq_append_of_afterPrefix? hreturn
  · rintro ⟨w, rest, hw, rfl, ho⟩
    rw [returnAt?, afterPrefix?_append, Option.map_some, trimStart_blank_append hw,
      trimStart_of_objectAt? ho, Option.bind_some, ho]

section search
variable {body passed t before object b o : Text}

theorem returnSite_iff :
    ReturnSite body before object ↔ before.getLast?.any isWordChar = false ∧
      ∃ t, body = before ++ t ∧ returnAt? t = some object := by
  constructor
  · rintro ⟨hboundary, w, rest, hw, hbody, ho⟩
    exact ⟨hboundary, _, hbody, returnAt?_eq_some_iff.mpr ⟨w, rest, hw, rfl, ho⟩⟩
  · rintro ⟨hboundary, t, rfl, hreturn⟩
    obtain ⟨w, rest, hw, rfl, ho⟩ := returnAt?_eq_some_iff.mp hreturn
    exact ⟨hboundary, w, rest, hw, rfl, ho⟩

theorem ReturnSite.before_prefix (h : ReturnSite body before object) : before <+: body := by
  obtain ⟨_, t, ht, _⟩ := returnSite_iff.mp h
  exact ⟨t, ht.symm⟩

theorem returnSite_passed_iff :
    ReturnSite (passed ++ t) passed o ↔
      (if passed.getLast?.any isWordChar then none else returnAt? t) = some o := by
  rw [returnSite_iff]
  cases passed.getLast?.any isWordChar with
  | true => simp
  | false => simp

/-- A site behind the text passed so far is either right here or behind one more character. -/
theorem ReturnSite.cases_cons {c : Char} (h : ReturnSite (passed ++ c :: t) (passed ++ b) o) :
    b = [] ∨ ∃ b', b = c :: b' := by
  cases b with
  | nil => exact .inl rfl
  | cons x b =>
    obtain ⟨r, hr⟩ := h.before_prefix
    have hcons : x :: (b ++ r) = c :: t := by simpa using hr
    exact .inr ⟨b, by rw [(List.cons.inj hcons).1]⟩

theorem not_returnSite_nil : ¬ ReturnSite passed (passed ++ b) o := by
  intro h
  obtain ⟨_, w, rest, _, hbody, _⟩ := h
  have hlen := congrArg List.length hbody
  simp at hlen

/-- The search runs over what is left of the body, and what was passed tells whether a word goes
on there. It stops at the first site, if there is one. -/
theorem returnedObject?_eq_some_iff :
    returnedObject? (passed.getLast?.any isWordChar) t = some object ↔
      ∃ before, ReturnSite (passed ++ t) (passed ++ before) object ∧
        ∀ b o, ReturnSite (passed ++ t) (passed ++ b) o → before.length ≤ b.length := by
  induction t generalizing passed with
  | nil =>
    rw [List.append_nil]
    constructor
    · intro h
      cases h
    · rintro ⟨before, h, _⟩
      exact absurd h not_returnSite_nil
  | cons c t ih =>
    have hstep : (passed ++ [c]).getLast?.any isWordChar = isWordChar c := by simp
    have happend : ∀ u : Text, passed ++ [c] ++ u = passed ++ c :: u := fun u => by simp
    have ih := @ih (passed ++ [c])
    simp only [hstep, happend] at ih
    rw [returnedObject?_cons]
    cases here : (if passed.getLast?.any isWordChar then none else returnAt? (c :: t)) with
    | some found =>
      have hsite : ReturnSite (passed ++ c :: t) passed found := returnSite_passed_iff.mpr here
      rw [Option.some_or]
      constructor
      · intro h
        obtain rfl := Option.some.inj h
        exact ⟨[], by simpa using hsite, fun _ _ _ => Nat.zero_le _⟩
      · rintro ⟨before, h, hfirst⟩
        have hnil : before = [] := by
          have hle := hfirst [] found (by simpa using hsite)
          exact List.length_eq_zero_iff.mp (Nat.le_zero.mp hle)
        rw [hnil, List.append_nil] at h
        rw [← here]
        exact returnSite_passed_iff.mp h
    | none =>
      have hno : ∀ o, ¬ ReturnSite (passed ++ c :: t) passed o := by
        intro o h
        rw [returnSite_passed_iff, here] at h
        cases h
      rw [Option.none_or, ih]
      constructor
      · rintro ⟨before, h, hfirst⟩
        refine ⟨c :: before, h, fun b o hb => ?_⟩
        rcases hb.cases_cons with rfl | ⟨b', rfl⟩
        · exact absurd (by simpa using hb) (hno o)
        · exact Nat.succ_le_succ (hfirst b' o hb)
      · rintro ⟨before, h, hfirst⟩
        rcases h.cases_cons with rfl | ⟨before', rfl⟩
        · exact absurd (by simpa using h) (hno object)
        · exact ⟨before', h, fun b o hb => Nat.le_of_succ_le_succ (hfirst (c :: b) o hb)⟩

theorem ReturnSite.exists_returned (h : ReturnSite body before object) :
    ∃ before object, Returned body before object := by
  induction hn : before.length using Nat.strongRecOn generalizing before object with
  | ind n ih =>
    by_cases hearlier : ∃ b o, ReturnSite body b o ∧ b.length < before.length
    · obtain ⟨b, o, hb, hlt⟩ := hearlier
      exact ih b.length (hn ▸ hlt) hb rfl
    · refine ⟨before, object, h, fun b o hb => Nat.le_of_not_lt fun hlt => ?_⟩
      exact hearlier ⟨b, o, hb, hlt⟩

theorem returnedObject?_iff_returned :
    returnedObject? false body = some object ↔ ∃ before, Returned body before object := by
  have h := @returnedObject?_eq_some_iff [] body object
  simp only [List.nil_append, List.getLast?_nil, Option.any_none] at h
  rw [h]
  constructor
  · rintro ⟨before, hsite, hfirst⟩
    exact ⟨before, hsite, hfirst⟩
  · rintro ⟨before, hsite, hfirst⟩
    exact ⟨before, hsite, hfirst⟩

/-- A return is the first one when the word does not occur before it. -/
theorem ReturnSite.returned (h : ReturnSite body before object)
    (hfirst : ∀ i < before.length, ¬ "return".toList <+: body.drop i) :
    Returned body before object := by
  refine ⟨h, fun b o hb => Nat.le_of_not_lt fun hlt => ?_⟩
  obtain ⟨_, w, rest, _, hbody, _⟩ := hb
  refine hfirst b.length hlt ⟨w ++ rest, ?_⟩
  rw [hbody, List.drop_left]

end search

theorem parseFunction_of_body {code body : Text}
    (h : functionBody? (stripComments code) = some body) :
    parseFunction code = (returnedObject? false body).elim (.error .missingReturn)
      fun object => .ok (objectFields object) := by
  simp only [parseFunction, h]
  cases returnedObject? false body with
  | none => rfl
  | some object => rfl

theorem parseFunction_eq_missingReturn_iff {code body : Text}
    (hbody : functionBody? (stripComments code) = some body) :
    parseFunction code = .error .missingReturn ↔
      ∀ before object, ¬ ReturnSite body before object := by
  rw [parseFunction_of_body hbody]
  cases hobject : returnedObject? false body with
  | some object =>
    obtain ⟨before, hreturned⟩ := returnedObject?_iff_returned.mp hobject
    constructor
    · intro h
      cases h
    · intro h
      exact absurd hreturned.toReturnSite (h before object)
  | none =>
    refine ⟨fun _ before object hsite => ?_, fun _ => rfl⟩
    obtain ⟨b, o, hreturned⟩ := hsite.exists_returned
    rw [returnedObject?_iff_returned.mpr ⟨b, hreturned⟩] at hobject
    cases hobject

theorem parseFunction_ok_iff {code : Text} {fields : Clip Text} :
    parseFunction code = .ok fields ↔ ∃ body before object,
      functionBody? (stripComments code) = some body ∧ Returned body before object ∧
        fields = objectFields object := by
  constructor
  · intro h
    cases hbody : functionBody? (stripComments code) with
    | none =>
      rw [parseFunction, hbody] at h
      cases h
    | some body =>
      rw [parseFunction_of_body hbody] at h
      cases hobject : returnedObject? false body with
      | none =>
        rw [hobject] at h
        cases h
      | some object =>
        rw [hobject] at h
        obtain ⟨before, hreturned⟩ := returnedObject?_iff_returned.mp hobject
        exact ⟨body, before, object, rfl, hreturned, (Except.ok.inj h).symm⟩
  · rintro ⟨body, before, object, hbody, hreturned, rfl⟩
    rw [parseFunction_of_body hbody, returnedObject?_iff_returned.mpr ⟨before, hreturned⟩]
    rfl

/-- The return that is read stands in source when every one that a string literal holds comes
after it. -/
theorem Returned.inSource_iff {body before object : Text} (h : Returned body before object) :
    (Scan.start.run before).InSource ↔
      ∀ b o, ReturnSite body b o → ¬ (Scan.start.run b).InSource → before.length < b.length := by
  constructor
  · intro hsource b o hsite hliteral
    have hne : before.length ≠ b.length := by
      intro hlen
      have hbefore := List.prefix_of_prefix_length_le h.before_prefix hsite.before_prefix
        (Nat.le_of_eq hlen)
      exact hliteral (hbefore.eq_of_length hlen ▸ hsource)
    exact Nat.lt_of_le_of_ne (h.first b o hsite) hne
  · intro hafter
    by_cases hsource : (Scan.start.run before).InSource
    · exact hsource
    · exact absurd (hafter before object h.toReturnSite hsource) (Nat.lt_irrefl _)

theorem parseFunction_returned {code : Text} {fields : Clip Text}
    (h : parseFunction code = .ok fields) :
    ∃ body before object,
      functionBody? (stripComments code) = some body ∧ Returned body before object ∧
      fields = objectFields object ∧
      ((Scan.start.run before).InSource ↔
        ∀ b o, ReturnSite body b o → ¬ (Scan.start.run b).InSource →
          before.length < b.length) := by
  obtain ⟨body, before, object, hbody, hreturned, hfields⟩ := parseFunction_ok_iff.mp h
  exact ⟨body, before, object, hbody, hreturned, hfields, hreturned.inSource_iff⟩

/-- The object that opens in the first literal is not closed, so the return behind is read. -/
theorem parseFunction_returned_after_literal :
    parseFunction
        "(page) => \x7b const s = 'return \x7b text: '; return \x7b text: 'b' \x7d \x7d".toList =
      .ok ⟨some "'b'".toList, none⟩ ∧
    ∃ body before object,
      functionBody? (stripComments
        "(page) => \x7b const s = 'return \x7b text: '; return \x7b text: 'b' \x7d \x7d".toList) =
          some body ∧
      Returned body before object ∧ ⟨some "'b'".toList, none⟩ = objectFields object ∧
      ((Scan.start.run before).InSource ↔
        ∀ b o, ReturnSite body b o → ¬ (Scan.start.run b).InSource → before.length < b.length) :=
  ⟨rfl, parseFunction_returned rfl⟩

theorem returned_in_literal :
    ¬ ∀ code fields, parseFunction code = .ok fields → ∀ body before object,
      functionBody? (stripComments code) = some body → Returned body before object →
        (Scan.start.run before).InSource := by
  intro h
  have hsite : ReturnSite
      " const s = \"return \x7b text: page.url \x7d\"; return \x7b text: page.title \x7d ".toList
      " const s = \"".toList " text: page.url ".toList :=
    returnSite_iff.mpr ⟨by decide,
      "return \x7b text: page.url \x7d\"; return \x7b text: page.title \x7d ".toList,
      by decide +kernel, by decide +kernel⟩
  have hliteral := h
    ("(page) => \x7b const s = \"return \x7b text: page.url \x7d\";".toList ++
      " return \x7b text: page.title \x7d \x7d".toList)
    ⟨some "page.url".toList, none⟩ rfl _ _ _ (by decide +kernel)
    (hsite.returned (by decide +kernel))
  exact absurd hliteral (by decide)

end PageClip
