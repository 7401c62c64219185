import PageClip.Fetch

/-! Answers that are pages. The checks on type, declared length and gathered size let an answer
through exactly if it is an HTML page of an allowed size. Its text is then that of the whole body,
if the body does not break off and its charset gives a text. -/

namespace PageClip

/-- The answer is taken for an HTML page of an allowed size. -/
structure Response.IsSized (r : Response) : Prop where
  contentType : ∀ h, r.header? "content-type" = some h → h = [] ∨ mediaType h ∈ htmlTypes
  declared : ∀ d, r.header? "content-length" = some d → d ≠ [] →
    ∃ n : Int, readDecimal d = .ok n ∧ n ≤ maxPageSize
  size : r.chunks.flatten.length ≤ maxPageSize

/-- The answer is an HTML page of an allowed size that arrives whole, and this is its text. -/
structure Response.IsPage (codecs : Codecs) (r : Response) (text : Text) : Prop
    extends r.IsSized where
  whole : r.broken = none
  decoded : r.decode codecs r.chunks.flatten = .ok text

/-- A platform without a codec of its own. -/
def noCodecs : Codecs := fun _ => ⟨fun _ => none, fun _ => .error []⟩

/-- Why bytes are no text under the name of a charset. -/
inductive NoText (codecs : Codecs) (name : Text) (bytes : Bytes) : CharsetFault → Prop where
  | zero : '\x00' ∈ name → NoText codecs name bytes .zeroInName
  | notText : '\x00' ∉ name → bytes ≠ [] → Charset.named? name = some .notText →
      NoText codecs name bytes (.notText name)
  | idna : '\x00' ∉ name → bytes ≠ [] → Charset.named? name = some .idna →
      NoText codecs name bytes (refusal name "Unsupported error handling replace")
  | undefined : '\x00' ∉ name → bytes ≠ [] → Charset.named? name = some .undefined →
      NoText codecs name bytes (refusal name "undefined encoding")
  | platform (codec : String) (complaint : Text) : '\x00' ∉ name → bytes ≠ [] →
      Charset.named? name = some (.platform codec) →
      (codecs codec).replacing bytes = .error complaint →
      NoText codecs name bytes (.refused complaint)

/-- The content type cannot be read for a charset, or the one it names gives no text. -/
inductive Response.Undecodable (codecs : Codecs) (r : Response) (bytes : Bytes) :
    CharsetFault → Prop where
  | header (fault : CharsetFault) : r.charsetName? codecs = .error fault →
      r.Undecodable codecs bytes fault
  | charset (name : Text) (fault : CharsetFault) : r.charsetName? codecs = .ok (some name) →
      NoText codecs name bytes fault → r.Undecodable codecs bytes fault

section result
variable {ε ε' α β : Type} {x : Except ε α} {a : α} {b : β} {e : ε}

theorem bind_eq_ok {f : α → Except ε β} : (x >>= f) = .ok b ↔ ∃ a, x = .ok a ∧ f a = .ok b := by
  cases x <;> simp [bind, Except.bind]

theorem mapError_eq_ok {f : ε → ε'} : x.mapError f = .ok a ↔ x = .ok a := by
  cases x with
  | error e => exact ⟨fun h => (by cases h), fun h => (by cases h)⟩
  | ok a =>
    exact ⟨fun h => congrArg Except.ok (Except.ok.inj h),
      fun h => congrArg Except.ok (Except.ok.inj h)⟩

theorem bind_eq_error {f : α → Except ε β} :
    (x >>= f) = .error e ↔ x = .error e ∨ ∃ a, x = .ok a ∧ f a = .error e := by
  cases x <;> simp [bind, Except.bind]

theorem mapError_eq_error {f : ε → ε'} {e' : ε'} :
    x.mapError f = .error e' ↔ ∃ e, x = .error e ∧ f e = e' := by
  cases x with
  | error e =>
    constructor
    · exact fun h => ⟨e, rfl, Except.error.inj h⟩
    · rintro ⟨_, h, rfl⟩
      rw [Except.error.inj h]
      rfl
  | ok a =>
    constructor
    · intro h
      cases h
    · rintro ⟨_, h, _⟩
      cases h

end result

section charset
variable {codecs : Codecs} {name : Text} {bytes : Bytes} {r : Response} {fault : CharsetFault}

/-- A charset that is known decodes all bytes but none, unless it is no charset of texts or a codec
that complains. -/
theorem charset_decode_eq_error_iff {charset : Charset} (hzero : '\x00' ∉ name)
    (hbytes : bytes ≠ []) (h : Charset.named? name = some charset) :
    charset.decode codecs name bytes = .error fault ↔ NoText codecs name bytes fault := by
  constructor
  · intro hfault
    cases charset with
    | written units => cases hfault
    | platform codec =>
      obtain ⟨complaint, hcomplaint, rfl⟩ := mapError_eq_error.mp hfault
      exact .platform codec complaint hzero hbytes h hcomplaint
    | idna =>
      obtain rfl := Except.error.inj hfault
      exact .idna hzero hbytes h
    | undefined =>
      obtain rfl := Except.error.inj hfault
      exact .undefined hzero hbytes h
    | notText =>
      obtain rfl := Except.error.inj hfault
      exact .notText hzero hbytes h
  · intro hno
    cases hno with
    | zero hmem => exact absurd hmem hzero
    | notText _ _ hname =>
      obtain rfl := Option.some.inj (h.symm.trans hname)
      rfl
    | idna _ _ hname =>
      obtain rfl := Option.some.inj (h.symm.trans hname)
      rfl
    | undefined _ _ hname =>
      obtain rfl := Option.some.inj (h.symm.trans hname)
      rfl
    | platform codec complaint _ _ hname hcomplaint =>
      obtain rfl := Option.some.inj (h.symm.trans hname)
      exact mapError_eq_error.mpr ⟨complaint, hcomplaint, rfl⟩

theorem NoText.named (h : NoText codecs name bytes fault) (hzero : '\x00' ∉ name) :
    bytes ≠ [] ∧ Charset.named? name ≠ none := by
  cases h with
  | zero hmem => exact absurd hmem hzero
  | notText _ hbytes hname => exact ⟨hbytes, by simp [hname]⟩
  | idna _ hbytes hname => exact ⟨hbytes, by simp [hname]⟩
  | undefined _ hbytes hname => exact ⟨hbytes, by simp [hname]⟩
  | platform _ _ _ hbytes hname _ => exact ⟨hbytes, by simp [hname]⟩

theorem decodeNamed_of_lookup {found : Option Charset} (h : lookupCharset name = .ok found) :
    decodeNamed codecs name bytes = found.elim (.ok (decodeUtf8 bytes))
      fun charset => if bytes.isEmpty then .ok [] else charset.decode codecs name bytes := by
  rw [decodeNamed, h]
  cases found <;> rfl

theorem decodeNamed_eq_error_iff :
    decodeNamed codecs name bytes = .error fault ↔ NoText codecs name bytes fault := by
  by_cases hzero : '\x00' ∈ name
  · have hlookup : lookupCharset name = .error .zeroInName := by simp [lookupCharset, hzero]
    rw [decodeNamed, hlookup]
    constructor
    · intro h
      obtain rfl := Except.error.inj h
      exact .zero hzero
    · intro h
      cases h with
      | zero _ => rfl
      | notText hno => exact absurd hzero hno
      | idna hno => exact absurd hzero hno
      | undefined hno => exact absurd hzero hno
      | platform _ _ hno => exact absurd hzero hno
  · have hlookup : lookupCharset name = .ok (Charset.named? name) := by
      simp [lookupCharset, hzero]
    rw [decodeNamed_of_lookup hlookup]
    cases hname : Charset.named? name with
    | none => exact iff_of_false (by simp) fun h => (h.named hzero).2 hname
    | some charset =>
      by_cases hbytes : bytes = []
      · subst hbytes
        exact iff_of_false (by simp) fun h => (h.named hzero).1 rfl
      · simp only [Option.elim_some, List.isEmpty_iff, hbytes, if_false]
        exact charset_decode_eq_error_iff hzero hbytes hname

theorem decode_eq_error_iff :
    r.decode codecs bytes = .error fault ↔ r.Undecodable codecs bytes fault := by
  rw [Response.decode, bind_eq_error]
  constructor
  · rintro (h | ⟨name?, hname, h⟩)
    · exact .header fault h
    · cases name? with
      | none => cases h
      | some name => exact .charset name fault hname (decodeNamed_eq_error_iff.mp h)
  · intro h
    cases h with
    | header _ h => exact .inl h
    | charset name _ hname h =>
      exact .inr ⟨some name, hname, decodeNamed_eq_error_iff.mpr h⟩

end charset

section page
variable {codecs : Codecs} {r : Response} {body buffer : Bytes} {chunks : List Bytes}
  {text : Text} {e : FetchError}

theorem isRedirect_iff : r.isRedirect = true ↔ 300 ≤ r.status ∧ r.status < 400 := by
  simp [Response.isRedirect]

theorem isSuccess_iff : r.isSuccess = true ↔ 200 ≤ r.status ∧ r.status < 300 := by
  simp [Response.isSuccess]

theorem isRedirect_of_isSuccess (h : r.isSuccess = true) : r.isRedirect = false := by
  rw [isSuccess_iff] at h
  rw [Bool.eq_false_iff, ne_eq, isRedirect_iff]
  omega

/-- The client takes a coding off the body alone. -/
@[simp]
theorem headers_unpacked : r.unpacked.headers = r.headers := by
  rw [Response.unpacked]
  split <;> rfl

@[simp]
theorem header?_unpacked (name : String) : r.unpacked.header? name = r.header? name := by
  rw [Response.header?, Response.header?, headers_unpacked]

/-- The bound is checked on what was gathered so far, which only grows up to the whole body. -/
theorem gatherBody_eq (hbuffer : buffer.length ≤ maxPageSize) :
    gatherBody buffer chunks =
      if maxPageSize < (buffer ++ chunks.flatten).length then .error .tooLarge
      else .ok (buffer ++ chunks.flatten) := by
  induction chunks generalizing buffer with
  | nil =>
    rw [gatherBody, List.flatten_nil, List.append_nil, if_neg (Nat.not_lt.mpr hbuffer)]
  | cons chunk rest ih =>
    rw [gatherBody, List.flatten_cons, ← List.append_assoc]
    -- What is gathered only grows, so one chunk too much is a body too long.
    by_cases hsize : maxPageSize < (buffer ++ chunk).length
    · have hwhole : maxPageSize < (buffer ++ chunk ++ rest.flatten).length := by
        rw [List.length_append]
        omega
      rw [if_pos hsize, if_pos hwhole]
    · rw [if_neg hsize]
      exact ih (Nat.le_of_not_lt hsize)

theorem gatherBody_nil_ok_iff : gatherBody [] chunks = .ok body ↔
    chunks.flatten.length ≤ maxPageSize ∧ body = chunks.flatten := by
  rw [gatherBody_eq (Nat.zero_le _), List.nil_append]
  split
  · rename_i hsize
    exact iff_of_false (by simp) fun h => Nat.not_lt.mpr h.1 hsize
  · rename_i hsize
    exact ⟨fun h => ⟨Nat.le_of_not_lt hsize, (Except.ok.inj h).symm⟩,
      fun h => congrArg Except.ok h.2.symm⟩

theorem checkContentType_ok_iff {header : Text} :
    checkContentType header = .ok () ↔ header = [] ∨ mediaType header ∈ htmlTypes := by
  have hnames : namesHtml header = true ↔ header = [] ∨ mediaType header ∈ htmlTypes := by
    simp [namesHtml]
  rw [checkContentType, ← hnames]
  split
  · exact ⟨fun _ => ‹_›, fun _ => rfl⟩
  · exact ⟨(by simp), fun h => absurd h ‹_›⟩

theorem checkDeclaredLength_ok_iff {declared : Option Text} :
    checkDeclaredLength declared = .ok () ↔ ∀ d, declared = some d → d ≠ [] →
      ∃ n : Int, readDecimal d = .ok n ∧ n ≤ maxPageSize := by
  rw [checkDeclaredLength.eq_def]
  cases declared with
  | none => simp
  | some d =>
    cases d with
    | nil => simp
    | cons c t =>
      simp only [Option.some.injEq, forall_eq', ne_eq, reduceCtorEq, not_false_eq_true,
        forall_const]
      cases readDecimal (c :: t) with
      | error fault => cases fault <;> simp
      | ok n =>
        by_cases hn : (maxPageSize : Int) < n
        · simp [if_pos hn, Int.not_le.mpr hn]
        · simp [if_neg hn, Int.not_lt.mp hn]

/-- What the three checks let through. -/
theorem isSized_iff : r.IsSized ↔
    checkContentType ((r.header? "content-type").getD []) = .ok () ∧
      checkDeclaredLength (r.header? "content-length") = .ok () ∧
      gatherBody [] r.chunks = .ok r.chunks.flatten := by
  have htype : checkContentType ((r.header? "content-type").getD []) = .ok () ↔
      ∀ h, r.header? "content-type" = some h → h = [] ∨ mediaType h ∈ htmlTypes := by
    rw [checkContentType_ok_iff]
    cases r.header? "content-type" <;> simp
  rw [htype, checkDeclaredLength_ok_iff, gatherBody_nil_ok_iff]
  constructor
  · intro h
    exact ⟨h.contentType, h.declared, h.size, rfl⟩
  · rintro ⟨hcontentType, hdeclared, hsize, _⟩
    exact ⟨hcontentType, hdeclared, hsize⟩

/-- What comes of a page of an allowed size once it is gathered. -/
theorem readHtml_of_isSized (h : r.IsSized) : r.readHtml codecs =
    (r.checkEnd >>= fun _ => (r.decode codecs r.chunks.flatten).mapError .charset) := by
  obtain ⟨htype, hlength, hbody⟩ := isSized_iff.mp h
  rw [Response.readHtml, htype, hlength, hbody]
  rfl

theorem readHtml_of_broken {fault : ClientFault} {message : Text} (h : r.IsSized)
    (hbroken : r.broken = some (fault, message)) :
    r.readHtml codecs = .error (.client fault message) := by
  rw [readHtml_of_isSized h, Response.checkEnd, hbroken]
  rfl

theorem readHtml_of_whole (h : r.IsSized) (hwhole : r.broken = none) :
    r.readHtml codecs = (r.decode codecs r.chunks.flatten).mapError .charset := by
  rw [readHtml_of_isSized h, Response.checkEnd, hwhole]
  rfl

theorem isSized_of_readHtml (h : r.readHtml codecs = .ok text) : r.IsSized := by
  obtain ⟨⟨⟩, htype, h⟩ := bind_eq_ok.mp h
  obtain ⟨⟨⟩, hlength, h⟩ := bind_eq_ok.mp h
  obtain ⟨body, hbody, _⟩ := bind_eq_ok.mp h
  obtain ⟨_, rfl⟩ := gatherBody_nil_ok_iff.mp hbody
  exact isSized_iff.mpr ⟨htype, hlength, hbody⟩

theorem readHtml_ok_iff : r.readHtml codecs = .ok text ↔ r.IsPage codecs text := by
  constructor
  · intro h
    have hsized := isSized_of_readHtml h
    cases hbroken : r.broken with
    | some report =>
      rw [readHtml_of_broken hsized hbroken] at h
      cases h
    | none =>
      rw [readHtml_of_whole hsized hbroken] at h
      exact ⟨hsized, hbroken, mapError_eq_ok.mp h⟩
  · intro h
    rw [readHtml_of_whole h.toIsSized h.whole, h.decoded]
    rfl

end page

end PageClip
