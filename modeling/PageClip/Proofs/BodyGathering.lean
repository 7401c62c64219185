import Mathlib.Logic.Relation
import Mathlib.Tactic.ByContra
import PageClip.Proofs.PageResponse

/-! Gathering the body of a page. The bound is checked chunk by chunk, and what comes of it is
what one check of the whole body would give, so it makes no difference how the body arrives. What
was gathered is then decoded, which can fail for the charset alone. -/

namespace PageClip

/-- What has been gathered of a body, and the chunks that are still to come. -/
structure Gathering where
  buffer : Bytes
  coming : List Bytes

namespace Gathering

/-- The next chunk is added and the bound is kept. -/
inductive Step : Gathering → Gathering → Prop where
  | add {buffer chunk rest} : (buffer ++ chunk).length ≤ maxPageSize →
      Step ⟨buffer, chunk :: rest⟩ ⟨buffer ++ chunk, rest⟩

abbrev Reaches := Relation.ReflTransGen Step

def result (g : Gathering) : Except FetchError Bytes := gatherBody g.buffer g.coming

def whole (g : Gathering) : Bytes := g.buffer ++ g.coming.flatten

end Gathering

/-- An answer whose content type is taken for HTML and whose declared length is an integer. -/
structure Response.Accepted (r : Response) : Prop where
  contentType : ∀ h, r.header? "content-type" = some h → h = [] ∨ mediaType h ∈ htmlTypes
  declared : ∀ d, r.header? "content-length" = some d → d ≠ [] → ∃ n, readDecimal d = .ok n

/-- The declared length or the length of the body is above the bound. -/
def Response.Oversized (r : Response) : Prop :=
  (∃ d n, r.header? "content-length" = some d ∧ d ≠ [] ∧ readDecimal d = .ok n ∧
    (maxPageSize : Int) < n) ∨
  maxPageSize < r.chunks.flatten.length

section gathering
variable {g g' : Gathering} {buffer body : Bytes} {chunks : List Bytes} {e : FetchError}

theorem Gathering.Step.length_le (h : g.Step g') : g'.buffer.length ≤ maxPageSize := by
  cases h with
  | add hsize => exact hsize

theorem Gathering.Step.whole_eq (h : g.Step g') : g'.whole = g.whole := by
  cases h with
  | add _ => simp only [Gathering.whole, List.flatten_cons, List.append_assoc]

theorem Gathering.Step.result_eq (h : g.Step g') : g'.result = g.result := by
  cases h with
  | add hsize =>
    simp only [Gathering.result]
    rw [gatherBody, if_neg (Nat.not_lt.mpr hsize)]

theorem Gathering.Reaches.length_le (h : g.Reaches g') (hg : g.buffer.length ≤ maxPageSize) :
    g'.buffer.length ≤ maxPageSize := by
  induction h with
  | refl => exact hg
  | tail _ hstep _ => exact hstep.length_le

theorem Gathering.Reaches.whole_eq (h : g.Reaches g') : g'.whole = g.whole := by
  induction h with
  | refl => rfl
  | tail _ hstep ih => exact hstep.whole_eq.trans ih

theorem Gathering.Reaches.result_eq (h : g.Reaches g') : g'.result = g.result := by
  induction h with
  | refl => rfl
  | tail _ hstep ih => exact hstep.result_eq.trans ih

theorem gatherBody_ok_iff_reaches :
    gatherBody buffer chunks = .ok body ↔ Gathering.Reaches ⟨buffer, chunks⟩ ⟨body, []⟩ := by
  constructor
  · intro h
    induction chunks generalizing buffer with
    | nil =>
      obtain rfl := Except.ok.inj h
      exact .refl
    | cons chunk rest ih =>
      rw [gatherBody] at h
      split at h
      · cases h
      · rename_i hsize
        exact .head (.add (Nat.le_of_not_lt hsize)) (ih h)
  · intro h
    exact h.result_eq.symm

end gathering

/-- What comes of an answer: it is refused for its size exactly if its declared length or its body
is above the bound, and else it breaks off, or is the decoded body, or has a charset that gives no
text. However the body arrives it comes to the same, and at every chunk the buffer holds no more
than the bound. -/
structure Response.Gathered (codecs : Codecs) (r : Response) : Prop where
  tooLarge : r.readHtml codecs = .error .tooLarge ↔ r.Oversized
  brokenOff : ∀ fault message, r.readHtml codecs = .error (.client fault message) ↔
    ¬ r.Oversized ∧ r.broken = some (fault, message)
  decoded : ∀ text, r.readHtml codecs = .ok text ↔
    ¬ r.Oversized ∧ r.broken = none ∧ r.decode codecs r.chunks.flatten = .ok text
  undecoded : ∀ fault, r.readHtml codecs = .error (.charset fault) ↔
    ¬ r.Oversized ∧ r.broken = none ∧ r.Undecodable codecs r.chunks.flatten fault
  rechunked : ∀ chunks, chunks.flatten = r.chunks.flatten →
    Response.readHtml codecs { r with chunks } = r.readHtml codecs
  reached : ∀ body, gatherBody [] r.chunks = .ok body ↔
    Gathering.Reaches ⟨[], r.chunks⟩ ⟨body, []⟩
  bounded : ∀ g, Gathering.Reaches ⟨[], r.chunks⟩ g →
    g.buffer.length ≤ maxPageSize ∧ g.whole = r.chunks.flatten ∧
      g.result = gatherBody [] r.chunks

section answer
variable {codecs : Codecs} {r : Response} {e : FetchError} {text : Text} {fault : CharsetFault}

theorem checkContentType_of_accepted (h : r.Accepted) :
    checkContentType ((r.header? "content-type").getD []) = .ok () := by
  have htype := h.contentType
  rw [checkContentType_ok_iff]
  cases hheader : r.header? "content-type" with
  | none => exact .inl rfl
  | some t => exact htype t hheader

theorem checkDeclaredLength_tooLarge {declared : Option Text}
    (hread : ∀ d, declared = some d → d ≠ [] → ∃ n, readDecimal d = .ok n)
    (h : checkDeclaredLength declared = .error e) : e = .tooLarge := by
  rw [checkDeclaredLength.eq_def] at h
  cases declared with
  | none => cases h
  | some d =>
    cases d with
    | nil => cases h
    | cons c t =>
      obtain ⟨n, hn⟩ := hread _ rfl (List.cons_ne_nil c t)
      simp only [hn] at h
      split at h
      · exact (Except.error.inj h).symm
      · cases h

theorem isSized_of_not_oversized (h : r.Accepted) (hsize : ¬ r.Oversized) : r.IsSized := by
  rw [Response.Oversized, not_or] at hsize
  obtain ⟨hdeclared, hbody⟩ := hsize
  refine ⟨h.contentType, fun d hd hne => ?_, Nat.le_of_not_lt hbody⟩
  obtain ⟨n, hn⟩ := h.declared d hd hne
  exact ⟨n, hn, Int.not_lt.mp fun hlarge => hdeclared ⟨d, n, hd, hne, hn, hlarge⟩⟩

theorem readHtml_of_oversized (h : r.Accepted) (hsize : r.Oversized) :
    r.readHtml codecs = .error .tooLarge := by
  rw [Response.readHtml, checkContentType_of_accepted h]
  cases hlength : checkDeclaredLength (r.header? "content-length") with
  | error e =>
    rw [checkDeclaredLength_tooLarge h.declared hlength]
    rfl
  | ok u =>
    have hbody : maxPageSize < r.chunks.flatten.length := by
      rcases hsize with ⟨d, n, hd, hne, hn, hlarge⟩ | hbody
      · obtain ⟨n', hn', hle⟩ := checkDeclaredLength_ok_iff.mp hlength d hd hne
        obtain rfl := Except.ok.inj (hn.symm.trans hn')
        exact absurd hlarge (Int.not_lt.mpr hle)
      · exact hbody
    rw [gatherBody_eq (Nat.zero_le _), List.nil_append, if_pos hbody]
    rfl

/-- What an accepted answer comes to: it is too large, or it breaks off, or it is left to its
charset. -/
theorem readHtml_cases (codecs : Codecs) (h : r.Accepted) :
    (r.Oversized ∧ r.readHtml codecs = .error .tooLarge) ∨
    (¬ r.Oversized ∧ ∃ fault message, r.broken = some (fault, message) ∧
      r.readHtml codecs = .error (.client fault message)) ∨
    (¬ r.Oversized ∧ r.broken = none ∧
      r.readHtml codecs = (r.decode codecs r.chunks.flatten).mapError .charset) := by
  by_cases hsize : r.Oversized
  · exact .inl ⟨hsize, readHtml_of_oversized h hsize⟩
  · have hsized := isSized_of_not_oversized h hsize
    cases hbroken : r.broken with
    | some report =>
      obtain ⟨fault, message⟩ := report
      exact .inr (.inl ⟨hsize, fault, message, rfl, readHtml_of_broken hsized hbroken⟩)
    | none => exact .inr (.inr ⟨hsize, rfl, readHtml_of_whole hsized hbroken⟩)

theorem readHtml_eq_tooLarge_iff (h : r.Accepted) :
    r.readHtml codecs = .error .tooLarge ↔ r.Oversized := by
  refine ⟨fun hlarge => ?_, readHtml_of_oversized h⟩
  rcases readHtml_cases codecs h with ⟨hsize, _⟩ | ⟨_, _, _, _, hread⟩ | ⟨_, _, hread⟩
  · exact hsize
  · cases hlarge.symm.trans hread
  · obtain ⟨_, _, hno⟩ := mapError_eq_error.mp (hread.symm.trans hlarge)
    cases hno

theorem readHtml_eq_client_iff (h : r.Accepted) {fault : ClientFault} {message : Text} :
    r.readHtml codecs = .error (.client fault message) ↔
      ¬ r.Oversized ∧ r.broken = some (fault, message) := by
  constructor
  · intro hclient
    rcases readHtml_cases codecs h with
      ⟨_, hread⟩ | ⟨hsize, fault', message', hbroken, hread⟩ | ⟨_, _, hread⟩
    · cases hclient.symm.trans hread
    · obtain ⟨rfl, rfl⟩ :=
        FetchError.client.inj (Except.error.inj (hclient.symm.trans hread))
      exact ⟨hsize, hbroken⟩
    · obtain ⟨_, _, hno⟩ := mapError_eq_error.mp (hread.symm.trans hclient)
      cases hno
  · rintro ⟨hsize, hbroken⟩
    exact readHtml_of_broken (isSized_of_not_oversized h hsize) hbroken

theorem readHtml_eq_ok_iff (h : r.Accepted) : r.readHtml codecs = .ok text ↔
    ¬ r.Oversized ∧ r.broken = none ∧ r.decode codecs r.chunks.flatten = .ok text := by
  constructor
  · intro hok
    rcases readHtml_cases codecs h with ⟨_, hread⟩ | ⟨_, _, _, _, hread⟩ | ⟨hsize, hwhole, hread⟩
    · cases hok.symm.trans hread
    · cases hok.symm.trans hread
    · exact ⟨hsize, hwhole, mapError_eq_ok.mp (hread.symm.trans hok)⟩
  · rintro ⟨hsize, hwhole, hdecode⟩
    rw [readHtml_of_whole (isSized_of_not_oversized h hsize) hwhole, hdecode]
    rfl

theorem readHtml_eq_charset_iff (h : r.Accepted) {fault : CharsetFault} :
    r.readHtml codecs = .error (.charset fault) ↔
      ¬ r.Oversized ∧ r.broken = none ∧ r.Undecodable codecs r.chunks.flatten fault := by
  constructor
  · intro hfault
    rcases readHtml_cases codecs h with ⟨_, hread⟩ | ⟨_, _, _, _, hread⟩ | ⟨hsize, hwhole, hread⟩
    · cases hfault.symm.trans hread
    · cases hfault.symm.trans hread
    · obtain ⟨fault', hdecode, hsame⟩ := mapError_eq_error.mp (hread.symm.trans hfault)
      obtain rfl := FetchError.charset.inj hsame
      exact ⟨hsize, hwhole, decode_eq_error_iff.mp hdecode⟩
  · rintro ⟨hsize, hwhole, hno⟩
    rw [readHtml_of_whole (isSized_of_not_oversized h hsize) hwhole, decode_eq_error_iff.mpr hno]
    rfl

theorem readHtml_rechunk {chunks : List Bytes} (h : chunks.flatten = r.chunks.flatten) :
    Response.readHtml codecs { r with chunks } = r.readHtml codecs := by
  have hgather : gatherBody [] chunks = gatherBody [] r.chunks := by
    rw [gatherBody_eq (Nat.zero_le _), gatherBody_eq (Nat.zero_le _), h]
  rw [Response.readHtml, Response.readHtml, hgather]
  rfl

end answer

/-- An accepted answer comes to the same however its body arrives, which is decided by the whole
body: by its size, by how it ends, and by its charset. -/
theorem readHtml_chunking (codecs : Codecs) {r : Response} (h : r.Accepted) :
    r.Gathered codecs ∧
      FetchError.tooLarge.message = "Page exceeds the maximum allowed size.".toList where
  left :=
    { tooLarge := readHtml_eq_tooLarge_iff h
      brokenOff := fun _ _ => readHtml_eq_client_iff h
      decoded := fun _ => readHtml_eq_ok_iff h
      undecoded := fun _ => readHtml_eq_charset_iff h
      rechunked := fun _ => readHtml_rechunk
      reached := fun _ => gatherBody_ok_iff_reaches
      bounded := fun _ hg => ⟨hg.length_le (Nat.zero_le _), hg.whole_eq, hg.result_eq⟩ }
  right := rfl

/-- A page of two bytes that arrive apart. -/
def dividedPage (contentType : String) : Response where
  status := 200
  headers := [("content-type".toList, contentType.toList), ("content-length".toList, ['2'])]
  chunks := [[0xc3], [], [0xa9]]

theorem dividedPage_accepted {contentType : String}
    (h : mediaType contentType.toList ∈ htmlTypes) : (dividedPage contentType).Accepted where
  contentType := by
    intro t ht
    have htype : (dividedPage contentType).header? "content-type" = some contentType.toList :=
      congrArg some (List.append_nil _)
    obtain rfl := Option.some.inj (htype.symm.trans ht)
    exact .inr h
  declared := by
    intro d hd _
    obtain rfl := Option.some.inj hd
    exact ⟨2, rfl⟩

theorem dividedPage_not_oversized (contentType : String) :
    ¬ (dividedPage contentType).Oversized := by
  rintro (⟨d, n, hd, _, hn, hlarge⟩ | hlarge)
  · obtain rfl := Option.some.inj hd
    have hread : readDecimal ['2'] = .ok 2 := rfl
    obtain rfl := Except.ok.inj (hread.symm.trans hn)
    revert hlarge
    decide
  · have hbody : (dividedPage contentType).chunks.flatten = [0xc3, 0xa9] := rfl
    rw [hbody] at hlarge
    revert hlarge
    decide

theorem readHtml_chunking_divided :
    (dividedPage "text/html").Accepted ∧
      (dividedPage "text/html").readHtml noCodecs = .ok ['\u00e9'] ∧
      Response.readHtml noCodecs { dividedPage "text/html" with chunks := [[0xc3, 0xa9]] } =
        .ok ['\u00e9'] ∧
      Gathering.Reaches ⟨[], [[0xc3], [], [0xa9]]⟩ ⟨[0xc3, 0xa9], []⟩ := by
  have haccepted : (dividedPage "text/html").Accepted := dividedPage_accepted (by decide)
  obtain ⟨hgathered, _⟩ := readHtml_chunking noCodecs haccepted
  have hname : (dividedPage "text/html").charsetName? noCodecs = .ok none := rfl
  have hdecode : (dividedPage "text/html").decode noCodecs [0xc3, 0xa9] = .ok ['\u00e9'] := by
    rw [Response.decode, hname]
    exact congrArg Except.ok (by decide)
  have htext : (dividedPage "text/html").readHtml noCodecs = .ok ['\u00e9'] :=
    (hgathered.decoded _).mpr ⟨dividedPage_not_oversized _, rfl, hdecode⟩
  refine ⟨haccepted, htext, ?_, (hgathered.reached _).mp rfl⟩
  rw [hgathered.rechunked [[0xc3, 0xa9]] rfl]
  exact htext

/-- A page whose charset turns bytes into bytes has no text, however small it is. -/
theorem base64_page_undecoded :
    ¬ ∀ (codecs : Codecs) (r : Response), r.Accepted → r.broken = none → ¬ r.Oversized →
      ∃ text, r.readHtml codecs = .ok text := by
  intro h
  have haccepted : (dividedPage "text/html; charset=base64").Accepted :=
    dividedPage_accepted (by decide)
  have hsize := dividedPage_not_oversized "text/html; charset=base64"
  obtain ⟨text, htext⟩ := h noCodecs _ haccepted rfl hsize
  have hnamed : Charset.named? "base64".toList = some .notText := by
    have hkey : charsetOfKey? (charsetKey "base64".toList) = some "base64_codec" := by
      decide +kernel
    rw [Charset.named?, hkey]
    rfl
  have hno : (dividedPage "text/html; charset=base64").Undecodable noCodecs [0xc3, 0xa9]
      (.notText "base64".toList) :=
    .charset "base64".toList _ rfl (.notText (by decide) (by decide) hnamed)
  cases htext.symm.trans ((readHtml_eq_charset_iff haccepted).mpr ⟨hsize, rfl, hno⟩)

end PageClip
