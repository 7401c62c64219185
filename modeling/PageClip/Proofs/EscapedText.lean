import PageClip.Proofs.TemplateParts

/-! Escaped text. Escaping writes each of five characters as an entity and nothing else, so the
entities can be read back, and what a template escapes adds no markup to it. -/

namespace PageClip

/-- The entities with the characters they stand for, in the order in which they are written. -/
def entities : List (Text × Char) :=
  [("&amp;".toList, '&'), ("&lt;".toList, '<'), ("&gt;".toList, '>'), ("&quot;".toList, '"'),
   ("&#x27;".toList, '\x27')]

/-- The characters that tags and attribute values are delimited by. -/
def markupChars : List Char := ['<', '>', '"', '\x27']

/-- One replacement after another, each in the whole text. -/
def replaceAll (es : List (Text × Char)) (t : Text) : Text :=
  es.foldl (fun t e => t.flatMap fun c => if c = e.2 then e.1 else [c]) t

def entityAt? (t : Text) : Option (Char × Text) :=
  entities.findSome? fun e => (afterPrefix? e.1 t).map (e.2, ·)

theorem entities_spec : ∀ e ∈ entities, e.1.head? = some '&' ∧ '&' ∉ e.1.tail := by
  decide

theorem not_mem_entity : ∀ c ∈ markupChars, ∀ e ∈ entities, c ∉ e.1 :=
  forall_mem_of_all (by decide)

theorem entityAt?_length {t rest : Text} {c : Char} (h : entityAt? t = some (c, rest)) :
    rest.length < t.length := by
  obtain ⟨e, he, h⟩ := List.exists_of_findSome?_eq_some h
  obtain ⟨r, hr, heq⟩ := Option.map_eq_some_iff.mp h
  obtain ⟨_, rfl⟩ := Prod.mk.inj heq
  obtain ⟨m, hm⟩ := List.head?_eq_some_iff.mp (entities_spec e he).1
  rw [eq_append_of_afterPrefix? hr, hm]
  simp only [List.cons_append, List.length_cons, List.length_append]
  omega

/-- Reads the entities of a text from the left; all else stands for itself. -/
def decodeEntities (t : Text) : Text :=
  match t with
  | [] => []
  | c :: u =>
    match _h : entityAt? (c :: u) with
    | some (x, rest) => x :: decodeEntities rest
    | none => c :: decodeEntities u
termination_by t.length
decreasing_by
  · exact entityAt?_length (by assumption)
  · simp

/-- Nothing in the text can open a tag or close an attribute value, and every ampersand belongs to
an entity. -/
structure IsEscaped (t : Text) : Prop where
  unmarked : ∀ c ∈ markupChars, c ∉ t
  entity : ∀ before after, t = before ++ '&' :: after → ∃ e ∈ entities, e.1 <+: '&' :: after

def TemplatePart.plain : TemplatePart → Text
  | .text t => t
  | .token _ _ => []

def Segment.plain : Segment → Text
  | .literal c => [c]
  | .token _ _ => []

/-- A template without its tokens. -/
def literalText (t : Text) : Text := (templateParts t).flatMap TemplatePart.plain

section escape
variable {c : Char} {t before after : Text}

theorem escapeHtml_cons (c : Char) (t : Text) :
    escapeHtml (c :: t) = escapeChar c ++ escapeHtml t :=
  rfl

theorem escapeHtml_append (a b : Text) : escapeHtml (a ++ b) = escapeHtml a ++ escapeHtml b :=
  List.flatMap_append

theorem escapeChar_cases (c : Char) :
    (∃ e ∈ entities, e.2 = c ∧ escapeChar c = e.1) ∨
      (∀ e ∈ entities, c ≠ e.2) ∧ escapeChar c = [c] := by
  by_cases h : ∃ e ∈ entities, e.2 = c
  · obtain ⟨e, he, rfl⟩ := h
    have hescape : ∀ e ∈ entities, escapeChar e.2 = e.1 := by decide
    exact .inl ⟨e, he, rfl, hescape e he⟩
  · have hne : ∀ e ∈ entities, c ≠ e.2 := fun e he hc => h ⟨e, he, hc.symm⟩
    refine .inr ⟨hne, ?_⟩
    simp only [entities, List.forall_mem_cons] at hne
    obtain ⟨hamp, hlt, hgt, hquot, hapos, _⟩ := hne
    unfold escapeChar
    split
    · exact absurd rfl hamp
    · exact absurd rfl hlt
    · exact absurd rfl hgt
    · exact absurd rfl hquot
    · exact absurd rfl hapos
    · rfl

theorem not_mem_escapeHtml (hc : c ∈ markupChars) : c ∉ escapeHtml t := by
  intro h
  obtain ⟨x, _, hx⟩ := List.mem_flatMap.mp h
  rcases escapeChar_cases x with ⟨e, he, _, hescape⟩ | ⟨hne, hescape⟩
  · rw [hescape] at hx
    exact not_mem_entity c hc e he hx
  · have hmarked : ∀ c ∈ markupChars, ∃ e ∈ entities, c = e.2 := forall_mem_of_all (by decide)
    rw [hescape, List.mem_singleton] at hx
    obtain ⟨e, he, heq⟩ := hmarked c hc
    exact hne e he (hx ▸ heq)

theorem entity_of_ampersand (h : escapeHtml t = before ++ '&' :: after) :
    ∃ e ∈ entities, e.1 <+: '&' :: after := by
  induction t generalizing before with
  | nil => simp [escapeHtml] at h
  | cons c t ih =>
    rw [escapeHtml_cons] at h
    rcases escapeChar_cases c with ⟨e, he, _, hescape⟩ | ⟨hne, hescape⟩
    · obtain ⟨hhead, htail⟩ := entities_spec e he
      obtain ⟨m, hm⟩ := List.head?_eq_some_iff.mp hhead
      rw [hescape] at h
      cases before with
      | nil => exact ⟨e, he, escapeHtml t, h⟩
      | cons x before =>
        rw [hm] at h htail
        obtain ⟨d, _, hd⟩ := exists_append_of_not_mem htail (List.cons.inj h).2
        exact ih hd
    · have hamp : c ≠ '&' := hne ("&amp;".toList, '&') (by decide)
      rw [hescape] at h
      obtain ⟨d, _, hd⟩ := exists_append_of_not_mem (by simpa using hamp.symm) h
      exact ih hd

theorem isEscaped_escapeHtml (t : Text) : IsEscaped (escapeHtml t) where
  unmarked _ hc := not_mem_escapeHtml hc
  entity _ _ h := entity_of_ampersand h

end escape

section replacing

theorem replaceAll_append (es : List (Text × Char)) (a b : Text) :
    replaceAll es (a ++ b) = replaceAll es a ++ replaceAll es b := by
  induction es generalizing a b with
  | nil => rfl
  | cons e es ih =>
    show replaceAll es ((a ++ b).flatMap _) = _
    rw [List.flatMap_append]
    exact ih _ _

theorem replaceAll_singleton {es : List (Text × Char)} {c : Char} (h : ∀ e ∈ es, c ≠ e.2) :
    replaceAll es [c] = [c] := by
  induction es with
  | nil => rfl
  | cons e es ih =>
    obtain ⟨hc, hes⟩ := List.forall_mem_cons.mp h
    show replaceAll es ([c].flatMap _) = _
    rw [List.flatMap_singleton, if_neg hc]
    exact ih hes

/-- The ampersand goes first, so no replacement touches what an earlier one has written. -/
theorem escapeHtml_eq_replaceAll (t : Text) : escapeHtml t = replaceAll entities t := by
  induction t with
  | nil => rfl
  | cons c t ih =>
    have hchar : escapeChar c = replaceAll entities [c] := by
      rcases escapeChar_cases c with ⟨e, he, rfl, hescape⟩ | ⟨hne, hescape⟩
      · have hentity : ∀ e ∈ entities, replaceAll entities [e.2] = e.1 := by decide
        rw [hescape, hentity e he]
      · rw [hescape, replaceAll_singleton hne]
    have happend := replaceAll_append entities [c] t
    rw [escapeHtml_cons, ih, hchar]
    exact happend.symm

end replacing

section decoding
variable {c x : Char} {t rest : Text}

theorem entityAt?_append {e : Text × Char} (he : e ∈ entities) (t : Text) :
    entityAt? (e.1 ++ t) = some (e.2, t) := by
  simp only [entities, List.mem_cons, List.not_mem_nil, or_false] at he
  rcases he with rfl | rfl | rfl | rfl | rfl <;> rfl

theorem entityAt?_of_ne (hc : c ≠ '&') (t : Text) : entityAt? (c :: t) = none := by
  rw [entityAt?, List.findSome?_eq_none_iff]
  intro e he
  obtain ⟨m, hm⟩ := List.head?_eq_some_iff.mp (entities_spec e he).1
  rw [hm, afterPrefix?, if_neg (Ne.symm hc)]
  rfl

theorem decodeEntities_of_entityAt? (h : entityAt? t = some (x, rest)) :
    decodeEntities t = x :: decodeEntities rest := by
  cases t with
  | nil => cases h
  | cons c t =>
    rw [decodeEntities]
    split
    · rename_i h'
      obtain ⟨rfl, rfl⟩ := Prod.mk.inj (Option.some.inj (h.symm.trans h'))
      rfl
    · rename_i h'
      rw [h] at h'
      cases h'

theorem decodeEntities_cons (hc : c ≠ '&') (t : Text) :
    decodeEntities (c :: t) = c :: decodeEntities t := by
  have hnone := entityAt?_of_ne hc t
  rw [decodeEntities]
  split
  · rename_i h
    rw [hnone] at h
    cases h
  · rfl

theorem decodeEntities_escapeHtml (t : Text) : decodeEntities (escapeHtml t) = t := by
  induction t with
  | nil => rw [escapeHtml, List.flatMap_nil, decodeEntities]
  | cons c t ih =>
    rw [escapeHtml_cons]
    rcases escapeChar_cases c with ⟨e, he, rfl, hescape⟩ | ⟨hne, hescape⟩
    · rw [hescape, decodeEntities_of_entityAt? (entityAt?_append he _), ih]
    · have hamp : c ≠ '&' := hne ("&amp;".toList, '&') (by decide)
      rw [hescape, List.singleton_append, decodeEntities_cons hamp, ih]

end decoding

section template
variable {t : Text} {c : Char}

theorem literalText_eq (t : Text) : literalText t = (segments t).flatMap Segment.plain :=
  flatMap_consPart (fun _ => rfl) (fun _ => rfl) (fun _ _ => rfl) (segments t)

theorem count_render_of_escaped (h : ∀ before name after, ¬ TokenIn t before true name after)
    (lookup : Text → Text) (hc : c ∈ markupChars) :
    (render t lookup).count c = (literalText t).count c := by
  rw [render, literalText_eq, List.count_flatMap, List.count_flatMap]
  refine congrArg List.sum (List.map_congr_left fun s hs => ?_)
  cases s with
  | literal x => rfl
  | token raw name =>
    obtain ⟨before, after, hin⟩ := exists_tokenIn_of_mem_segments hs
    cases raw with
    | true => exact absurd hin (h before name after)
    | false => exact List.count_eq_zero.mpr (not_mem_escapeHtml hc)

/-- No token holds a markup character, so the template itself has as many. -/
theorem count_literalText (hc : c ∈ markupChars) : (literalText t).count c = t.count c := by
  have hwritten := congrArg (List.count c) (segments_written t)
  rw [← hwritten, literalText_eq, List.count_flatMap, List.count_flatMap]
  refine congrArg List.sum (List.map_congr_left fun s hs => ?_)
  cases s with
  | literal x => rfl
  | token raw name =>
    have hchars : ∀ c ∈ markupChars, isWordChar c = false ∧ c ∉ ['\x7b', '\x7d', '&'] :=
      forall_mem_of_all (by decide)
    obtain ⟨hword, hsyntax⟩ := hchars c hc
    have hnot : c ∉ tokenText raw name :=
      not_mem_tokenText (isName_of_mem_segments hs) hword hsyntax
    exact (List.count_eq_zero.mpr hnot).symm

end template

/-- Escaping can be undone and leaves nothing that works as markup. A template without raw tokens
has the markup characters of its own text, whatever data it is rendered with. -/
theorem escapeHtml_faithful :
    Function.Injective escapeHtml ∧
    (∀ v, escapeHtml v = replaceAll entities v ∧ IsEscaped (escapeHtml v) ∧
      decodeEntities (escapeHtml v) = v) ∧
    (∀ a b, escapeHtml (a ++ b) = escapeHtml a ++ escapeHtml b) ∧
    ∀ template, (∀ before name after, ¬ TokenIn template before true name after) →
      ∀ (lookup : Text → Text), ∀ c ∈ markupChars,
        (render template lookup).count c = (literalText template).count c ∧
          (literalText template).count c = template.count c := by
  refine ⟨?_, fun v => ?_, escapeHtml_append, fun template h lookup c hc => ?_⟩
  · intro a b hab
    rw [← decodeEntities_escapeHtml a, hab, decodeEntities_escapeHtml b]
  · exact ⟨escapeHtml_eq_replaceAll v, isEscaped_escapeHtml v, decodeEntities_escapeHtml v⟩
  · exact ⟨count_render_of_escaped h lookup hc, count_literalText hc⟩

theorem escapeHtml_faithful_attribute :
    (∀ before name after,
      ¬ TokenIn "<a title='\x7b\x7btitle\x7d\x7d'>".toList before true name after) ∧
    '\x27' ∈ markupChars ∧
    (render "<a title='\x7b\x7btitle\x7d\x7d'>".toList
      fun _ => "' onclick='x&#x27;".toList).count '\x27' = 2 := by
  have hraw : ∀ before name after,
      ¬ TokenIn "<a title='\x7b\x7btitle\x7d\x7d'>".toList before true name after := by
    intro before name after h
    have hamp : '&' ∈ "<a title='\x7b\x7btitle\x7d\x7d'>".toList := by
      rw [h.eq]
      simp [tokenText, tokenInner]
    exact absurd hamp (by decide)
  have hquote : '\x27' ∈ markupChars := by decide
  obtain ⟨_, _, _, hcount⟩ := escapeHtml_faithful
  obtain ⟨hrender, hliteral⟩ := hcount _ hraw (fun _ => "' onclick='x&#x27;".toList) _ hquote
  refine ⟨hraw, hquote, ?_⟩
  rw [hrender, hliteral]
  decide

end PageClip
