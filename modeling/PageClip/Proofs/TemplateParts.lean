import Mathlib.Data.List.Basic
import PageClip.Proofs.Blank
import PageClip.Page
import PageClip.Template
import PageClip.Value

/-! The parts of a template. Two tokens never overlap, so reading from the left finds every token
that stands in the template, and rendering fills these and copies the text between them. -/

namespace PageClip

def IsName (name : Text) : Prop := name ≠ [] ∧ ∀ c ∈ name, isWordChar c = true

/-- A token behind its two opening braces. -/
def tokenInner (raw : Bool) (name : Text) : Text :=
  (if raw then ['&'] else []) ++ (name ++ ['}', '}'])

def tokenText (raw : Bool) (name : Text) : Text := '{' :: '{' :: tokenInner raw name

/-- A complete token somewhere in a text. -/
structure TokenIn (t before : Text) (raw : Bool) (name after : Text) : Prop where
  isName : IsName name
  eq : t = before ++ (tokenText raw name ++ after)

/-- A run of literal text, or a token. -/
inductive TemplatePart where
  | text (t : Text)
  | token (raw : Bool) (name : Text)

def TemplatePart.written : TemplatePart → Text
  | .text t => t
  | .token raw name => tokenText raw name

def TemplatePart.fill (data : Dict Value) : TemplatePart → Text
  | .text t => t
  | .token raw name =>
    match data.get? name with
    | none => []
    | some .null => []
    | some v => if raw then v.display else escapeHtml v.display

/-- The data that a page gives to a template. -/
def Page.values (page : Page) : Dict Value := page.templateData.map fun e => (e.1, .text e.2)

/-- The parts are what the template was written as, and no token is left inside a text or cut in
two by the end of a part. -/
structure Segmentation (t : Text) (parts : List TemplatePart) : Prop where
  written : parts.flatMap TemplatePart.written = t
  named : ∀ raw name, TemplatePart.token raw name ∈ parts → IsName name
  complete : ∀ before raw name after, TokenIn t before raw name after →
    ∃ ps qs, parts = ps ++ .token raw name :: qs ∧
      ps.flatMap TemplatePart.written = before ∧ qs.flatMap TemplatePart.written = after
  plain : ∀ u, TemplatePart.text u ∈ parts → ∀ before raw name after,
    ¬ TokenIn u before raw name after
  apart : ∀ before raw name after before' raw' name' after',
    TokenIn t before raw name after → TokenIn t before' raw' name' after' →
      before.length < before'.length → before ++ tokenText raw name <+: before'

def Segment.written : Segment → Text
  | .literal c => [c]
  | .token raw name => tokenText raw name

/-- Adds a segment in front of the parts, a literal character to the text that they start with. -/
def consPart : Segment → List TemplatePart → List TemplatePart
  | .literal c, .text t :: parts => .text (c :: t) :: parts
  | .literal c, parts => .text [c] :: parts
  | .token raw name, parts => .token raw name :: parts

def templateParts (t : Text) : List TemplatePart := (segments t).foldr consPart []

section token
variable {t rest before after before' after' name name' : Text} {raw raw' : Bool} {s : Segment}

theorem not_mem_tokenInner (hname : IsName name) : '{' ∉ tokenInner raw name := by
  have hopen : isWordChar '{' = false := by decide
  have hn : '{' ∉ name := by
    intro h
    have hw := hname.2 '{' h
    rw [hopen] at hw
    cases hw
  cases raw <;> simp [tokenInner, hn]

theorem tokenInner_ne_nil : tokenInner raw name ≠ [] := by
  cases raw <;> simp [tokenInner]

theorem not_mem_tokenText {x : Char} (hname : IsName name) (hword : isWordChar x = false)
    (hx : x ∉ ['\x7b', '\x7d', '&']) : x ∉ tokenText raw name := by
  have hn : x ∉ name := by
    intro h
    rw [hname.2 x h] at hword
    cases hword
  simp only [List.mem_cons, List.not_mem_nil, or_false, not_or] at hx
  cases raw <;> simp [tokenText, tokenInner, hx, hn]

theorem tokenAt?_tokenText (hname : IsName name) (rest : Text) :
    tokenAt? (tokenText raw name ++ rest) = some (.token raw name, rest) := by
  obtain ⟨hne, hword⟩ := hname
  obtain ⟨c, n, rfl⟩ := List.exists_cons_of_ne_nil hne
  have hc : c ≠ '&' := by
    rintro rfl
    exact absurd (hword '&' List.mem_cons_self) (by decide)
  have hbrace : isWordChar '}' = false := by decide
  obtain ⟨htake, hdrop⟩ := takeWhile_append_eq (p := isWordChar) (a := c :: n)
    (b := '}' :: '}' :: rest) hword (fun x hx => by rw [← Option.some.inj hx]; exact hbrace)
  cases raw with
  | true =>
    have ht : tokenText true (c :: n) ++ rest =
        '{' :: '{' :: '&' :: (c :: n ++ '}' :: '}' :: rest) := by
      simp [tokenText, tokenInner]
    rw [ht, tokenAt?]
    simp only [htake, hdrop]
  | false =>
    have ht : tokenText false (c :: n) ++ rest = '{' :: '{' :: (c :: n ++ '}' :: '}' :: rest) := by
      simp [tokenText, tokenInner]
    rw [ht, tokenAt?]
    · simp only [htake, hdrop]
    · exact fun u hu => hc (List.cons.inj hu).1

theorem tokenAt?_eq_some_iff :
    tokenAt? t = some (s, rest) ↔
      ∃ raw name, IsName name ∧ s = .token raw name ∧ t = tokenText raw name ++ rest := by
  constructor
  · intro h
    have hname : ∀ u c name rest, u.takeWhile isWordChar = c :: name →
        u.dropWhile isWordChar = rest → u = c :: name ++ rest ∧ IsName (c :: name) := by
      intro u c name rest htake hdrop
      refine ⟨by rw [← htake, ← hdrop, List.takeWhile_append_dropWhile], by simp, fun x hx => ?_⟩
      rw [← htake] at hx
      exact List.all_eq_true.mp List.all_takeWhile x hx
    unfold tokenAt? at h
    split at h
    · rename_i u
      dsimp only at h
      split at h
      · rename_i c name rest' htake hdrop
        obtain ⟨rfl, rfl⟩ := Prod.mk.inj (Option.some.inj h)
        obtain ⟨hu, hn⟩ := hname _ c name _ htake hdrop
        split at hu
        · exact ⟨_, _, hn, rfl, by simpa [tokenText, tokenInner] using hu⟩
        · exact ⟨_, _, hn, rfl, by simpa [tokenText, tokenInner] using hu⟩
      · cases h
    · cases h
  · rintro ⟨raw, name, hname, rfl, rfl⟩
    exact tokenAt?_tokenText hname rest

theorem TokenIn.tokenAt?_eq (h : TokenIn t [] raw name after) :
    tokenAt? t = some (.token raw name, after) :=
  tokenAt?_eq_some_iff.mpr ⟨raw, name, h.isName, rfl, h.eq⟩

/-- A token that starts behind the start of another one starts behind its end. -/
theorem TokenIn.prefix_of_ne_nil (h : TokenIn t [] raw name after)
    (h' : TokenIn t before' raw' name' after') (hne : before' ≠ []) :
    tokenText raw name <+: before' := by
  have hinner : '{' ∉ tokenInner raw name := not_mem_tokenInner h.isName
  obtain ⟨x, u, rfl⟩ := List.exists_cons_of_ne_nil hne
  obtain ⟨rfl, htail⟩ := List.cons.inj (h.eq.symm.trans h'.eq)
  cases u with
  | nil =>
    -- The second brace of the later token would be the first character of the inner part.
    have hstart : tokenInner raw name ++ after = [] ++ '{' :: (tokenInner raw' name' ++ after') :=
      (List.cons.inj htail).2
    obtain ⟨d, hd, _⟩ := exists_append_of_not_mem hinner hstart
    exact absurd (List.append_eq_nil_iff.mp hd.symm).1 tokenInner_ne_nil
  | cons y u =>
    obtain ⟨rfl, hrest⟩ := List.cons.inj htail
    obtain ⟨d, rfl, _⟩ := exists_append_of_not_mem hinner hrest
    exact ⟨d, rfl⟩

theorem TokenIn.apart (h : TokenIn t before raw name after)
    (h' : TokenIn t before' raw' name' after') (hlt : before.length < before'.length) :
    before ++ tokenText raw name <+: before' := by
  have heq := h.eq.symm.trans h'.eq
  rcases List.append_eq_append_iff.mp heq with ⟨d, rfl, hd⟩ | ⟨d, rfl, _⟩
  · have hne : d ≠ [] := by
      rintro rfl
      simp at hlt
    have hhead : TokenIn (tokenText raw name ++ after) [] raw name after := ⟨h.isName, rfl⟩
    have htail : TokenIn (tokenText raw name ++ after) d raw' name' after' := ⟨h'.isName, hd⟩
    exact List.prefix_append_right_inj before |>.mpr (hhead.prefix_of_ne_nil htail hne)
  · rw [List.length_append] at hlt
    omega

end token

section segments
variable {t before after name : Text} {raw : Bool}

theorem segments_written (t : Text) : (segments t).flatMap Segment.written = t := by
  fun_induction segments t with
  | case1 => rfl
  | case2 c u s rest htoken ih =>
    obtain ⟨raw, name, _, rfl, ht⟩ := tokenAt?_eq_some_iff.mp htoken
    rw [List.flatMap_cons, ih, ht]
    rfl
  | case3 c u hnone ih =>
    rw [List.flatMap_cons, ih]
    rfl

theorem isName_of_mem_segments (h : Segment.token raw name ∈ segments t) : IsName name := by
  fun_induction segments t with
  | case1 => simp at h
  | case2 c u s rest htoken ih =>
    rcases List.mem_cons.mp h with rfl | h
    · obtain ⟨_, _, hname, hs, _⟩ := tokenAt?_eq_some_iff.mp htoken
      obtain ⟨_, rfl⟩ := Segment.token.inj hs
      exact hname
    · exact ih h
  | case3 c u hnone ih =>
    rcases List.mem_cons.mp h with h | h
    · cases h
    · exact ih h

theorem TokenIn.segments_eq (h : TokenIn t before raw name after) :
    ∃ ss ts, segments t = ss ++ .token raw name :: ts ∧
      ss.flatMap Segment.written = before ∧ ts.flatMap Segment.written = after := by
  -- A token is found when the reader comes to its start, and no token met before it reaches
  -- beyond that place.
  fun_induction segments t generalizing before with
  | case1 =>
    have hnil := h.eq
    simp [tokenText] at hnil
  | case2 c u s rest htoken ih =>
    obtain ⟨raw', name', hname', rfl, ht⟩ := tokenAt?_eq_some_iff.mp htoken
    have hhead : TokenIn (c :: u) [] raw' name' rest := ⟨hname', ht⟩
    by_cases hnil : before = []
    · subst hnil
      obtain ⟨hs, rfl⟩ := Prod.mk.inj (Option.some.inj (htoken.symm.trans h.tokenAt?_eq))
      obtain ⟨rfl, rfl⟩ := Segment.token.inj hs
      exact ⟨[], segments rest, rfl, rfl, segments_written rest⟩
    · obtain ⟨d, rfl⟩ := hhead.prefix_of_ne_nil h hnil
      have hrest : TokenIn rest d raw name after := by
        refine ⟨h.isName, ?_⟩
        have heq := ht.symm.trans h.eq
        rw [List.append_assoc] at heq
        exact List.append_cancel_left heq
      obtain ⟨ss, ts, hsplit, rfl, hts⟩ := ih hrest
      exact ⟨.token raw' name' :: ss, ts, by rw [hsplit]; rfl, rfl, hts⟩
  | case3 c u hnone ih =>
    cases before with
    | nil =>
      rw [h.tokenAt?_eq] at hnone
      cases hnone
    | cons x before =>
      obtain ⟨rfl, hu⟩ := List.cons.inj h.eq
      obtain ⟨ss, ts, hsplit, rfl, hts⟩ := ih ⟨h.isName, hu⟩
      exact ⟨.literal c :: ss, ts, by rw [hsplit]; rfl, rfl, hts⟩

theorem exists_tokenIn_of_mem_segments (h : Segment.token raw name ∈ segments t) :
    ∃ before after, TokenIn t before raw name after := by
  obtain ⟨ss, ts, hsplit⟩ := List.append_of_mem h
  refine ⟨ss.flatMap Segment.written, ts.flatMap Segment.written, isName_of_mem_segments h, ?_⟩
  rw [← segments_written t, hsplit, List.flatMap_append, List.flatMap_cons]
  rfl

theorem render_tokenText (hname : IsName name) (lookup : Text → Text) :
    render (tokenText raw name) lookup = Segment.fill lookup (.token raw name) := by
  have htoken : tokenAt? (tokenText raw name ++ []) = some (.token raw name, []) :=
    tokenAt?_tokenText hname []
  rw [List.append_nil] at htoken
  have hsegments : segments (tokenText raw name) = [.token raw name] := by
    rw [tokenText, segments]
    split
    · rename_i h
      obtain ⟨rfl, rfl⟩ := Prod.mk.inj (Option.some.inj (htoken.symm.trans h))
      rw [segments]
    · rename_i h
      rw [tokenText, h] at htoken
      cases htoken
  rw [render, hsegments, List.flatMap_singleton]

/-- A template without tokens is rendered as it stands. -/
theorem render_eq_self (h : ∀ before raw name after, ¬ TokenIn t before raw name after)
    (lookup : Text → Text) : render t lookup = t := by
  have hfill : ∀ s ∈ segments t, s.fill lookup = s.written := by
    intro s hs
    cases s with
    | literal c => rfl
    | token raw name =>
      obtain ⟨before, after, hin⟩ := exists_tokenIn_of_mem_segments hs
      exact absurd hin (h before raw name after)
  rw [render, List.flatMap_congr hfill, segments_written]

end segments

section parts
variable {t : Text}

/-- Joining literal characters changes nothing that treats every character alone. -/
theorem flatMap_consPart {f : TemplatePart → Text} {g : Segment → Text}
    (htext : ∀ t, f (.text t) = t) (hliteral : ∀ c, g (.literal c) = [c])
    (htoken : ∀ raw name, f (.token raw name) = g (.token raw name)) (ss : List Segment) :
    (ss.foldr consPart []).flatMap f = ss.flatMap g := by
  induction ss with
  | nil => rfl
  | cons s ss ih =>
    rw [List.foldr_cons, List.flatMap_cons, ← ih]
    cases s with
    | token raw name => rw [consPart, List.flatMap_cons, htoken]
    | literal c =>
      rw [hliteral]
      cases ss.foldr consPart [] with
      | nil => simp [consPart, htext]
      | cons p parts =>
        cases p with
        | text t => simp [consPart, htext]
        | token raw name => simp [consPart, htext]

theorem foldr_consPart_token (ss ts : List Segment) (raw : Bool) (name : Text) :
    (ss ++ .token raw name :: ts).foldr consPart [] =
      ss.foldr consPart [] ++ .token raw name :: ts.foldr consPart [] := by
  induction ss with
  | nil => rfl
  | cons s ss ih =>
    rw [List.cons_append, List.foldr_cons, List.foldr_cons, ih]
    cases s with
    | token raw' name' => rfl
    | literal c =>
      cases ss.foldr consPart [] with
      | nil => rfl
      | cons p parts => cases p <;> rfl

theorem mem_of_mem_consPart {ss : List Segment} {raw : Bool} {name : Text}
    (h : TemplatePart.token raw name ∈ ss.foldr consPart []) : .token raw name ∈ ss := by
  induction ss with
  | nil => simp at h
  | cons s ss ih =>
    rw [List.foldr_cons] at h
    cases s with
    | token raw' name' =>
      rcases List.mem_cons.mp h with h | h
      · obtain ⟨rfl, rfl⟩ := TemplatePart.token.inj h
        exact List.mem_cons_self
      · exact List.mem_cons_of_mem _ (ih h)
    | literal c =>
      refine List.mem_cons_of_mem _ (ih ?_)
      cases hparts : ss.foldr consPart [] with
      | nil => simp [hparts, consPart] at h
      | cons p parts => cases p <;> simpa [hparts, consPart] using h

theorem templateParts_written (t : Text) :
    (templateParts t).flatMap TemplatePart.written = t := by
  have h := flatMap_consPart (f := TemplatePart.written) (g := Segment.written) (fun _ => rfl)
    (fun _ => rfl) (fun _ _ => rfl) (segments t)
  rw [templateParts, h, segments_written]

theorem TokenIn.templateParts_eq {before after name : Text} {raw : Bool}
    (h : TokenIn t before raw name after) :
    ∃ ps qs, templateParts t = ps ++ .token raw name :: qs ∧
      ps.flatMap TemplatePart.written = before ∧ qs.flatMap TemplatePart.written = after := by
  obtain ⟨ss, ts, hsplit, rfl, rfl⟩ := h.segments_eq
  have hjoin := flatMap_consPart (f := TemplatePart.written) (g := Segment.written) (fun _ => rfl)
    (fun _ => rfl) (fun _ _ => rfl)
  refine ⟨ss.foldr consPart [], ts.foldr consPart [], ?_, hjoin ss, hjoin ts⟩
  rw [templateParts, hsplit, foldr_consPart_token]

/-- A token inside a text would be a part at a place where the text is one. -/
theorem not_tokenIn_of_text_mem {u before after name : Text} {raw : Bool}
    (hu : TemplatePart.text u ∈ templateParts t) : ¬ TokenIn u before raw name after := by
  intro h
  obtain ⟨ps, qs, hparts⟩ := List.append_of_mem hu
  have ht := templateParts_written t
  rw [hparts, List.flatMap_append, List.flatMap_cons, TemplatePart.written, h.eq] at ht
  have hin : TokenIn t (ps.flatMap TemplatePart.written ++ before) raw name
      (after ++ qs.flatMap TemplatePart.written) := ⟨h.isName, by rw [← ht]; simp⟩
  obtain ⟨ps', qs', hparts', hbefore, _⟩ := hin.templateParts_eq
  rw [hparts] at hparts'
  rcases List.append_eq_append_iff.mp hparts' with ⟨d, rfl, hd⟩ | ⟨d, rfl, hd⟩
  · cases d with
    | nil => cases (List.cons.inj hd).1
    | cons p d =>
      obtain ⟨rfl, _⟩ := List.cons.inj hd
      have hlen := congrArg List.length hbefore
      simp [TemplatePart.written, h.eq, tokenText] at hlen
  · cases d with
    | nil => cases (List.cons.inj hd).1
    | cons p d =>
      obtain ⟨rfl, _⟩ := List.cons.inj hd
      have hlen := congrArg List.length hbefore
      simp [TemplatePart.written, tokenText] at hlen

theorem segmentation_templateParts (t : Text) : Segmentation t (templateParts t) where
  written := templateParts_written t
  named _ _ h := isName_of_mem_segments (mem_of_mem_consPart h)
  complete _ _ _ _ h := h.templateParts_eq
  plain _ hu _ _ _ _ := not_tokenIn_of_text_mem hu
  apart _ _ _ _ _ _ _ _ h h' hlt := h.apart h' hlt

end parts

theorem fill_segment (data : Dict Value) (raw : Bool) (name : Text) :
    TemplatePart.fill data (.token raw name) = Segment.fill (displayIn data) (.token raw name) := by
  have hnil : escapeHtml [] = [] := rfl
  rw [TemplatePart.fill]
  cases h : data.get? name with
  | none => cases raw <;> simp [Segment.fill, displayIn, h, hnil]
  | some v => cases v <;> cases raw <;> simp [Segment.fill, displayIn, h, hnil, Value.display]

theorem displayIn_values (page : Page) : displayIn page.values = page.lookup := by
  have hget : ∀ (d : Dict Text) (key : Text),
      Dict.get? (d.map fun e => (e.1, Value.text e.2)) key = (d.get? key).map .text := by
    intro d key
    induction d with
    | nil => rfl
    | cons e d ih =>
      rw [List.map_cons, Dict.get?, Dict.get?, ih]
      split <;> rfl
  funext name
  rw [displayIn, Page.values, hget, Page.lookup]
  cases page.templateData.get? name <;> rfl

theorem render_eq_fill (t : Text) (data : Dict Value) :
    render t (displayIn data) = (templateParts t).flatMap (TemplatePart.fill data) :=
  (flatMap_consPart (fun _ => rfl) (fun _ => rfl) (fill_segment data) (segments t)).symm

/-- One reading of the template serves all data: what is filled in is never read again. -/
theorem render_segmentation (t : Text) :
    ∃ parts, Segmentation t parts ∧
      (∀ data : Dict Value,
        render t (displayIn data) = parts.flatMap (TemplatePart.fill data)) ∧
      ∀ page : Page, render t page.lookup = parts.flatMap (TemplatePart.fill page.values) := by
  refine ⟨templateParts t, segmentation_templateParts t, render_eq_fill t, fun page => ?_⟩
  rw [← displayIn_values, render_eq_fill]

end PageClip
