import PageClip.Proofs.CommentFree
import PageClip.Proofs.EntryForm
import PageClip.Proofs.FunctionParts
import PageClip.Proofs.Splitting

/-! Copy functions written from their entries. Whatever the blanks, commas and semicolons around
them, reading the function gives the expressions back. -/

namespace PageClip

/-- An entry that can be written: its expression is balanced, shows no comma to the top level and
opens no comment. -/
structure Entry where
  key : Text
  expr : Text
  key_ne : key ≠ []
  key_word : ∀ c ∈ key, isWordChar c = true
  balanced : Balanced expr
  comma : ',' ∉ Scan.start.outer expr
  comment : Scan.start.CommentFree expr

inductive Entry.Written (e : Entry) : Text → Prop where
  | mk {u v t} : Blank u → Blank v → EntryForm e.key (u ++ e.expr ++ v) t → e.Written t

/-- Entries between commas. A place between two commas, or behind the last, may stay empty. -/
inductive ObjectWritten : List Entry → Text → Prop where
  | blank {w} : Blank w → ObjectWritten [] w
  | last {e t} : e.Written t → ObjectWritten [e] t
  | cons {e es t r} : e.Written t → ObjectWritten es r → ObjectWritten (e :: es) (t ++ ',' :: r)
  | gap {es w r} : Blank w → ObjectWritten es r → ObjectWritten es (w ++ ',' :: r)

def functionHead : List Text :=
  ["(".toList, "page".toList, ")".toList, "=>".toList, ['{'], "return".toList, ['{']]

def semicolons : List (List Text) := [[], [[';']]]

inductive FunctionWritten (entries : List Entry) : Text → Prop where
  | mk {head object tail : Text} {a b : List Text} : Spaced functionHead head →
      ObjectWritten entries object → a ∈ semicolons → b ∈ semicolons →
      Spaced (['}'] :: (a ++ ['}'] :: b)) tail → FunctionWritten entries (head ++ (object ++ tail))

def firstExpr (entries : List Entry) (key : Text) : Option Text :=
  (entries.find? fun e => e.key == key).map fun e => trim e.expr

section entry
variable {e : Entry} {key r t u : Text}

theorem EntryForm.blank_append (h : EntryForm key r t) (hu : Blank u) :
    EntryForm key r (u ++ t) := by
  obtain ⟨hw, hq, hne, hkey, hv⟩ := h
  rw [← List.append_assoc]
  exact .mk (hu.append hw) hq hne hkey hv

theorem EntryForm.append (h : EntryForm key r t) (u : Text) : EntryForm key (r ++ u) (t ++ u) := by
  obtain ⟨hw, hq, hne, hkey, hv⟩ := h
  simp only [List.append_assoc, List.cons_append]
  exact .mk hw hq hne hkey hv

theorem Entry.Written.blank_append (h : e.Written t) (hu : Blank u) : e.Written (u ++ t) := by
  obtain ⟨hw, hv, hform⟩ := h
  exact .mk hw hv (hform.blank_append hu)

theorem Entry.Written.append_blank (h : e.Written t) (hu : Blank u) : e.Written (t ++ u) := by
  obtain ⟨hw, hv, hform⟩ := h
  have hform' := hform.append u
  rw [List.append_assoc] at hform'
  exact .mk hw (hv.append hu) hform'

theorem Entry.exists_written (e : Entry) : ∃ t, e.Written t :=
  ⟨_, .mk Blank.nil Blank.nil (.mk Blank.nil List.mem_cons_self e.key_ne e.key_word Blank.nil)⟩

theorem Entry.Written.entry? (h : e.Written t) : entry? t = some (e.key, trim e.expr) := by
  obtain ⟨hu, hv, hform⟩ := h
  rw [hform.entry?, trim_padded hu hv]

theorem Blank.commentFree {w : Text} (hw : Blank w) (s : Scan) : s.CommentFree w :=
  commentFree_of_not_mem (hw.not_mem (by decide))

theorem Entry.Written.exists_parts (h : e.Written t) :
    ∃ head v, t = head ++ (e.expr ++ v) ∧ Balanced head ∧ ',' ∉ head ∧ '/' ∉ head ∧ Blank v := by
  obtain ⟨hu, hv, hform⟩ := h
  rename_i u v
  obtain ⟨head, rfl, hhead, hcomma, hslash⟩ := hform.exists_head
  refine ⟨head ++ u, v, by simp, hhead.append hu.balanced, ?_, ?_, hv⟩
  · exact List.not_mem_append hcomma (hu.not_mem (by decide))
  · exact List.not_mem_append hslash (hu.not_mem (by decide))

theorem Entry.Written.balanced (h : e.Written t) : Balanced t := by
  obtain ⟨head, v, rfl, hhead, _, _, hv⟩ := h.exists_parts
  exact hhead.append (e.balanced.append hv.balanced)

theorem Entry.Written.comma (h : e.Written t) : ',' ∉ Scan.start.outer t := by
  obtain ⟨head, v, rfl, hhead, hcomma, _, hv⟩ := h.exists_parts
  rw [hhead.outer_append, e.balanced.outer_append]
  have hcomma' : ',' ∉ Scan.start.outer head := fun hm => hcomma (Scan.mem_of_mem_outer hm)
  exact List.not_mem_append hcomma' (List.not_mem_append e.comma (hv.not_mem_outer (by decide)))

theorem Entry.Written.commentFree (h : e.Written t) : Scan.start.CommentFree t := by
  obtain ⟨head, v, rfl, hhead, _, hslash, hv⟩ := h.exists_parts
  refine (commentFree_of_not_mem hslash).append ?_ (.inl hslash)
  rw [hhead.run_eq]
  refine e.comment.append (hv.commentFree _) (.inr fun c hc => ?_)
  exact ne_slash_star_of_blank (hv c (List.mem_of_head? hc))

end entry

section object
variable {es : List Entry} {t r u v : Text}

theorem balanced_comma (ht : Balanced t) (hr : Balanced r) : Balanced (t ++ ',' :: r) := by
  have hcomma : Balanced [','] := balanced_of_ordinary (forall_mem_of_all (by decide))
  exact ht.append (hcomma.append hr)

theorem commentFree_comma (hbal : Balanced t) (ht : Scan.start.CommentFree t)
    (hr : Scan.start.CommentFree r) : Scan.start.CommentFree (t ++ ',' :: r) := by
  have hcomma : Scan.start.CommentFree [','] := commentFree_of_not_mem (by decide)
  refine ht.append ?_ (.inr fun c hc => ?_)
  · rw [hbal.run_eq]
    exact hcomma.append hr (.inl (by decide))
  · obtain rfl := Option.some.inj hc
    decide

theorem splitTopLevel_comma (hbal : Balanced t) (ht : ',' ∉ Scan.start.outer t) (r : Text) :
    splitTopLevel [','] (t ++ ',' :: r) = t :: splitTopLevel [','] r :=
  splitTopLevel_append (forall_mem_of_all (by decide)) hbal.run_eq ht r

theorem entry?_of_blank (hu : Blank u) : entry? u = none := by
  cases h : entry? u with
  | none => rfl
  | some entry =>
    obtain ⟨r, hform, _⟩ := exists_of_entry? h
    obtain ⟨_, _, _, _, _⟩ := hform
    exact absurd (List.mem_append_right _ (by simp)) (hu.not_mem (x := ':') (by decide))

theorem ObjectWritten.blank_append (h : ObjectWritten es t) (hu : Blank u) :
    ObjectWritten es (u ++ t) := by
  cases h with
  | blank hw => exact .blank (hu.append hw)
  | last he => exact .last (he.blank_append hu)
  | cons he hr =>
    rw [← List.append_assoc]
    exact .cons (he.blank_append hu) hr
  | gap hw hr =>
    rw [← List.append_assoc]
    exact .gap (hu.append hw) hr

theorem ObjectWritten.append_blank (h : ObjectWritten es t) (hv : Blank v) :
    ObjectWritten es (t ++ v) := by
  induction h with
  | blank hw => exact .blank (hw.append hv)
  | last he => exact .last (he.append_blank hv)
  | cons he _ ih =>
    rw [List.append_assoc]
    exact .cons he ih
  | gap hw _ ih =>
    rw [List.append_assoc]
    exact .gap hw ih

theorem ObjectWritten.balanced (h : ObjectWritten es t) : Balanced t := by
  induction h with
  | blank hw => exact hw.balanced
  | last he => exact he.balanced
  | cons he _ ih => exact balanced_comma he.balanced ih
  | gap hw _ ih => exact balanced_comma hw.balanced ih

theorem ObjectWritten.commentFree (h : ObjectWritten es t) : Scan.start.CommentFree t := by
  induction h with
  | blank hw => exact hw.commentFree _
  | last he => exact he.commentFree
  | cons he _ ih => exact commentFree_comma he.balanced he.commentFree ih
  | gap hw _ ih => exact commentFree_comma hw.balanced (hw.commentFree _) ih

theorem ObjectWritten.filterMap_entry? (h : ObjectWritten es t) :
    (splitTopLevel [','] t).filterMap entry? = es.map fun e => (e.key, trim e.expr) := by
  induction h with
  | blank hw =>
    rw [splitTopLevel_eq_singleton (hw.not_mem_outer (by decide))]
    simp [entry?_of_blank hw]
  | last he =>
    rw [splitTopLevel_eq_singleton he.comma]
    simp [he.entry?]
  | cons he _ ih =>
    rw [splitTopLevel_comma he.balanced he.comma, List.filterMap_cons, he.entry?, ih,
      List.map_cons]
  | gap hw _ ih =>
    rw [splitTopLevel_comma hw.balanced (hw.not_mem_outer (by decide)), List.filterMap_cons,
      entry?_of_blank hw, ih]

theorem get?_map_eq_firstExpr (es : List Entry) (key : Text) :
    Dict.get? (es.map fun e => (e.key, trim e.expr)) key = firstExpr es key := by
  induction es with
  | nil => rfl
  | cons e es ih =>
    by_cases he : e.key = key
    · simp [Dict.get?, firstExpr, he]
    · simpa [Dict.get?, firstExpr, he] using ih

theorem ObjectWritten.objectFields (h : ObjectWritten es t) :
    objectFields t = ⟨firstExpr es "text".toList, firstExpr es "html".toList⟩ := by
  rw [PageClip.objectFields]
  simp only [h.filterMap_entry?, get?_map_eq_firstExpr]

theorem exists_objectWritten (es : List Entry) : ∃ t, ObjectWritten es t := by
  induction es with
  | nil => exact ⟨[], .blank Blank.nil⟩
  | cons e es ih =>
    obtain ⟨t, ht⟩ := e.exists_written
    obtain ⟨r, hr⟩ := ih
    exact ⟨_, .cons ht hr⟩

end object

section function
variable {es : List Entry} {code : Text} {tokens : List Text} {t : Text}

theorem not_mem_semicolons (ht : tokens ∈ semicolons) {x : Char} (hx : x ≠ ';') :
    ∀ token ∈ tokens, x ∉ token := by
  simp only [semicolons, List.mem_cons, List.not_mem_nil, or_false] at ht
  rcases ht with rfl | rfl
  · simp
  · simpa using hx

theorem not_mem_functionTail {a b : List Text} (ha : a ∈ semicolons) (hb : b ∈ semicolons)
    {x : Char} (hsemi : x ≠ ';') (hbrace : x ≠ '}') :
    ∀ token ∈ ['}'] :: (a ++ ['}'] :: b), x ∉ token := by
  have hclose : x ∉ ['}'] := by simpa using hbrace
  intro token htoken
  rcases List.mem_cons.mp htoken with rfl | htoken
  · exact hclose
  · rcases List.mem_append.mp htoken with htoken | htoken
    · exact not_mem_semicolons ha hsemi token htoken
    · rcases List.mem_cons.mp htoken with rfl | htoken
      · exact hclose
      · exact not_mem_semicolons hb hsemi token htoken

theorem exists_run_functionHead {head : Text} (h : Spaced functionHead head) :
    ∃ d, Scan.start.run head = .source d := by
  refine exists_run_source (fun c hc => ?_) 0
  rcases h.mem hc with hblank | ⟨token, htoken, hmem⟩
  · exact isQuote_eq_false_of_ordinary (isOrdinary_of_blank hblank)
  · have hall : ∀ token ∈ functionHead, token.all (fun c => !isQuote c) = true := by decide
    simpa using List.all_eq_true.mp (hall token htoken) c hmem

theorem FunctionWritten.commentFree (h : FunctionWritten es code) :
    Scan.start.CommentFree code := by
  obtain ⟨hhead, hobj, ha, hb, htail⟩ := h
  have hslash := hhead.not_mem (x := '/') (by decide) (by decide)
  have htail' := htail.not_mem (x := '/') (by decide)
    (not_mem_functionTail ha hb (by decide) (by decide))
  obtain ⟨d, hrun⟩ := exists_run_functionHead hhead
  refine (commentFree_of_not_mem hslash).append ?_ (.inl hslash)
  rw [hrun]
  refine (hobj.commentFree.source d).append (commentFree_of_not_mem htail') (.inr fun c hc => ?_)
  cases htail with
  | cons hw _ =>
    rcases head?_blank_append hw hc with hblank | rfl
    · exact ne_slash_star_of_blank hblank
    · decide

theorem FunctionWritten.exists_object (h : FunctionWritten es code) :
    ∃ body object, functionBody? code = some body ∧ returnedObject? false body = some object ∧
      ObjectWritten es object := by
  obtain ⟨hhead, hobj, ha, hb, htail⟩ := h
  rename_i head object tail a b
  obtain ⟨start, r, hstart, hr, rfl⟩ := Spaced.split (a := functionStart) hhead
  cases htail with
  | @cons w₀ _ _ tail hw₀ htail =>
    obtain ⟨m, rest, hm, hrest, rfl⟩ := htail.split
    have hend : Spaced [] rest ∨ Spaced [[';']] rest := by
      simp only [semicolons, List.mem_cons, List.not_mem_nil, or_false] at hb
      rcases hb with rfl | rfl
      · exact .inl hrest
      · exact .inr hrest
    cases hr with
    | @cons w₁ _ _ _ hw₁ hr =>
      cases hr with
      | @cons w₂ _ _ w₃ hw₂ hr =>
        have hobj' := (hobj.blank_append hr.blank).append_blank hw₀
        have hform : FunctionForm
            (start ++ (['{'] ++ (w₁ ++ ("return".toList ++ (w₂ ++ (['{'] ++ w₃))))) ++
              (object ++ (w₀ ++ (['}'] ++ (m ++ (['}'] ++ rest))))))
            (w₁ ++ ("return".toList ++ (w₂ ++ '{' :: (w₃ ++ object ++ w₀ ++ '}' :: m)))) :=
          ⟨start, rest, hstart, hend, by simp⟩
        refine ⟨_, w₃ ++ object ++ w₀, functionBody?_eq_some_iff.mpr hform, ?_, hobj'⟩
        rw [returnedObject?_blank_append hw₁]
        exact returnedObject?_return hw₂ hobj'.balanced m

theorem exists_functionWritten (es : List Entry) : ∃ code, FunctionWritten es code := by
  obtain ⟨t, ht⟩ := exists_objectWritten es
  have hhead : Spaced functionHead functionHead.flatten := by
    refine .cons Blank.nil (.cons Blank.nil (.cons Blank.nil (.cons Blank.nil ?_)))
    exact .cons Blank.nil (.cons Blank.nil (.cons Blank.nil (.nil Blank.nil)))
  have htail : Spaced [['}'], ['}']] ['}', '}'] :=
    .cons Blank.nil (.cons Blank.nil (.nil Blank.nil))
  exact ⟨_, .mk (a := []) (b := []) hhead ht (by decide) (by decide) htail⟩

end function

/-- A function can be written from any entries, and however it is written, reading it finds the
first expression of text and of html, without the blanks around them, and nothing else. -/
theorem parseFunction_written (entries : List Entry) :
    (∃ code, FunctionWritten entries code) ∧ ∀ code, FunctionWritten entries code →
      parseFunction code =
        .ok ⟨firstExpr entries "text".toList, firstExpr entries "html".toList⟩ := by
  refine ⟨exists_functionWritten entries, fun code h => ?_⟩
  obtain ⟨body, object, hbody, hreturned, hobject⟩ := h.exists_object
  rw [parseFunction, stripComments_eq_self h.commentFree, hbody]
  simp only [hreturned, hobject.objectFields]

theorem parseFunction_written_trailing_comma :
    parseFunction ("(page) => \x7b return \x7b 'text': 'a, \x7d' + f(1, 2) ".toList ++
      ", x: \x7b\x7d, text: 0,\x7d; \x7d;".toList) =
        .ok ⟨some "'a, \x7d' + f(1, 2)".toList, none⟩ := by
  let text : Entry :=
    { key := "text".toList, expr := "'a, \x7d' + f(1, 2)".toList, key_ne := by decide,
      key_word := forall_mem_of_all (by decide), balanced := by decide +kernel,
      comma := by decide +kernel, comment := by decide +kernel }
  let other : Entry :=
    { key := "x".toList, expr := "\x7b\x7d".toList, key_ne := by decide,
      key_word := forall_mem_of_all (by decide), balanced := by decide, comma := by decide,
      comment := by decide }
  let late : Entry :=
    { key := "text".toList, expr := "0".toList, key_ne := by decide,
      key_word := forall_mem_of_all (by decide), balanced := by decide, comma := by decide,
      comment := by decide }
  have hs : Blank [' '] := by simp [Blank, isBlank]
  have htext : text.Written " 'text': 'a, \x7d' + f(1, 2) ".toList :=
    .mk hs hs (.mk (q := ['\x27']) hs (by decide) text.key_ne text.key_word Blank.nil)
  have hother : other.Written " x: \x7b\x7d".toList :=
    .mk hs Blank.nil (.mk (q := []) hs (by decide) other.key_ne other.key_word Blank.nil)
  have hlate : late.Written " text: 0".toList :=
    .mk hs Blank.nil (.mk (q := []) hs (by decide) late.key_ne late.key_word Blank.nil)
  have hobject := ObjectWritten.cons htext (.cons hother (.cons hlate (.blank Blank.nil)))
  have hhead : Spaced functionHead "(page) => \x7b return \x7b".toList :=
    .cons Blank.nil (.cons Blank.nil (.cons Blank.nil (.cons hs (.cons hs (.cons hs (.cons hs
      (.nil Blank.nil)))))))
  have htail : Spaced [['}'], [';'], ['}'], [';']] "\x7d; \x7d;".toList :=
    .cons Blank.nil (.cons Blank.nil (.cons hs (.cons Blank.nil (.nil Blank.nil))))
  have hcode : "(page) => \x7b return \x7b 'text': 'a, \x7d' + f(1, 2) ".toList ++
      ", x: \x7b\x7d, text: 0,\x7d; \x7d;".toList =
        "(page) => \x7b return \x7b".toList ++ (" 'text': 'a, \x7d' + f(1, 2) ".toList ++ ',' ::
          (" x: \x7b\x7d".toList ++ ',' :: (" text: 0".toList ++ [','])) ++ "\x7d; \x7d;".toList) := by
    decide +kernel
  have htexts : firstExpr [text, other, late] "text".toList =
      some "'a, \x7d' + f(1, 2)".toList := by rfl
  have hhtml : firstExpr [text, other, late] "html".toList = none := by rfl
  rw [hcode, ← htexts, ← hhtml]
  exact (parseFunction_written [text, other, late]).2 _
    (.mk (a := [[';']]) (b := [[';']]) hhead hobject (by decide) (by decide) htail)

end PageClip
