import PageClip.Proofs.EntryForm
import PageClip.Proofs.FunctionParts
import PageClip.Proofs.Splitting

/-! Where the expressions of a function end. Whatever the source, an expression found in it is a
part of the source that closes all it opens and holds no second entry. -/

namespace PageClip

/-- An expression cut out of a source at its true ends. -/
structure Delimited (source expr : Text) : Prop where
  inside : expr <:+: source
  trimmed : Trimmed expr
  balanced : Balanced expr
  single : splitTopLevel [','] expr = [expr]

def Clip.get? {α : Type} (c : Clip α) (name : Text) : Option α :=
  if name = "text".toList then c.text else if name = "html".toList then c.html else none

theorem Balanced.of_append_blank {t w : Text} (h : Balanced (t ++ w)) (hw : Blank w) :
    Balanced t := by
  have hquoted : (Scan.start.run t).Quoted := Scan.Quoted.run (s := .start) trivial t
  have hrun := h.run_eq
  rw [Scan.run_append] at hrun
  exact ⟨hquoted.eq_source_of_run_blank hw hrun, (Scan.above_append.mp h.above).1⟩

theorem mem_entries_of_get? {object name expr : Text}
    (h : (objectFields object).get? name = some expr) :
    (name = "text".toList ∨ name = "html".toList) ∧
      ∃ part ∈ splitTopLevel [','] object, entry? part = some (name, expr) := by
  rw [Clip.get?, objectFields] at h
  split at h
  · rename_i hname
    subst hname
    exact ⟨.inl rfl, List.mem_filterMap.mp (Dict.mem_of_get? h)⟩
  · split at h
    · rename_i hname
      subst hname
      exact ⟨.inr rfl, List.mem_filterMap.mp (Dict.mem_of_get? h)⟩
    · simp at h

theorem delimited_of_entry? {object part name expr : Text} (hobject : Balanced object)
    (hpart : part ∈ splitTopLevel [','] object) (h : entry? part = some (name, expr)) :
    Delimited object expr := by
  obtain ⟨hin, hbal, hcomma⟩ := mem_splitTopLevel_spec (by decide) hobject hpart
  obtain ⟨r, hform, rfl⟩ := exists_of_entry? h
  obtain ⟨head, rfl, hhead, _, _⟩ := hform.exists_head
  obtain ⟨u, v, hr, hu, hv, htrimmed⟩ := trim_spec r
  have hrbal := hbal.of_append hhead
  rw [hr, List.append_assoc] at hrbal
  have hrest := hrbal.of_append hu.balanced
  have hexpr := hrest.of_append_blank hv
  have hout : ',' ∉ Scan.start.outer (trim r) := by
    rw [hhead.outer_append, hr, List.append_assoc, hu.balanced.outer_append,
      hexpr.outer_append] at hcomma
    simp only [List.mem_append, not_or] at hcomma
    exact hcomma.2.2.1
  refine ⟨?_, htrimmed, hexpr, splitTopLevel_eq_singleton hout⟩
  refine List.IsInfix.trans ?_ hin
  exact ⟨head ++ u, v, by rw [List.append_assoc, List.append_assoc, ← List.append_assoc u, ← hr]⟩

theorem parseFunction_spec {code : Text} {fields : Clip Text}
    (h : parseFunction code = .ok fields) :
    ∃ object, Balanced object ∧ object <:+: stripComments code ∧ fields = objectFields object := by
  rw [parseFunction] at h
  split at h
  · simp at h
  · rename_i body hbody
    split at h
    · simp at h
    · rename_i object hobject
      obtain ⟨hbal, hin⟩ := returnedObject?_spec hobject
      obtain rfl := Except.ok.inj h
      exact ⟨object, hbal, hin.trans (infix_of_functionBody? hbody), rfl⟩

/-- Every field that is found in a source, whatever the source, is the text or the html field and
cut out at its true ends. -/
theorem parseFunction_delimited {code : Text} {fields : Clip Text}
    (h : parseFunction code = .ok fields) {name expr : Text}
    (hf : fields.get? name = some expr) :
    (name = "text".toList ∨ name = "html".toList) ∧ Delimited (stripComments code) expr := by
  obtain ⟨object, hbal, hin, rfl⟩ := parseFunction_spec h
  obtain ⟨hname, part, hpart, hentry⟩ := mem_entries_of_get? hf
  have hd := delimited_of_entry? hbal hpart hentry
  exact ⟨hname, hd.inside.trans hin, hd.trimmed, hd.balanced, hd.single⟩

theorem parseFunction_delimited_mixed_brackets :
    Delimited (stripComments "(page)=>\x7breturn\x7btext: ['\x7d', 1) /*,*/ , html\x7d\x7d".toList)
      "['\x7d', 1)".toList := by
  have hparse : parseFunction "(page)=>\x7breturn\x7btext: ['\x7d', 1) /*,*/ , html\x7d\x7d".toList =
      .ok ⟨some "['\x7d', 1)".toList, none⟩ := by rfl
  have hfield : Clip.get? ⟨some "['\x7d', 1)".toList, none⟩ "text".toList =
      some "['\x7d', 1)".toList := rfl
  exact (parseFunction_delimited hparse hfield).2

end PageClip
