import PageClip.Proofs.FieldExtent
import PageClip.Service

/-! What becomes of a stored function. Its source or its catalog entry decides alone whether it
runs and which fields it fills; the page decides only what the fields say. -/

namespace PageClip

/-- Which fields there are. -/
def Clip.present {α : Type} (c : Clip α) : Clip Unit := c.map fun _ => ()

/-- The fields as entries of a dictionary. -/
def Clip.entries {α : Type} (c : Clip α) : Dict α :=
  (c.text.toList.map fun t => ("text".toList, t)) ++ c.html.toList.map fun t => ("html".toList, t)

/-- What a validation tells about a source: its expressions by field, or what is wrong with it. -/
structure Report where
  valid : Bool
  fields : Dict Text
  error : Option Text

def Report.toValue (r : Report) : Value :=
  record [("valid", .bool r.valid), ("fields", .dict (r.fields.map fun e => (e.1, .text e.2))),
    ("error", textOrNull r.error)]

def reportOf : Except Failure (Clip Text) → Report
  | .ok fields => ⟨true, fields.entries, none⟩
  | .error reason => ⟨false, [], some reason.message⟩

/-- What a source that is not blank makes of a run. -/
structure SourceDecides (f : CopyFunction) (page : Page) : Prop where
  error_iff : ∀ e, f.execute page = .error e ↔
    ∃ reason, parseFunction f.code = .error reason ∧ e = .failed reason
  reason : ∀ reason, parseFunction f.code = .error reason →
    reason = .invalidFormat ∨ reason = .missingReturn
  message : ∀ e, f.execute page = .error e → ∃ reason, parseFunction f.code = .error reason ∧
    e.message = "Failed to execute function: ".toList ++ reason.message
  ok_iff : ∀ clip, f.execute page = .ok clip ↔
    ∃ fields, parseFunction f.code = .ok fields ∧
      ∀ name, clip.get? name = (fields.get? name).map (evaluate · page)
  alone : ∀ templateId options,
    ({ f with templateId, options } : CopyFunction).execute page = f.execute page

/-- What a catalog entry makes of a run. -/
structure EntryDecides (f : CopyFunction) (id : Text) (page : Page) : Prop where
  execute_eq : f.execute page = (executeTemplate id page f.options).mapError .failed
  error_iff : ∀ e, f.execute page = .error e ↔
    (∀ entry ∈ catalog, entry.id ≠ id) ∧ e = .failed (.unknownTemplate id)

/-- The report of a validation foretells the run. -/
structure Report.Foretells (r : Report) (result : Except ExecutionError (Clip Text)) (page : Page) :
    Prop where
  valid_iff : r.valid = true ↔ ∃ clip, result = .ok clip
  fields : ∀ clip, result = .ok clip →
    ∀ name, clip.get? name = (r.fields.get? name).map (evaluate · page)
  error : ∀ e, result = .error e →
    ∃ detail, r.error = some detail ∧ e.message = "Failed to execute function: ".toList ++ detail

section clip
variable {α β : Type} {c d : Clip α}

theorem Clip.ext_get? (h : ∀ name, c.get? name = d.get? name) : c = d := by
  obtain ⟨text, html⟩ := c
  obtain ⟨text', html'⟩ := d
  have htext : text = text' := h "text".toList
  have hhtml : html = html' := h "html".toList
  rw [htext, hhtml]

theorem Clip.get?_map (f : α → β) (c : Clip α) (name : Text) :
    (c.map f).get? name = (c.get? name).map f := by
  rw [Clip.get?, Clip.get?]
  split
  · rfl
  · split <;> rfl

theorem Clip.present_map (f : α → β) (c : Clip α) : (c.map f).present = c.present := by
  simp [Clip.present, Clip.map, Function.comp_def]

theorem get?_toList_append (key : Text) (v : Option α) (rest : Dict α) (name : Text) :
    Dict.get? ((v.toList.map fun t => (key, t)) ++ rest) name =
      if key = name then v.or (rest.get? name) else rest.get? name := by
  cases v with
  | none => simp
  | some t => simp [Dict.get?]

theorem Clip.get?_entries (c : Clip α) (name : Text) : c.entries.get? name = c.get? name := by
  have hhtml := get?_toList_append "html".toList c.html [] name
  rw [List.append_nil] at hhtml
  rw [Clip.entries, get?_toList_append, hhtml, Clip.get?]
  by_cases ht : "text".toList = name
  · subst ht
    rw [if_pos rfl, if_pos rfl, if_neg (by decide)]
    exact Option.or_none
  · rw [if_neg ht, if_neg (Ne.symm ht)]
    by_cases hh : "html".toList = name
    · rw [if_pos hh, if_pos hh.symm]
      exact Option.or_none
    · rw [if_neg hh, if_neg (Ne.symm hh)]
      rfl

theorem presentClip_eq (c : Clip Text) :
    presentClip c = .dict (c.entries.map fun e => (e.1, .text e.2)) := by
  obtain ⟨text, html⟩ := c
  cases text <;> cases html <;> rfl

end clip

section source
variable {f : CopyFunction} {page : Page}

theorem all_isBlank_iff {t : Text} : t.all isBlank = true ↔ Blank t := List.all_eq_true

theorem execute_of_not_blank (h : ¬ Blank f.code) (page : Page) :
    f.execute page = (extract f.code page).mapError .failed := by
  have hcode : (!f.code.all isBlank) = true := by
    rw [Bool.not_eq_true', Bool.eq_false_iff]
    exact mt all_isBlank_iff.mp h
  rw [CopyFunction.execute, if_pos hcode]

theorem execute_of_template (h : Blank f.code) {id : Text} (hid : f.templateId = some id)
    (hne : id ≠ []) (page : Page) :
    f.execute page = (executeTemplate id page f.options).mapError .failed := by
  obtain ⟨c, r, rfl⟩ := List.exists_cons_of_ne_nil hne
  rw [CopyFunction.execute, all_isBlank_iff.mpr h, hid]
  rfl

theorem execute_of_nothing (h : Blank f.code) (hid : ∀ id, f.templateId = some id → id = [])
    (page : Page) : f.execute page = .error (.nothingToRun f.id) := by
  rw [CopyFunction.execute, all_isBlank_iff.mpr h]
  cases ht : f.templateId with
  | none => rfl
  | some id =>
    rw [hid id ht]
    rfl

/-- Reading a source can fail in two ways only. -/
theorem parseFunction_error {code : Text} {reason : Failure}
    (h : parseFunction code = .error reason) :
    reason = .invalidFormat ∨ reason = .missingReturn := by
  rw [parseFunction] at h
  split at h
  · exact .inl (Except.error.inj h).symm
  · split at h
    · exact .inr (Except.error.inj h).symm
    · cases h

theorem execute_of_error (h : ¬ Blank f.code) {reason : Failure}
    (hparse : parseFunction f.code = .error reason) (page : Page) :
    f.execute page = .error (.failed reason) := by
  rw [execute_of_not_blank h, extract, hparse]
  rfl

theorem execute_of_ok (h : ¬ Blank f.code) {fields : Clip Text}
    (hparse : parseFunction f.code = .ok fields) (page : Page) :
    f.execute page = .ok (fields.map (evaluate · page)) := by
  rw [execute_of_not_blank h, extract, hparse]
  rfl

theorem eq_map_evaluate_iff {clip fields : Clip Text} :
    clip = fields.map (evaluate · page) ↔
      ∀ name, clip.get? name = (fields.get? name).map (evaluate · page) := by
  constructor
  · rintro rfl name
    exact Clip.get?_map ..
  · intro hget
    exact Clip.ext_get? fun name => by rw [hget, Clip.get?_map]

theorem sourceDecides (h : ¬ Blank f.code) (page : Page) : SourceDecides f page := by
  have herror : ∀ e, f.execute page = .error e ↔
      ∃ reason, parseFunction f.code = .error reason ∧ e = .failed reason := by
    intro e
    cases hparse : parseFunction f.code with
    | error reason =>
      rw [execute_of_error h hparse]
      simp [eq_comm]
    | ok fields =>
      rw [execute_of_ok h hparse]
      simp
  refine ⟨herror, fun reason => parseFunction_error, fun e he => ?_, fun clip => ?_,
    fun templateId options => ?_⟩
  · obtain ⟨reason, hparse, rfl⟩ := (herror e).mp he
    exact ⟨reason, hparse, rfl⟩
  · cases hparse : parseFunction f.code with
    | error reason =>
      rw [execute_of_error h hparse]
      simp
    | ok fields =>
      rw [execute_of_ok h hparse]
      simp only [Except.ok.injEq, exists_eq_left', ← eq_map_evaluate_iff]
      exact eq_comm
  · rw [execute_of_not_blank h]
    exact execute_of_not_blank (f := { f with templateId, options }) h page

end source

section entry
variable {f : CopyFunction} {id : Text}

theorem findEntry_error_iff {reason : Failure} :
    findEntry id = .error reason ↔
      (∀ entry ∈ catalog, entry.id ≠ id) ∧ reason = .unknownTemplate id := by
  rw [findEntry]
  cases hfind : catalog.find? fun e => e.id == id with
  | none =>
    have hall : ∀ entry ∈ catalog, entry.id ≠ id := by simpa using List.find?_eq_none.mp hfind
    constructor
    · intro h
      exact ⟨hall, (Except.error.inj h).symm⟩
    · rintro ⟨_, rfl⟩
      rfl
  | some e =>
    have hid : e.id = id := by simpa using List.find?_some hfind
    constructor
    · intro h
      cases h
    · rintro ⟨hall, _⟩
      exact absurd hid (hall e (List.mem_of_find?_eq_some hfind))

theorem mem_catalog_of_findEntry {e : CatalogEntry} (h : findEntry id = .ok e) : e ∈ catalog := by
  rw [findEntry] at h
  split at h
  · rename_i hfind
    exact Except.ok.inj h ▸ List.mem_of_find?_eq_some hfind
  · cases h

theorem entryDecides (h : Blank f.code) (hid : f.templateId = some id) (hne : id ≠ [])
    (page : Page) : EntryDecides f id page := by
  have hrun := execute_of_template h hid hne page
  refine ⟨hrun, fun e => ?_⟩
  cases hfind : findEntry id with
  | error reason =>
    obtain ⟨hall, rfl⟩ := findEntry_error_iff.mp hfind
    have herror : f.execute page = .error (.failed (.unknownTemplate id)) := by
      rw [hrun, executeTemplate, hfind]
      rfl
    rw [herror]
    exact ⟨fun he => ⟨hall, (Except.error.inj he).symm⟩, fun he => congrArg Except.error he.2.symm⟩
  | ok entry =>
    have hok : f.execute page = .ok (entry.evaluate page f.options) := by
      rw [hrun, executeTemplate, hfind]
      rfl
    rw [hok]
    refine ⟨(by simp), fun he => ?_⟩
    rw [findEntry_error_iff.mpr ⟨he.1, rfl⟩] at hfind
    cases hfind

/-- A catalog entry fills the same fields on every page. -/
theorem present_evaluate {e : CatalogEntry} (he : e ∈ catalog) (options : Options) (p q : Page) :
    (e.evaluate p options).present = (e.evaluate q options).present := by
  simp only [catalog, List.mem_cons, List.not_mem_nil, or_false] at he
  rcases he with rfl | rfl | rfl | rfl | rfl | rfl <;> rfl

end entry

section run
variable {f : CopyFunction}

/-- A run is decided by the source, by a catalog entry, or by neither. -/
theorem decided_cases (f : CopyFunction) :
    ¬ Blank f.code ∨ (Blank f.code ∧ ∃ id, f.templateId = some id ∧ id ≠ []) ∨
      (Blank f.code ∧ ∀ id, f.templateId = some id → id = []) := by
  by_cases hcode : Blank f.code
  · right
    cases hid : f.templateId with
    | none => exact .inr ⟨hcode, fun id h => by cases h⟩
    | some id =>
      by_cases hne : id = []
      · exact .inr ⟨hcode, fun id' h => (Option.some.inj h) ▸ hne⟩
      · exact .inl ⟨hcode, id, rfl, hne⟩
  · exact .inl hcode

/-- Which fields a run fills, and how it fails, does not depend on the page. -/
theorem execute_present (f : CopyFunction) (p q : Page) :
    (f.execute p).map Clip.present = (f.execute q).map Clip.present := by
  rcases decided_cases f with hcode | ⟨hcode, id, hid, hne⟩ | ⟨hcode, hid⟩
  · cases hparse : parseFunction f.code with
    | error reason => rw [execute_of_error hcode hparse, execute_of_error hcode hparse]
    | ok fields =>
      have hpresent :
          (fields.map (evaluate · p)).present = (fields.map (evaluate · q)).present := by
        rw [Clip.present_map, Clip.present_map]
      rw [execute_of_ok hcode hparse, execute_of_ok hcode hparse]
      exact congrArg Except.ok hpresent
  · rw [execute_of_template hcode hid hne, execute_of_template hcode hid hne, executeTemplate,
      executeTemplate]
    cases hfind : findEntry id with
    | error reason => rfl
    | ok e =>
      have hpresent := present_evaluate (mem_catalog_of_findEntry hfind) f.options p q
      exact congrArg Except.ok hpresent
  · rw [execute_of_nothing hcode hid, execute_of_nothing hcode hid]

/-- A run fails in one of four ways, and none of them holds another failure of a run. -/
theorem execute_error {page : Page} {e : ExecutionError} (h : f.execute page = .error e) :
    e = .nothingToRun f.id ∨ e = .failed .invalidFormat ∨ e = .failed .missingReturn ∨
      ∃ id, f.templateId = some id ∧ e = .failed (.unknownTemplate id) := by
  rcases decided_cases f with hcode | ⟨hcode, id, hid, hne⟩ | ⟨hcode, hid⟩
  · obtain ⟨reason, hparse, rfl⟩ := ((sourceDecides hcode page).error_iff e).mp h
    rcases parseFunction_error hparse with rfl | rfl
    · exact .inr (.inl rfl)
    · exact .inr (.inr (.inl rfl))
  · obtain ⟨_, rfl⟩ := ((entryDecides hcode hid hne page).error_iff e).mp h
    exact .inr (.inr (.inr ⟨id, hid, rfl⟩))
  · rw [execute_of_nothing hcode hid] at h
    exact .inl (Except.error.inj h).symm

theorem body_validation (result : Except Failure (Clip Text)) :
    (Answer.validation result).body = (reportOf result).toValue := by
  cases result with
  | ok fields =>
    rw [Answer.body, presentClip_eq]
    rfl
  | error reason => rfl

theorem reportOf_foretells (h : ¬ Blank f.code) (page : Page) :
    (reportOf (parseFunction f.code)).Foretells (f.execute page) page := by
  cases hparse : parseFunction f.code with
  | ok fields =>
    rw [execute_of_ok h hparse]
    refine ⟨⟨fun _ => ⟨_, rfl⟩, fun _ => rfl⟩, fun clip hclip name => ?_, (by simp)⟩
    obtain rfl := Except.ok.inj hclip
    rw [reportOf, Clip.get?_entries, Clip.get?_map]
  | error reason =>
    rw [execute_of_error h hparse]
    refine ⟨by simp [reportOf], (by simp), fun e he => ?_⟩
    obtain rfl := Except.error.inj he
    exact ⟨reason.message, rfl, rfl⟩

end run

/-- The outcome of a run is determined: by the source when there is one, which a validation
foretells, else by the catalog entry, and without either there is nothing to run. The page has no
part in whether it fails, how, and which fields there are. -/
theorem execute_determined (f : CopyFunction) (page : Page) :
    (¬ Blank f.code → SourceDecides f page ∧ ∀ web, ∃ report : Report,
      (Job.run web (.validate f.code)).answer.body = report.toValue ∧
        report.Foretells (f.execute page) page) ∧
    (Blank f.code → ∀ id, f.templateId = some id → id ≠ [] → EntryDecides f id page) ∧
    (Blank f.code → (∀ id, f.templateId = some id → id = []) →
      f.execute page = .error (.nothingToRun f.id)) ∧
    (∀ e, f.execute page = .error e →
      e = .nothingToRun f.id ∨ e = .failed .invalidFormat ∨ e = .failed .missingReturn ∨
        ∃ id, f.templateId = some id ∧ e = .failed (.unknownTemplate id)) ∧
    ∀ other, (f.execute other).map Clip.present = (f.execute page).map Clip.present := by
  refine ⟨fun hcode => ⟨sourceDecides hcode page, fun web => ?_⟩, fun hcode id hid hne => ?_,
    fun hcode hid => ?_, fun e => execute_error, fun other => execute_present f other page⟩
  · exact ⟨_, body_validation (parseFunction f.code), reportOf_foretells hcode page⟩
  · exact entryDecides hcode hid hne page
  · exact execute_of_nothing hcode hid page

/-- A source of the wrong form fails though its entry exists, an unknown entry fails behind a blank
source, and a blank source alone is nothing to run. -/
theorem execute_determined_failures :
    CopyFunction.execute ⟨['f'], "page.title".toList, some "selected-text".toList, none⟩
        ⟨['t'], ['/'], [], [], []⟩ = .error (.failed .invalidFormat) ∧
      CopyFunction.execute ⟨['f'], ['\u00a0', '\n'], some "other".toList, none⟩
        ⟨['t'], ['/'], [], [], []⟩ = .error (.failed (.unknownTemplate "other".toList)) ∧
      CopyFunction.execute ⟨['f'], ['\n'], some [], none⟩
        ⟨['t'], ['/'], [], [], []⟩ = .error (.nothingToRun ['f']) := by
  refine ⟨?_, ?_, ?_⟩
  · have hd := (execute_determined ⟨['f'], "page.title".toList, some "selected-text".toList, none⟩
      ⟨['t'], ['/'], [], [], []⟩).1 (mt all_isBlank_iff.mpr (by decide))
    exact (hd.1.error_iff _).mpr ⟨.invalidFormat, rfl, rfl⟩
  · have hd := (execute_determined ⟨['f'], ['\u00a0', '\n'], some "other".toList, none⟩
      ⟨['t'], ['/'], [], [], []⟩).2.1 (all_isBlank_iff.mp (by decide)) _ rfl (by decide)
    exact (hd.error_iff _).mpr ⟨by decide, rfl⟩
  · exact (execute_determined _ _).2.2.1 (all_isBlank_iff.mp (by decide)) fun _ h =>
      (Option.some.inj h).symm

end PageClip
