import PageClip.Page

/-! The names a page offers. Core fields come first and metadata only fills names that are
still free, so every name has one text that later metadata cannot change. -/

namespace PageClip

def coreNames : List Text :=
  ["title".toList, "url".toList, "selection".toList, "content".toList]

theorem get?_addMetadata (data : Dict Text) (entry : Text × Option Text) (key : Text) :
    (addMetadata data entry).get? key =
      (data.get? key).or
        (if isIdentifier key ∧ entry.1 = key then some (entry.2.getD []) else none) := by
  obtain ⟨name, value⟩ := entry
  by_cases hadd : isIdentifier name = true ∧ (data.get? name).isNone = true
  · rw [addMetadata, if_pos (by simpa using hadd), Dict.get?_set]
    obtain ⟨hid, hnone⟩ := hadd
    by_cases hk : name = key
    · subst hk
      rw [Option.isNone_iff_eq_none.mp hnone]
      simp [hid]
    · simp [hk]
  · rw [addMetadata, if_neg (by simpa using hadd)]
    by_cases hk : name = key
    · subst hk
      by_cases hid : isIdentifier name = true
      · cases hv : data.get? name with
        | none => exact absurd ⟨hid, Option.isNone_iff_eq_none.mpr hv⟩ hadd
        | some v => simp
      · simp [hid]
    · simp [hk]

/-- Among the metadata of one key the first entry counts, and only when the key is an identifier
that is not taken. -/
theorem get?_foldl_addMetadata (entries : Dict (Option Text)) (data : Dict Text) (key : Text) :
    Dict.get? (entries.foldl addMetadata data) key =
      (data.get? key).or
        (if isIdentifier key then (entries.get? key).map (·.getD []) else none) := by
  induction entries generalizing data with
  | nil => simp [Dict.get?]
  | cons entry rest ih =>
    obtain ⟨name, value⟩ := entry
    rw [List.foldl_cons, ih, get?_addMetadata, Option.or_assoc, Dict.get?]
    by_cases hid : isIdentifier key = true
    · by_cases hk : name = key <;> simp [hid, hk]
    · simp [hid]

theorem get?_templateData (page : Page) (key : Text) :
    page.templateData.get? key =
      (page.coreData.get? key).or
        (if isIdentifier key then (page.metadata.get? key).map (·.getD []) else none) :=
  get?_foldl_addMetadata page.metadata page.coreData key

theorem lookup_of_coreData {page : Page} {key value : Text}
    (h : page.coreData.get? key = some value) : page.lookup key = value := by
  rw [Page.lookup, get?_templateData, h]
  rfl

theorem lookup_of_identifier {page : Page} {key : Text} (hcore : page.coreData.get? key = none)
    (hid : isIdentifier key = true) : page.lookup key = page.metaValue key := by
  rw [Page.lookup, get?_templateData, hcore, if_pos hid, Option.none_or, Page.metaValue]
  cases page.metadata.get? key with
  | none => rfl
  | some value => rfl

/-- Which names come out empty depends on the title only through whether it is empty. -/
theorem isEmpty_lookup_title {page : Page} {title : Text}
    (h : title.isEmpty = page.title.isEmpty) (key : Text) :
    (({ page with title } : Page).lookup key).isEmpty = (page.lookup key).isEmpty := by
  by_cases htitle : key = "title".toList
  · subst htitle
    have hnew : Page.lookup { page with title } "title".toList = title := lookup_of_coreData rfl
    have hold : page.lookup "title".toList = page.title := lookup_of_coreData rfl
    rw [hnew, hold]
    exact h
  · have hcore : Dict.get? (Page.coreData { page with title }) key = page.coreData.get? key :=
      (if_neg (Ne.symm htitle)).trans (if_neg (Ne.symm htitle)).symm
    rw [Page.lookup, Page.lookup, get?_templateData, get?_templateData, hcore]

section keys

theorem keys_coreData (page : Page) : page.coreData.map Prod.fst = coreNames := rfl

theorem nodup_addMetadata {data : Dict Text} (h : (data.map Prod.fst).Nodup)
    (entry : Text × Option Text) : ((addMetadata data entry).map Prod.fst).Nodup := by
  rw [addMetadata]
  split
  · rename_i hadd
    obtain ⟨_, hfree⟩ := Bool.and_eq_true_iff.mp hadd
    have hnone := Option.isNone_iff_eq_none.mp hfree
    rw [Dict.set_of_get?_eq_none hnone, List.map_append]
    refine List.nodup_append.mpr ⟨h, by simp, ?_⟩
    rintro a ha b hb rfl
    rw [List.map_singleton, List.mem_singleton] at hb
    exact Dict.get?_eq_none_iff.mp hnone (hb ▸ ha)
  · exact h

/-- No name is exposed twice. -/
theorem nodup_templateData (page : Page) : (page.templateData.map Prod.fst).Nodup := by
  have hfold : ∀ (entries : Dict (Option Text)) (data : Dict Text),
      (data.map Prod.fst).Nodup → ((entries.foldl addMetadata data).map Prod.fst).Nodup := by
    intro entries
    induction entries with
    | nil => exact fun _ h => h
    | cons entry rest ih => exact fun _ h => ih _ (nodup_addMetadata h entry)
  have hcore : coreNames.Nodup := by decide
  exact hfold page.metadata page.coreData (keys_coreData page ▸ hcore)

theorem mem_templateData_iff {page : Page} {key value : Text} :
    (key, value) ∈ page.templateData ↔ page.templateData.get? key = some value :=
  ⟨Dict.get?_of_mem (nodup_templateData page), Dict.mem_of_get?⟩

theorem lookup_of_mem_templateData {page : Page} {key value : Text}
    (h : (key, value) ∈ page.templateData) : page.lookup key = value := by
  rw [Page.lookup, mem_templateData_iff.mp h]
  rfl

/-- Whatever its source, an exposed name is an identifier. -/
theorem isIdentifier_of_mem_templateData {page : Page} {key value : Text}
    (h : (key, value) ∈ page.templateData) : isIdentifier key = true := by
  rw [mem_templateData_iff, get?_templateData, Option.or_eq_some_iff] at h
  rcases h with hcore | ⟨_, hmeta⟩
  · have hids : ∀ name ∈ coreNames, isIdentifier name = true := by decide
    exact hids key (keys_coreData page ▸ List.mem_map.mpr ⟨_, Dict.mem_of_get? hcore, rfl⟩)
  · split at hmeta
    · rename_i hid
      exact hid
    · cases hmeta

end keys

end PageClip
