import PageClip.Proofs.CatalogSource
import PageClip.Proofs.PageOpacity
import PageClip.Proofs.TemplateParts

/-! Core fields next to metadata. What a fetched page declares about itself fills only the names
that are left, so a core field is the same text wherever a function asks for it. -/

namespace PageClip

/-- The names that metadata can fill. -/
def IsMetaName (key : Text) : Prop := isIdentifier key = true ∧ key ∉ coreNames

/-- A template literal that holds one interpolation. -/
def interpolated (inner : Text) : Text :=
  '\x60' :: ('$' :: '\x7b' :: (inner ++ ['\x7d']) ++ ['\x60'])

section names
variable {page a b : Page} {key value : Text}

theorem get?_coreData_eq_none_iff : page.coreData.get? key = none ↔ key ∉ coreNames :=
  Dict.get?_eq_none_iff

theorem mem_coreData_iff : (key, value) ∈ page.coreData ↔ page.coreData.get? key = some value := by
  have hnodup : coreNames.Nodup := by decide
  exact ⟨Dict.get?_of_mem (keys_coreData page ▸ hnodup), Dict.mem_of_get?⟩

theorem exists_mem_metadata_iff :
    (∃ entry, (key, entry) ∈ page.metadata) ↔ ∃ entry, page.metadata.get? key = some entry := by
  constructor
  · rintro ⟨entry, hentry⟩
    cases hget : page.metadata.get? key with
    | some found => exact ⟨found, rfl⟩
    | none => exact absurd (List.mem_map.mpr ⟨_, hentry, rfl⟩) (Dict.get?_eq_none_iff.mp hget)
  · rintro ⟨entry, hentry⟩
    exact ⟨entry, Dict.mem_of_get? hentry⟩

theorem mem_templateData_iff_core_or_meta :
    (key, value) ∈ page.templateData ↔ (key, value) ∈ page.coreData ∨
      IsMetaName key ∧ (∃ entry, (key, entry) ∈ page.metadata) ∧ value = page.metaValue key := by
  rw [mem_templateData_iff, get?_templateData, Option.or_eq_some_iff, mem_coreData_iff,
    get?_coreData_eq_none_iff, exists_mem_metadata_iff, IsMetaName, Page.metaValue]
  refine or_congr Iff.rfl ?_
  by_cases hid : isIdentifier key = true
  · rw [if_pos hid]
    cases page.metadata.get? key with
    | none => simp
    | some entry => simp [hid, eq_comm]
  · simp [hid]

/-- Pages with the same core fields and the same metadata under the names that metadata can fill
look alike to a template, whatever else is in their metadata. -/
theorem lookup_congr (hcore : a.coreData = b.coreData)
    (hmeta : ∀ key, IsMetaName key → a.metadata.get? key = b.metadata.get? key) :
    a.lookup = b.lookup := by
  funext key
  rw [Page.lookup, Page.lookup, get?_templateData, get?_templateData, ← hcore]
  cases hkey : a.coreData.get? key with
  | some value => rfl
  | none =>
    by_cases hid : isIdentifier key = true
    · rw [hmeta key ⟨hid, get?_coreData_eq_none_iff.mp hkey⟩]
    · rw [if_neg hid, if_neg hid]

end names

section references
variable {name u v : Text} {f : Field}

theorem evaluate_reference (hname : (name, f) ∈ fieldNames) (hu : Blank u) (hv : Blank v)
    (page : Page) : evaluate (u ++ name ++ v) page = page.lookup f.key := by
  have hwritten : Choice.Written (.one (.one (.field f))) (u ++ name ++ v) :=
    .one (.one hu hv (.field hname))
  rw [hwritten.evaluate_eq, ← f.value_eq_lookup]
  rfl

theorem evaluate_interpolated (hname : (name, f) ∈ fieldNames) (hu : Blank u) (hv : Blank v)
    (page : Page) : evaluate (interpolated (u ++ name ++ v)) page = page.lookup f.key := by
  have hchunks : ChunksWritten [.field f] ('$' :: '\x7b' :: (u ++ name ++ v ++ ['\x7d'])) := by
    have h := ChunksWritten.cons (.field hname hu hv) .nil
    rwa [List.append_nil] at h
  have hwritten : Choice.Written (.one (.one (.template [.field f])))
      (interpolated (u ++ name ++ v)) := .one (Term.Written.template hchunks).terms
  rw [hwritten.evaluate_eq, ← f.value_eq_lookup]
  exact List.append_nil _

theorem render_key (f : Field) (lookup : Text → Text) :
    render (tokenText true f.key) lookup = lookup f.key := by
  have hname : IsName f.key := by
    cases f <;> exact ⟨by decide, forall_mem_of_all (by decide)⟩
  exact render_tokenText hname lookup

end references

/-- A page exposes its core fields, and beside them the metadata under identifiers that are not
taken; no other metadata makes a difference to a template. So a reference to a field, its
interpolation and its token are one text. -/
theorem metadata_confined :
    (∀ page : Page, (page.templateData.map Prod.fst).Nodup ∧
      ∀ key value, (key, value) ∈ page.templateData ↔ (key, value) ∈ page.coreData ∨
        IsMetaName key ∧ (∃ entry, (key, entry) ∈ page.metadata) ∧
          value = page.metaValue key) ∧
    (∀ a b : Page, a.coreData = b.coreData →
      (∀ key, IsMetaName key → a.metadata.get? key = b.metadata.get? key) →
        ∀ t, render t a.lookup = render t b.lookup) ∧
    ∀ (page : Page) (name : Text) (f : Field) (u v : Text), (name, f) ∈ fieldNames →
      Blank u → Blank v →
        evaluate (u ++ name ++ v) page = page.lookup f.key ∧
        evaluate (interpolated (u ++ name ++ v)) page = page.lookup f.key ∧
        render (tokenText true f.key) page.lookup = page.lookup f.key := by
  refine ⟨fun page => ⟨nodup_templateData page, fun _ _ => mem_templateData_iff_core_or_meta⟩,
    ?_, ?_⟩
  · intro a b hcore hmeta t
    rw [lookup_congr hcore hmeta]
  · intro page name f u v hname hu hv
    exact ⟨evaluate_reference hname hu hv page, evaluate_interpolated hname hu hv page,
      render_key f page.lookup⟩

/-- A page whose metadata claims a core field and a name that is no identifier. -/
def claimingPage : Page where
  title := ['T']
  url := ['U']
  metadata := [("title".toList, some "evil".toList), ("og:title".toList, none),
    ("author".toList, some "Ann".toList)]

def honestPage : Page where
  title := ['T']
  url := ['U']
  metadata := [("author".toList, some "Ann".toList)]

theorem metadata_confined_claiming :
    claimingPage.coreData = honestPage.coreData ∧
      (∀ key, IsMetaName key →
        claimingPage.metadata.get? key = honestPage.metadata.get? key) ∧
      render "\x7b\x7btitle\x7d\x7d by \x7b\x7b&author\x7d\x7d".toList claimingPage.lookup =
        render "\x7b\x7btitle\x7d\x7d by \x7b\x7b&author\x7d\x7d".toList honestPage.lookup ∧
      ("page.title".toList, Field.title) ∈ fieldNames ∧ Blank [' '] ∧ Blank [] ∧
      evaluate ([' '] ++ "page.title".toList ++ []) claimingPage = ['T'] ∧
      evaluate (interpolated ([' '] ++ "page.title".toList ++ [])) claimingPage = ['T'] ∧
      render (tokenText true "title".toList) claimingPage.lookup = ['T'] := by
  have hcore : claimingPage.coreData = honestPage.coreData := rfl
  have hmeta : ∀ key, IsMetaName key →
      claimingPage.metadata.get? key = honestPage.metadata.get? key := by
    rintro key ⟨hid, hfree⟩
    have htitle : "title".toList ≠ key := by
      rintro rfl
      exact hfree (by decide)
    have hproperty : "og:title".toList ≠ key := by
      rintro rfl
      exact absurd hid (by decide)
    have hskip : claimingPage.metadata.get? key =
        Dict.get? [("author".toList, some "Ann".toList)] key :=
      (if_neg htitle).trans (if_neg hproperty)
    exact hskip
  have hname : ("page.title".toList, Field.title) ∈ fieldNames := by decide
  have hspace : Blank [' '] := blank_of_all (by decide)
  obtain ⟨_, hrender, hfield⟩ := metadata_confined
  have hreads := hfield claimingPage _ _ _ _ hname hspace Blank.nil
  exact ⟨hcore, hmeta, hrender _ _ hcore hmeta _, hname, hspace, Blank.nil, hreads⟩

end PageClip
