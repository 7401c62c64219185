import Mathlib.Data.List.Induction
import PageClip.HtmlPage

/-! The metadata of a page against its meta elements. The last element of a name gives its content,
and a common name that no element gives takes the place of a related one. -/

namespace PageClip

/-- A meta element gives a name and its content, neither of them empty. Its property is its name
when it has no other. -/
structure Declares (attributes : Dict Text) (name content : Text) : Prop where
  name_ne_nil : name ≠ []
  content_ne_nil : content ≠ []
  named : attributes.get? "name".toList = some name ∨
    ((attributes.get? "name".toList).getD [] = [] ∧
      attributes.get? "property".toList = some name)
  content_eq : attributes.get? "content".toList = some content

/-- The last element that gives a name gives it this content. -/
def LastDeclared (elements : List (Dict Text)) (name content : Text) : Prop :=
  ∃ before attributes after, elements = before ++ attributes :: after ∧
    Declares attributes name content ∧ ∀ e ∈ after, ∀ c, ¬ Declares e name c

def commonNames : List Text := ["description".toList, "keywords".toList, "author".toList]

/-- Common names, and the names whose content stands in for theirs. -/
def relatedNames : List (Text × Text) :=
  [("description".toList, "og:description".toList), ("author".toList, "article:author".toList)]

/-- The metadata of a page whose meta elements have these attributes. -/
structure MetadataOf (elements : List (Dict Text)) (metadata : Dict (Option Text)) : Prop where
  nodup : (metadata.map Prod.fst).Nodup
  keys : ∀ key, key ∈ metadata.map Prod.fst ↔
    (∃ c, LastDeclared elements key c) ∨ key ∈ commonNames
  declared : ∀ key c, LastDeclared elements key c → metadata.get? key = some (some c)
  related : ∀ key source c, (key, source) ∈ relatedNames → (∀ c, ¬ LastDeclared elements key c) →
    LastDeclared elements source c → metadata.get? key = some (some c)
  absent : ∀ key ∈ commonNames, (∀ c, ¬ LastDeclared elements key c) →
    (∀ source, (key, source) ∈ relatedNames → ∀ c, ¬ LastDeclared elements source c) →
      metadata.get? key = some none

section declared
variable {attributes : Dict Text} {elements : List (Dict Text)} {name content t : Text}

theorem attributeText_eq_iff {key : String} (h : t ≠ []) :
    attributeText key attributes = t ↔ attributes.get? key.toList = some t := by
  rw [attributeText]
  cases attributes.get? key.toList with
  | none => simp [Ne.symm h]
  | some v => simp

theorem metaEntry?_eq_some_iff :
    metaEntry? attributes = some (name, content) ↔ Declares attributes name content := by
  have hentry : metaEntry? attributes = some (name, content) ↔ name ≠ [] ∧ content ≠ [] ∧
      (attributeText "name" attributes = name ∨ (attributeText "name" attributes = [] ∧
        attributeText "property" attributes = name)) ∧
      attributeText "content" attributes = content := by
    unfold metaEntry?
    cases attributeText "name" attributes with
    | nil =>
      cases attributeText "property" attributes with
      | nil => cases attributeText "content" attributes <;> grind
      | cons p ps => cases attributeText "content" attributes <;> grind
    | cons n ns => cases attributeText "content" attributes <;> grind
  rw [hentry]
  constructor
  · rintro ⟨hname, hcontent, hnamed, hgiven⟩
    rw [attributeText_eq_iff hname, attributeText_eq_iff hname] at hnamed
    exact ⟨hname, hcontent, hnamed, (attributeText_eq_iff hcontent).mp hgiven⟩
  · rintro ⟨hname, hcontent, hnamed, hgiven⟩
    refine ⟨hname, hcontent, ?_, (attributeText_eq_iff hcontent).mpr hgiven⟩
    rw [attributeText_eq_iff hname, attributeText_eq_iff hname]
    exact hnamed

theorem not_lastDeclared_nil : ¬ LastDeclared [] name content := by
  rintro ⟨before, attributes, after, h, _⟩
  simp at h

theorem lastDeclared_append_singleton :
    LastDeclared (elements ++ [attributes]) name content ↔
      Declares attributes name content ∨
        ((∀ c, ¬ Declares attributes name c) ∧ LastDeclared elements name content) := by
  constructor
  · rintro ⟨before, e, after, hsplit, he, hafter⟩
    -- Whether the element that counts is the appended one depends on what is behind it.
    cases after using List.reverseRecOn with
    | nil =>
      obtain ⟨_, hlast⟩ := List.append_inj' hsplit rfl
      obtain rfl := List.singleton_inj.mp hlast
      exact .inl he
    | append_singleton after last _ =>
      have hsplit' : elements ++ [attributes] = (before ++ e :: after) ++ [last] := by
        rw [hsplit, List.append_assoc, List.cons_append]
      obtain ⟨helements, hlast⟩ := List.append_inj' hsplit' rfl
      obtain rfl := List.singleton_inj.mp hlast
      exact .inr ⟨hafter _ (by simp), before, e, after, helements, he,
        fun e' he' => hafter e' (List.mem_append_left _ he')⟩
  · rintro (h | ⟨hnone, before, e, after, rfl, he, hafter⟩)
    · exact ⟨elements, attributes, [], rfl, h, by simp⟩
    · refine ⟨before, e, after ++ [attributes], by simp, he, fun e' he' => ?_⟩
      rcases List.mem_append.mp he' with he' | he'
      · exact hafter e' he'
      · obtain rfl := List.mem_singleton.mp he'
        exact hnone

theorem collectMetadata_append_singleton :
    collectMetadata (elements ++ [attributes]) =
      match metaEntry? attributes with
      | some (name, content) => (collectMetadata elements).set name content
      | none => collectMetadata elements := by
  rw [collectMetadata, List.filterMap_append, Dict.ofEntries, List.foldl_append,
    List.filterMap_cons]
  cases metaEntry? attributes with
  | none => rfl
  | some e => rfl

theorem nodup_collectMetadata (elements : List (Dict Text)) :
    ((collectMetadata elements).map Prod.fst).Nodup := by
  induction elements using List.reverseRecOn with
  | nil => exact List.nodup_nil
  | append_singleton elements attributes ih =>
    rw [collectMetadata_append_singleton]
    split
    · exact Dict.nodup_set ih _ _
    · exact ih

theorem get?_collectMetadata :
    (collectMetadata elements).get? name = some content ↔ LastDeclared elements name content := by
  induction elements using List.reverseRecOn with
  | nil => exact ⟨fun h => (by cases h), fun h => absurd h not_lastDeclared_nil⟩
  | append_singleton elements attributes ih =>
    rw [collectMetadata_append_singleton, lastDeclared_append_singleton]
    cases hentry : metaEntry? attributes with
    | none =>
      have hnone : ∀ c, ¬ Declares attributes name c := fun c hc => by
        rw [metaEntry?_eq_some_iff.mpr hc] at hentry
        cases hentry
      simp [hnone, ih]
    | some e =>
      obtain ⟨k, v⟩ := e
      have hgives : ∀ {c}, Declares attributes name c ↔ k = name ∧ v = c := fun {c} => by
        rw [← metaEntry?_eq_some_iff, hentry, Option.some.injEq, Prod.mk.injEq]
      rw [Dict.get?_set, hgives]
      by_cases hk : k = name
      · simp [hk, hgives]
      · simp [hk, hgives, ih]

theorem get?_collectMetadata_eq_none :
    (collectMetadata elements).get? name = none ↔ ∀ c, ¬ LastDeclared elements name c := by
  rw [Option.eq_none_iff_forall_ne_some]
  exact forall_congr' fun c => not_congr get?_collectMetadata

end declared

section normal
variable {elements : List (Dict Text)} {key source c : Text}

def commonMetadata (collected : Dict Text) : Dict (Option Text) :=
  metadataNames.map fun e => (e.1, e.2.findSome? (Dict.get? collected))

theorem get?_normalMetadata {collected : Dict Text} (h : (collected.map Prod.fst).Nodup) :
    (normalMetadata collected).get? key =
      ((collected.get? key).map some).or ((commonMetadata collected).get? key) := by
  have hkeys : (List.map Prod.fst (collected.map fun e => (e.1, some e.2))).Nodup := by
    rw [List.map_map]
    exact h
  rw [normalMetadata, Dict.get?_override hkeys, Dict.get?_map]
  rfl

theorem keys_commonMetadata (collected : Dict Text) :
    (commonMetadata collected).map Prod.fst = commonNames := rfl

theorem metadataNames_eq : metadataNames =
    [("description".toList, ["description".toList, "og:description".toList]),
      ("keywords".toList, ["keywords".toList]),
      ("author".toList, ["author".toList, "article:author".toList])] := by
  decide +kernel

theorem mem_metadataNames_of_related (h : (key, source) ∈ relatedNames) :
    (key, [key, source]) ∈ metadataNames := by
  rw [metadataNames_eq]
  simp only [relatedNames, List.mem_cons, List.not_mem_nil, or_false, Prod.mk.injEq] at h
  rcases h with ⟨rfl, rfl⟩ | ⟨rfl, rfl⟩ <;> simp

theorem get?_commonMetadata {collected : Dict Text} {sources : List Text}
    (h : (key, sources) ∈ metadataNames) :
    (commonMetadata collected).get? key = some (sources.findSome? (Dict.get? collected)) := by
  have hnodup : (metadataNames.map Prod.fst).Nodup := by decide +kernel
  rw [commonMetadata, Dict.get?_map, Dict.get?_of_mem hnodup h]
  rfl

theorem sources_of_commonName (h : key ∈ commonNames) :
    ∃ sources, (key, sources) ∈ metadataNames ∧
      ∀ source ∈ sources, source = key ∨ (key, source) ∈ relatedNames := by
  rw [metadataNames_eq]
  simp only [commonNames, List.mem_cons, List.not_mem_nil, or_false] at h
  rcases h with rfl | rfl | rfl <;> simp [relatedNames]

theorem mem_keys_normalMetadata {collected : Dict Text} (h : (collected.map Prod.fst).Nodup) :
    key ∈ (normalMetadata collected).map Prod.fst ↔
      (∃ c, collected.get? key = some c) ∨ key ∈ commonNames := by
  rw [Dict.mem_keys_iff, get?_normalMetadata h, ← keys_commonMetadata collected, Dict.mem_keys_iff]
  cases collected.get? key with
  | none => simp
  | some c => simp

theorem metadataOf_normalMetadata (elements : List (Dict Text)) :
    MetadataOf elements (normalMetadata (collectMetadata elements)) := by
  have hnodup := nodup_collectMetadata elements
  constructor
  case nodup =>
    have hcommon : ((commonMetadata (collectMetadata elements)).map Prod.fst).Nodup := by
      rw [keys_commonMetadata]
      decide +kernel
    exact Dict.nodup_override hcommon _
  case keys =>
    intro key
    rw [mem_keys_normalMetadata hnodup]
    simp only [get?_collectMetadata]
  case declared =>
    intro key c hkey
    rw [get?_normalMetadata hnodup, get?_collectMetadata.mpr hkey]
    rfl
  case related =>
    intro key source c hrelated hkey hsource
    rw [get?_normalMetadata hnodup, get?_collectMetadata_eq_none.mpr hkey,
      get?_commonMetadata (mem_metadataNames_of_related hrelated)]
    simp [get?_collectMetadata_eq_none.mpr hkey, get?_collectMetadata.mpr hsource]
  case absent =>
    -- Every source of a common name is the name itself or a related one, and none was collected.
    intro key hcommon hkey hrelated
    obtain ⟨sources, hsources, honly⟩ := sources_of_commonName hcommon
    have hnone : sources.findSome? (Dict.get? (collectMetadata elements)) = none := by
      rw [List.findSome?_eq_none_iff]
      intro source hsource
      rw [get?_collectMetadata_eq_none]
      rcases honly source hsource with rfl | hrel
      · exact hkey
      · exact hrelated source hrel
    rw [get?_normalMetadata hnodup, get?_collectMetadata_eq_none.mpr hkey,
      get?_commonMetadata hsources, hnone]
    rfl

example : (normalMetadata (collectMetadata
    [[("name".toList, []), ("property".toList, "og:description".toList),
      ("content".toList, "d".toList)]])).get? "description".toList = some (some "d".toList) := by
  decide +kernel

end normal

/-- The attributes of the meta elements of a document, in its order. -/
def metaElements (html : Text) : List (Dict Text) :=
  let elements := allElements (mutedIn silentElements false (parseMarkup html))
  (elements.filter fun e => e.name == "meta".toList).map (·.attributes)

/-- A page has exactly the names that its document gives and the common ones. Each given name has
the content of the last element that gives it. -/
theorem metadata_of_document :
    (∀ elements, MetadataOf elements (normalMetadata (collectMetadata elements))) ∧
      ∀ html url selection,
        MetadataOf (metaElements html) (pageOfHtml html url selection).metadata := by
  refine ⟨metadataOf_normalMetadata, fun html url selection => ?_⟩
  have hmetadata : (pageOfHtml html url selection).metadata =
      normalMetadata (collectMetadata (metaElements html)) := rfl
  rw [hmetadata]
  exact metadataOf_normalMetadata (metaElements html)

end PageClip
