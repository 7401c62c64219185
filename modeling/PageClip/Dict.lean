import PageClip.Text

/-! Dictionaries with text keys, in the order in which the keys first came. -/

namespace PageClip

abbrev Dict (α : Type) := List (Text × α)

namespace Dict

variable {α : Type}

def get? (d : Dict α) (key : Text) : Option α :=
  match d with
  | [] => none
  | (k, v) :: rest => if k = key then some v else get? rest key

/-- A key that is present keeps its place and takes the new value; a new key goes last. -/
def set (d : Dict α) (key : Text) (value : α) : Dict α :=
  match d with
  | [] => [(key, value)]
  | (k, v) :: rest => if k = key then (key, value) :: rest else (k, v) :: set rest key value

/-- The later of two entries of one key gives its value. -/
def ofEntries (entries : List (Text × α)) : Dict α :=
  entries.foldl (fun d e => d.set e.1 e.2) []

/-- The entries of `extra` override those of the dictionary. -/
def override (d extra : Dict α) : Dict α := extra.foldl (fun d e => d.set e.1 e.2) d

theorem get?_set (d : Dict α) (key k : Text) (value : α) :
    (d.set key value).get? k = if key = k then some value else d.get? k := by
  induction d with
  | nil => simp [set, get?]
  | cons e rest ih =>
    obtain ⟨a, v⟩ := e
    by_cases ha : a = key
    · subst ha
      by_cases hk : a = k <;> simp [set, get?, hk]
    · by_cases hk : a = k
      · subst hk
        simp [set, get?, ha, Ne.symm ha]
      · simp [set, get?, ha, hk, ih]

theorem mem_of_get? {d : Dict α} {key : Text} {value : α} (h : d.get? key = some value) :
    (key, value) ∈ d := by
  induction d with
  | nil => simp [get?] at h
  | cons e d ih =>
    obtain ⟨k, v⟩ := e
    rw [get?] at h
    split at h
    · rename_i hk
      obtain rfl := Option.some.inj h
      rw [hk]
      exact List.mem_cons_self
    · exact List.mem_cons_of_mem _ (ih h)

theorem get?_eq_none_iff {d : Dict α} {key : Text} :
    d.get? key = none ↔ key ∉ d.map Prod.fst := by
  induction d with
  | nil => simp [get?]
  | cons e d ih =>
    obtain ⟨k, v⟩ := e
    by_cases hk : k = key
    · simp [get?, hk]
    · simp [get?, hk, ih, Ne.symm hk]

theorem get?_of_mem {d : Dict α} {key : Text} {value : α} (hd : (d.map Prod.fst).Nodup)
    (h : (key, value) ∈ d) : d.get? key = some value := by
  induction d with
  | nil => simp at h
  | cons e d ih =>
    obtain ⟨k, v⟩ := e
    obtain ⟨hk, hrest⟩ := List.nodup_cons.mp hd
    rcases List.mem_cons.mp h with heq | h
    · obtain ⟨rfl, rfl⟩ := Prod.mk.inj heq
      rw [get?, if_pos rfl]
    · have hne : k ≠ key := by
        rintro rfl
        exact hk (List.mem_map.mpr ⟨_, h, rfl⟩)
      rw [get?, if_neg hne]
      exact ih hrest h

theorem set_of_get?_eq_none {d : Dict α} {key : Text} (h : d.get? key = none) (value : α) :
    d.set key value = d ++ [(key, value)] := by
  induction d with
  | nil => rfl
  | cons e d ih =>
    obtain ⟨k, v⟩ := e
    rw [get?] at h
    split at h
    · cases h
    · rename_i hk
      rw [set, if_neg hk, ih h]
      rfl

theorem mem_keys_iff {d : Dict α} {key : Text} :
    key ∈ d.map Prod.fst ↔ ∃ value, d.get? key = some value := by
  cases hget : d.get? key with
  | none =>
    have hnot := get?_eq_none_iff.mp hget
    exact ⟨fun hmem => absurd hmem hnot, fun ⟨_, h⟩ => (by cases h)⟩
  | some value => exact ⟨fun _ => ⟨value, rfl⟩, fun _ => List.mem_map.mpr ⟨_, mem_of_get? hget, rfl⟩⟩

theorem mem_keys_set {d : Dict α} {key k : Text} {value : α} :
    k ∈ (d.set key value).map Prod.fst ↔ k = key ∨ k ∈ d.map Prod.fst := by
  rw [mem_keys_iff, mem_keys_iff, get?_set]
  by_cases hk : key = k
  · simp [hk]
  · simp [hk, Ne.symm hk]

theorem nodup_set {d : Dict α} (h : (d.map Prod.fst).Nodup) (key : Text) (value : α) :
    ((d.set key value).map Prod.fst).Nodup := by
  induction d with
  | nil => simp [set]
  | cons e d ih =>
    obtain ⟨k, v⟩ := e
    obtain ⟨hk, hrest⟩ := List.nodup_cons.mp h
    rw [set]
    split
    · rename_i heq
      subst heq
      exact h
    · rename_i hne
      refine List.nodup_cons.mpr ⟨fun hmem => ?_, ih hrest⟩
      rcases mem_keys_set.mp hmem with heq | hmem
      · exact hne heq
      · exact hk hmem

theorem nodup_override {d : Dict α} (h : (d.map Prod.fst).Nodup) (extra : Dict α) :
    ((d.override extra).map Prod.fst).Nodup := by
  induction extra generalizing d with
  | nil => exact h
  | cons e extra ih => exact ih (nodup_set h e.1 e.2)

theorem get?_override {extra : Dict α} (h : (extra.map Prod.fst).Nodup) (d : Dict α)
    (key : Text) : (d.override extra).get? key = (extra.get? key).or (d.get? key) := by
  induction extra generalizing d with
  | nil => rfl
  | cons e extra ih =>
    obtain ⟨k, v⟩ := e
    obtain ⟨hk, hrest⟩ := List.nodup_cons.mp h
    have hset : Dict.get? (override d ((k, v) :: extra)) key =
        (get? extra key).or ((d.set k v).get? key) := ih hrest (d.set k v)
    rw [hset, get?_set, get?]
    by_cases heq : k = key
    · subst heq
      rw [get?_eq_none_iff.mpr hk, if_pos rfl, if_pos rfl]
      rfl
    · rw [if_neg heq, if_neg heq]

theorem get?_map {β : Type} (f : α → β) (d : Dict α) (key : Text) :
    Dict.get? (d.map fun e => (e.1, f e.2)) key = (d.get? key).map f := by
  induction d with
  | nil => rfl
  | cons e d ih =>
    obtain ⟨k, v⟩ := e
    rw [List.map_cons, get?, get?, ih]
    split <;> rfl

end Dict

end PageClip
