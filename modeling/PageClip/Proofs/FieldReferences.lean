import Mathlib.Data.List.Infix
import Mathlib.Data.List.Perm.Subperm
import PageClip.Proofs.LiteralExtent

/-! Field names inside text that no form takes. A name counts there when no word character
continues it, whatever stands before it, so it counts at the end of a longer word too. -/

namespace PageClip

/-- A field name in a text that no word character continues. -/
structure FieldIn (t before name : Text) (f : Field) (after : Text) : Prop where
  named : (name, f) ∈ fieldNames
  eq : t = before ++ (name ++ after)
  ends : after.head?.any isWordChar = false

/-- A field name that stands in a text as a word of its own. -/
structure WholeFieldIn (t before name : Text) (f : Field) (after : Text) : Prop
    extends FieldIn t before name f after where
  starts : before.getLast?.any isWordChar = false

inductive FieldPart where
  | char (c : Char)
  | field (name : Text) (f : Field)

def FieldPart.written : FieldPart → Text
  | .char c => [c]
  | .field name _ => name

def FieldPart.piece : FieldPart → Piece
  | .char c => .char c
  | .field _ f => .field f

def FieldPart.value (page : Page) (p : FieldPart) : Text := p.piece.value page

/-- The parts make up the text, and the field names among them are exactly the ones that occur. -/
structure FieldSplit (occurs : Text → Text → Field → Text → Prop) (t : Text)
    (parts : List FieldPart) : Prop where
  written : parts.flatMap FieldPart.written = t
  occurs_iff : ∀ before name f after, occurs before name f after ↔
    ∃ ps qs, parts = ps ++ .field name f :: qs ∧
      ps.flatMap FieldPart.written = before ∧ qs.flatMap FieldPart.written = after

/-- The value is the text with the field names that occur replaced and all else as it stands. -/
def Substitutes (occurs : Text → Text → Field → Text → Prop) (t : Text)
    (value : Page → Text) : Prop :=
  ∃ parts, FieldSplit occurs t parts ∧ ∀ page, value page = parts.flatMap (FieldPart.value page)

section occurrences
variable {t before before' name name' after after' rest : Text} {f f' : Field}

/-- No field name starts inside a field name. -/
theorem fieldNames_apart : ∀ e ∈ fieldNames, ∀ d ∈ e.1.tails, d ≠ [] → ∀ e' ∈ fieldNames,
    d <+: e'.1 ∨ e'.1 <+: d → d = e.1 ∧ e = e' := by
  decide

theorem name_ne_nil (h : (name, f) ∈ fieldNames) : name ≠ [] := by
  have hall : ∀ e ∈ fieldNames, e.1 ≠ [] := by decide
  exact hall _ h

theorem FieldIn.append_iff {p : Text} :
    FieldIn (p ++ t) (p ++ before) name f after ↔ FieldIn t before name f after := by
  constructor
  · rintro ⟨hnamed, heq, hends⟩
    rw [List.append_assoc] at heq
    exact ⟨hnamed, List.append_cancel_left heq, hends⟩
  · rintro ⟨hnamed, rfl, hends⟩
    exact ⟨hnamed, by rw [List.append_assoc], hends⟩

theorem FieldIn.unique (h : FieldIn t [] name f after) (h' : FieldIn t [] name' f' after') :
    name = name' ∧ f = f' ∧ after = after' := by
  have hprefix : name <+: t := ⟨after, h.eq.symm⟩
  have hprefix' : name' <+: t := ⟨after', h'.eq.symm⟩
  have hself : name ∈ name.tails := (List.mem_tails _ _).mpr (List.suffix_refl name)
  obtain ⟨_, heq⟩ := fieldNames_apart _ h.named name hself (name_ne_nil h.named) _ h'.named
    (List.prefix_or_prefix_of_prefix hprefix hprefix')
  obtain ⟨rfl, rfl⟩ := Prod.mk.inj heq
  exact ⟨rfl, rfl, List.append_cancel_left (h.eq.symm.trans h'.eq)⟩

/-- A field name that starts behind the start of another one starts behind its end. -/
theorem FieldIn.prefix_of_ne_nil (h : FieldIn t [] name f after)
    (h' : FieldIn t before' name' f' after') (hne : before' ≠ []) : name <+: before' := by
  have heq : name ++ after = before' ++ (name' ++ after') := h.eq.symm.trans h'.eq
  rcases List.append_eq_append_iff.mp heq with ⟨d, rfl, _⟩ | ⟨d, hname, hd⟩
  · exact ⟨d, rfl⟩
  · by_cases hnil : d = []
    · rw [hname, hnil, List.append_nil]
    · have hsuffix : d ∈ name.tails := (List.mem_tails _ _).mpr ⟨before', hname.symm⟩
      have hprefix : d <+: name' ++ after' := ⟨after, hd.symm⟩
      obtain ⟨hwhole, _⟩ := fieldNames_apart _ h.named d hsuffix hnil _ h'.named
        (List.prefix_or_prefix_of_prefix hprefix (List.prefix_append name' after'))
      have hlen := congrArg List.length hname
      have hlen' : d.length = name.length := congrArg List.length hwhole
      rw [List.length_append] at hlen
      exact absurd (List.length_eq_zero_iff.mp (by omega)) hne

theorem afterPrefix?_eq_some_iff {part : Text} :
    afterPrefix? part t = some rest ↔ t = part ++ rest := by
  constructor
  · exact eq_append_of_afterPrefix?
  · rintro rfl
    exact afterPrefix?_append part rest

/-- What a reader finds at the head of a text for one field name. -/
theorem fieldBehind_eq_some_iff {e : Text × Field} :
    (match afterPrefix? e.1 t with
      | some [] => some (e.2, [])
      | some (c :: rest) => if isWordChar c then none else some (e.2, c :: rest)
      | none => none) = some (f, rest) ↔
      e.2 = f ∧ t = e.1 ++ rest ∧ rest.head?.any isWordChar = false := by
  rw [← afterPrefix?_eq_some_iff]
  cases afterPrefix? e.1 t with
  | none => simp
  | some r =>
    cases r with
    | nil =>
      simp only [Option.some.injEq, Prod.mk.injEq]
      constructor
      · rintro ⟨rfl, rfl⟩
        exact ⟨rfl, rfl, rfl⟩
      · rintro ⟨rfl, rfl, _⟩
        exact ⟨rfl, rfl⟩
    | cons c r =>
      simp only [Option.some.injEq]
      by_cases hc : isWordChar c
      · rw [if_pos hc]
        constructor
        · intro h
          cases h
        · rintro ⟨_, rfl, hends⟩
          rw [List.head?_cons, Option.any_some, hc] at hends
          cases hends
      · rw [if_neg hc, Option.some.injEq, Prod.mk.injEq]
        constructor
        · rintro ⟨rfl, rfl⟩
          exact ⟨rfl, rfl, by rw [List.head?_cons, Option.any_some, Bool.eq_false_iff.mpr hc]⟩
        · rintro ⟨rfl, rfl, _⟩
          exact ⟨rfl, rfl⟩

theorem fieldAt?_eq_some_iff :
    fieldAt? t = some (f, rest) ↔ ∃ name, FieldIn t [] name f rest := by
  have hfound : ∀ {f rest}, fieldAt? t = some (f, rest) → ∃ name, FieldIn t [] name f rest := by
    intro f rest h
    obtain ⟨e, he, h⟩ := List.exists_of_findSome?_eq_some h
    obtain ⟨rfl, ht, hends⟩ := fieldBehind_eq_some_iff.mp h
    exact ⟨e.1, he, ht, hends⟩
  refine ⟨hfound, fun ⟨name, h⟩ => ?_⟩
  cases hat : fieldAt? t with
  | some found =>
    obtain ⟨name', h'⟩ := hfound hat
    obtain ⟨_, hf, hrest⟩ := h.unique h'
    rw [hf, hrest]
  | none =>
    have hnone := List.findSome?_eq_none_iff.mp hat _ h.named
    have hbehind := (fieldBehind_eq_some_iff (e := (name, f))).mpr ⟨rfl, h.eq, h.ends⟩
    cases hnone.symm.trans hbehind

end occurrences

section split
variable {t rest name : Text} {f : Field} {c : Char} {parts : List FieldPart}

theorem FieldSplit.cons_field (hin : FieldIn (name ++ rest) [] name f rest)
    (h : FieldSplit (FieldIn rest) rest parts) :
    FieldSplit (FieldIn (name ++ rest)) (name ++ rest) (.field name f :: parts) where
  written := by rw [List.flatMap_cons, h.written]; rfl
  occurs_iff before name' f' after := by
    constructor
    · intro h'
      by_cases hnil : before = []
      · subst hnil
        obtain ⟨rfl, rfl, rfl⟩ := hin.unique h'
        exact ⟨[], parts, rfl, rfl, h.written⟩
      · obtain ⟨d, rfl⟩ := hin.prefix_of_ne_nil h' hnil
        obtain ⟨ps, qs, hsplit, rfl, hqs⟩ := (h.occurs_iff ..).mp (FieldIn.append_iff.mp h')
        exact ⟨.field name f :: ps, qs, by rw [hsplit]; rfl, rfl, hqs⟩
    · rintro ⟨ps, qs, hsplit, rfl, rfl⟩
      cases ps with
      | nil =>
        obtain ⟨hpart, rfl⟩ := List.cons.inj hsplit
        obtain ⟨rfl, rfl⟩ := FieldPart.field.inj hpart
        rw [h.written]
        exact hin
      | cons p ps =>
        obtain ⟨rfl, hparts⟩ := List.cons.inj hsplit
        exact FieldIn.append_iff.mpr ((h.occurs_iff ..).mpr ⟨ps, qs, hparts, rfl, rfl⟩)

theorem FieldSplit.cons_char (hnone : ∀ name f after, ¬ FieldIn (c :: t) [] name f after)
    (h : FieldSplit (FieldIn t) t parts) :
    FieldSplit (FieldIn (c :: t)) (c :: t) (.char c :: parts) where
  written := by rw [List.flatMap_cons, h.written]; rfl
  occurs_iff before name f after := by
    constructor
    · intro h'
      cases before with
      | nil => exact absurd h' (hnone name f after)
      | cons x before =>
        obtain ⟨rfl, _⟩ := List.cons.inj h'.eq
        have hrest : FieldIn t before name f after := FieldIn.append_iff (p := [c]) |>.mp h'
        obtain ⟨ps, qs, hsplit, rfl, hqs⟩ := (h.occurs_iff ..).mp hrest
        exact ⟨.char c :: ps, qs, by rw [hsplit]; rfl, rfl, hqs⟩
    · rintro ⟨ps, qs, hsplit, rfl, rfl⟩
      cases ps with
      | nil => cases (List.cons.inj hsplit).1
      | cons p ps =>
        obtain ⟨rfl, hparts⟩ := List.cons.inj hsplit
        exact FieldIn.append_iff (p := [c]) |>.mpr
          ((h.occurs_iff ..).mpr ⟨ps, qs, hparts, rfl, rfl⟩)

theorem exists_fieldSplit (t : Text) :
    ∃ parts, FieldSplit (FieldIn t) t parts ∧ parts.map FieldPart.piece = fieldPieces t := by
  fun_induction fieldPieces t with
  | case1 =>
    refine ⟨[], ⟨rfl, fun before name f after => ?_⟩, rfl⟩
    constructor
    · intro h
      have hnil := h.eq
      simp [name_ne_nil h.named] at hnil
    · rintro ⟨ps, qs, hsplit, _⟩
      simp at hsplit
  | case2 c u f rest hfield ih =>
    obtain ⟨name, hin⟩ := fieldAt?_eq_some_iff.mp hfield
    obtain ⟨parts, hparts, hpieces⟩ := ih
    have ht : c :: u = name ++ rest := hin.eq
    rw [ht] at hin ⊢
    exact ⟨.field name f :: parts, hparts.cons_field hin, by rw [List.map_cons, hpieces]; rfl⟩
  | case3 c u hnone ih =>
    obtain ⟨parts, hparts, hpieces⟩ := ih
    have hno : ∀ name f after, ¬ FieldIn (c :: u) [] name f after := by
      intro name f after h
      rw [fieldAt?_eq_some_iff.mpr ⟨name, h⟩] at hnone
      cases hnone
    exact ⟨.char c :: parts, hparts.cons_char hno, by rw [List.map_cons, hpieces]; rfl⟩

theorem substitutes_fieldPieces (t : Text) :
    Substitutes (FieldIn t) t fun page => (fieldPieces t).flatMap (Piece.value page) := by
  obtain ⟨parts, hparts, hpieces⟩ := exists_fieldSplit t
  refine ⟨parts, hparts, fun page => ?_⟩
  show (fieldPieces t).flatMap (Piece.value page) = _
  rw [← hpieces, List.flatMap_map]
  rfl

end split

section count
variable {parts : List FieldPart}

/-- Where the field names start that the parts hold. -/
def fieldStarts : Nat → List FieldPart → List Nat
  | _, [] => []
  | n, .char _ :: parts => fieldStarts (n + 1) parts
  | n, .field name _ :: parts => n :: fieldStarts (n + name.length) parts

theorem mem_fieldStarts_iff {k n : Nat} :
    k ∈ fieldStarts n parts ↔ ∃ ps name f qs, parts = ps ++ .field name f :: qs ∧
      k = n + (ps.flatMap FieldPart.written).length := by
  induction parts generalizing n with
  | nil => simp [fieldStarts]
  | cons p parts ih =>
    have hlen : ∀ ps : List FieldPart, ((p :: ps).flatMap FieldPart.written).length =
        p.written.length + (ps.flatMap FieldPart.written).length := fun ps => by
      rw [List.flatMap_cons, List.length_append]
    have hbehind : k ∈ fieldStarts (n + p.written.length) parts ↔
        ∃ ps name f qs, p :: parts = p :: ps ++ .field name f :: qs ∧
          k = n + ((p :: ps).flatMap FieldPart.written).length := by
      rw [ih]
      simp only [hlen, List.cons_append, List.cons.injEq, true_and, Nat.add_assoc]
    cases p with
    | char c =>
      refine hbehind.trans ⟨fun ⟨ps, h⟩ => ⟨_ :: ps, h⟩, ?_⟩
      rintro ⟨ps, name, f, qs, hsplit, hk⟩
      cases ps with
      | nil => cases (List.cons.inj hsplit).1
      | cons x ps =>
        obtain ⟨rfl, _⟩ := List.cons.inj hsplit
        exact ⟨ps, name, f, qs, hsplit, hk⟩
    | field name f =>
      rw [fieldStarts, List.mem_cons]
      constructor
      · rintro (rfl | h)
        · exact ⟨[], name, f, parts, rfl, rfl⟩
        · obtain ⟨ps, h⟩ := hbehind.mp h
          exact ⟨_ :: ps, h⟩
      · rintro ⟨ps, name', f', qs, hsplit, hk⟩
        cases ps with
        | nil => exact .inl hk
        | cons x ps =>
          obtain ⟨rfl, _⟩ := List.cons.inj hsplit
          exact .inr (hbehind.mpr ⟨ps, name', f', qs, hsplit, hk⟩)

theorem nodup_fieldStarts (h : ∀ name f, FieldPart.field name f ∈ parts → name ≠ []) (n : Nat) :
    (fieldStarts n parts).Nodup := by
  induction parts generalizing n with
  | nil => exact List.nodup_nil
  | cons p parts ih =>
    have hrest := ih fun name f hmem => h name f (List.mem_cons_of_mem p hmem)
    cases p with
    | char c => exact hrest (n + 1)
    | field name f =>
      have hpos := List.length_pos_of_ne_nil (h name f List.mem_cons_self)
      refine List.nodup_cons.mpr ⟨fun hmem => ?_, hrest _⟩
      obtain ⟨_, _, _, _, _, hk⟩ := mem_fieldStarts_iff.mp hmem
      omega

/-- A page on which every field an expression can name has the same text. -/
def uniformPage (v : Text) : Page where
  title := v
  url := v
  selection := v
  metadata := [("description".toList, some v)]

theorem value_uniformPage (v : Text) (f : Field) : f.value (uniformPage v) = v := by
  cases f <;> rfl

/-- The field names among the parts are as many as the characters that fields of one character
add to the value. -/
theorem length_value_uniformPage (parts : List FieldPart) (n : Nat) (x : Char) :
    (parts.flatMap (FieldPart.value (uniformPage [x]))).length =
      (parts.flatMap (FieldPart.value (uniformPage []))).length +
        (fieldStarts n parts).length := by
  induction parts generalizing n with
  | nil => rfl
  | cons p parts ih =>
    rw [List.flatMap_cons, List.flatMap_cons, List.length_append, List.length_append]
    cases p with
    | char c =>
      have hchar : ∀ v, FieldPart.value (uniformPage v) (.char c) = [c] := fun _ => rfl
      rw [hchar, hchar, ih (n + 1), fieldStarts]
      omega
    | field name f =>
      have hfield : ∀ v, FieldPart.value (uniformPage v) (.field name f) = v :=
        fun v => value_uniformPage v f
      rw [hfield, hfield, ih (n + name.length), fieldStarts, List.length_cons, List.length_cons,
        List.length_nil]
      omega

end count

section whole
variable {t : Text} {parts whole : List FieldPart} {value : Page → Text}

section
variable {occurs : Text → Text → Field → Text → Prop}

theorem FieldSplit.mem_fieldStarts_iff (h : FieldSplit occurs t parts) {k : Nat} :
    k ∈ fieldStarts 0 parts ↔
      ∃ before name f after, occurs before name f after ∧ before.length = k := by
  rw [PageClip.mem_fieldStarts_iff]
  constructor
  · rintro ⟨ps, name, f, qs, hsplit, rfl⟩
    exact ⟨_, name, f, _, (h.occurs_iff ..).mpr ⟨ps, qs, hsplit, rfl, rfl⟩, (Nat.zero_add _).symm⟩
  · rintro ⟨before, name, f, after, hin, rfl⟩
    obtain ⟨ps, qs, hsplit, rfl, _⟩ := (h.occurs_iff ..).mp hin
    exact ⟨ps, name, f, qs, hsplit, (Nat.zero_add _).symm⟩

theorem FieldSplit.nodup_fieldStarts (h : FieldSplit occurs t parts)
    (hnamed : ∀ before name f after, occurs before name f after → (name, f) ∈ fieldNames) :
    (fieldStarts 0 parts).Nodup := by
  refine PageClip.nodup_fieldStarts (fun name f hmem => ?_) 0
  obtain ⟨ps, qs, hsplit⟩ := List.append_of_mem hmem
  exact name_ne_nil (hnamed _ _ _ _ ((h.occurs_iff ..).mpr ⟨ps, qs, hsplit, rfl, rfl⟩))

end

theorem length_fieldStarts_eq (hvalue : ∀ page,
    whole.flatMap (FieldPart.value page) = parts.flatMap (FieldPart.value page)) :
    (fieldStarts 0 whole).length = (fieldStarts 0 parts).length := by
  have hparts := length_value_uniformPage parts 0 'x'
  have hwhole := length_value_uniformPage whole 0 'x'
  rw [hvalue, hvalue, hparts] at hwhole
  exact (Nat.add_left_cancel hwhole).symm

/-- The names that are whole words are among all names, so they are all of them when they are as
many. -/
theorem fieldStarts_perm (hparts : FieldSplit (FieldIn t) t parts)
    (hwhole : FieldSplit (WholeFieldIn t) t whole)
    (hlength : (fieldStarts 0 whole).length = (fieldStarts 0 parts).length) :
    (fieldStarts 0 whole).Perm (fieldStarts 0 parts) := by
  have hnodup := hwhole.nodup_fieldStarts fun _ _ _ _ h => h.named
  have hsub : fieldStarts 0 whole ⊆ fieldStarts 0 parts := by
    intro k hk
    obtain ⟨before, name, f, after, hin, hlen⟩ := hwhole.mem_fieldStarts_iff.mp hk
    exact hparts.mem_fieldStarts_iff.mpr ⟨before, name, f, after, hin.toFieldIn, hlen⟩
  exact (hnodup.subperm hsub).perm_of_length_le (Nat.le_of_eq hlength.symm)

/-- Taking whole words only makes a difference on some page as soon as one name is the end of a
longer word. -/
theorem substitutes_whole_iff (h : Substitutes (FieldIn t) t value) :
    Substitutes (WholeFieldIn t) t value ↔
      ∀ before name f after, FieldIn t before name f after →
        before.getLast?.any isWordChar = false := by
  obtain ⟨parts, hparts, hvalue⟩ := h
  constructor
  · rintro ⟨whole, hwhole, hvalue'⟩ before name f after hin
    have hlength : (fieldStarts 0 whole).length = (fieldStarts 0 parts).length :=
      length_fieldStarts_eq fun page => (hvalue' page).symm.trans (hvalue page)
    have hperm := fieldStarts_perm hparts hwhole hlength
    have hstart := hparts.mem_fieldStarts_iff.mpr ⟨before, name, f, after, hin, rfl⟩
    obtain ⟨before', _, _, _, hin', hlen⟩ :=
      hwhole.mem_fieldStarts_iff.mp (hperm.mem_iff.mpr hstart)
    obtain ⟨rfl, _⟩ := List.append_inj (hin'.eq.symm.trans hin.eq) hlen
    exact hin'.starts
  · intro hstarts
    refine ⟨parts, ⟨hparts.written, fun before name f after => ?_⟩, hvalue⟩
    rw [← hparts.occurs_iff]
    exact ⟨fun h => h.toFieldIn, fun h => ⟨h, hstarts _ _ _ _ h⟩⟩

end whole

section operand
variable {source t : Text} {pieces : List Piece}

/-- A text in equal quotes is a literal, so no quotes are left to take off. -/
theorem stripQuotes_eq_self (htemplate : templateLiteral? t = none)
    (hstring : stringLiteral? t = none) : stripQuotes t = t := by
  cases t with
  | nil => rfl
  | cons c r =>
    rw [stripQuotes]
    split
    · rename_i h
      obtain ⟨hquote, hlast⟩ := h
      have hbetween : between? c (c :: r) = some r.dropLast := if_pos ⟨rfl, hlast⟩
      simp only [isQuote, Bool.or_eq_true, beq_iff_eq] at hquote
      rcases hquote with (rfl | rfl) | rfl
      · rw [stringLiteral?, hbetween, Option.some_or] at hstring
        cases hstring
      · rw [stringLiteral?, hbetween, between?_of_ne (by decide), Option.none_or] at hstring
        cases hstring
      · rw [templateLiteral?, hbetween] at htemplate
        cases htemplate
    · rfl

/-- No form takes the text. -/
def Formless (t : Text) : Prop :=
  templateLiteral? t = none ∧ stringLiteral? t = none ∧ fieldNamed? t = none ∧
    renderCall? t = none ∧ parenthesised? t = none

instance (t : Text) : Decidable (Formless t) :=
  inferInstanceAs (Decidable (_ ∧ _))

theorem readOperand_eq_verbatim_iff :
    readOperand source = .verbatim pieces ↔
      Formless (trim source) ∧ pieces = fieldPieces (trim source) := by
  rw [readOperand_eq]
  constructor
  · intro h
    split at h
    · cases h
    · cases h
    · cases h
    · cases h
    · rename_i htemplate hstring hfield hrender
      split at h
      · cases h
      · rename_i hgroup
        rw [stripQuotes_eq_self htemplate hstring] at h
        exact ⟨⟨htemplate, hstring, hfield, hrender, hgroup⟩, (Operand.verbatim.inj h).symm⟩
  · rintro ⟨⟨htemplate, hstring, hfield, hrender, hgroup⟩, rfl⟩
    rw [htemplate, hstring, hfield, hrender, hgroup, stripQuotes_eq_self htemplate hstring]

theorem substitutes_of_verbatim (h : readOperand source = .verbatim pieces) :
    Substitutes (FieldIn (trim source)) (trim source) (evaluateOperand source) := by
  have hvalue : evaluateOperand source =
      fun page => (fieldPieces (trim source)).flatMap (Piece.value page) := by
    funext page
    rw [evaluateOperand, h, Operand.value, (readOperand_eq_verbatim_iff.mp h).2]
  rw [hvalue]
  exact substitutes_fieldPieces (trim source)

end operand

/-- Where no form fits, the field names that no word character continues are replaced and all else
stays. These are the names that stand as words of their own exactly when none of them is the end
of a longer word. -/
theorem evaluateOperand_substitutes {source : Text} {pieces : List Piece}
    (h : readOperand source = .verbatim pieces) :
    Substitutes (FieldIn (trim source)) (trim source) (evaluateOperand source) ∧
      (Substitutes (WholeFieldIn (trim source)) (trim source) (evaluateOperand source) ↔
        ∀ before name f after, FieldIn (trim source) before name f after →
          before.getLast?.any isWordChar = false) := by
  have hfields := substitutes_of_verbatim h
  exact ⟨hfields, substitutes_whole_iff hfields⟩

theorem evaluateOperand_substitutes_call :
    readOperand "page.title.trim()".toList =
        .verbatim (.field .title :: ".trim()".toList.map Piece.char) ∧
      Substitutes (WholeFieldIn "page.title.trim()".toList) "page.title.trim()".toList
        (evaluateOperand "page.title.trim()".toList) := by
  have hread : readOperand "page.title.trim()".toList =
      .verbatim (.field .title :: ".trim()".toList.map Piece.char) :=
    readOperand_eq_verbatim_iff.mpr ⟨by decide +kernel, by decide +kernel⟩
  have htrim : trim "page.title.trim()".toList = "page.title.trim()".toList := by decide
  obtain ⟨_, hwhole⟩ := evaluateOperand_substitutes hread
  rw [htrim] at hwhole
  refine ⟨hread, hwhole.mpr fun before name f after h => ?_⟩
  have hall : ∀ b ∈ "page.title.trim()".toList.inits, ∀ e ∈ fieldNames,
      e.1 <+: "page.title.trim()".toList.drop b.length → b = [] := by
    decide
  have hnil := hall before ((List.mem_inits _ _).mpr ⟨_, h.eq.symm⟩) _ h.named
    (by rw [h.eq, List.drop_left]; exact List.prefix_append _ _)
  rw [hnil]
  rfl

/-- A name that only ends in a field name is no field, and its end is replaced like one. -/
theorem field_in_longer_word :
    ¬ ∀ source pieces, readOperand source = .verbatim pieces →
      Substitutes (WholeFieldIn (trim source)) (trim source) (evaluateOperand source) := by
  intro h
  have hread : readOperand "mypage.title".toList =
      .verbatim ("my".toList.map Piece.char ++ [.field .title]) :=
    readOperand_eq_verbatim_iff.mpr ⟨by decide +kernel, by decide +kernel⟩
  have hin : FieldIn (trim "mypage.title".toList) "my".toList "page.title".toList .title [] :=
    ⟨by decide, by decide, rfl⟩
  have hwhole := substitutes_whole_iff (substitutes_of_verbatim hread)
  exact absurd (hwhole.mp (h _ _ hread) _ _ _ _ hin) (by decide +kernel)

end PageClip
