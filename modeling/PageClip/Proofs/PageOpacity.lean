import PageClip.Proofs.ExpressionParts
import PageClip.Proofs.PageData

/-! What a page contributes to the value of an expression. Texts of the page are copied or
escaped and nothing else: which of them are copied where depends on the expression and on which
of them are empty, never on what they say. -/

namespace PageClip

/-- A part of a result: a text from the source, or the text of a name on the page. -/
inductive Fragment where
  | constant (t : Text)
  | raw (name : Text)
  | escaped (name : Text)

def Fragment.fill (lookup : Text → Text) : Fragment → Text
  | .constant t => t
  | .raw name => lookup name
  | .escaped name => escapeHtml (lookup name)

def Fragment.isSilent (silent : Text → Bool) : Fragment → Bool
  | .constant t => t.isEmpty
  | .raw name => silent name
  | .escaped name => silent name

def Field.key : Field → Text
  | .title => "title".toList
  | .url => "url".toList
  | .selection => "selection".toList
  | .description => "description".toList

def Piece.fragment : Piece → Fragment
  | .char c => .constant [c]
  | .field f => .raw f.key

def Segment.fragment : Segment → Fragment
  | .literal c => .constant [c]
  | .token true name => .raw name
  | .token false name => .escaped name

mutual

def Operand.fragments (silent : Text → Bool) : Operand → List Fragment
  | .template pieces => pieces.map Piece.fragment
  | .string value => [.constant value]
  | .field f => [.raw f.key]
  | .render template => (segments template).map Segment.fragment
  | .group alternatives => choiceFragments silent alternatives
  | .verbatim pieces => pieces.map Piece.fragment

def sumFragments (silent : Text → Bool) : List Operand → List Fragment
  | [] => []
  | o :: rest => o.fragments silent ++ sumFragments silent rest

def choiceFragments (silent : Text → Bool) : List (List Operand) → List Fragment
  | [] => []
  | a :: rest =>
    if (sumFragments silent a).all (Fragment.isSilent silent) then choiceFragments silent rest
    else sumFragments silent a

end

section
variable {page : Page} {silent : Text → Bool}

theorem Field.value_eq_lookup (page : Page) (f : Field) : f.value page = page.lookup f.key := by
  cases f with
  | title => exact (lookup_of_coreData rfl).symm
  | url => exact (lookup_of_coreData rfl).symm
  | selection => exact (lookup_of_coreData rfl).symm
  | description => exact (lookup_of_identifier rfl rfl).symm

theorem Piece.value_eq_fill (page : Page) (p : Piece) :
    p.value page = p.fragment.fill page.lookup := by
  cases p with
  | char c => rfl
  | field f => exact f.value_eq_lookup page

theorem Segment.fill_eq_fill (lookup : Text → Text) (s : Segment) :
    s.fill lookup = s.fragment.fill lookup := by
  cases s with
  | literal c => rfl
  | token raw name => cases raw <;> rfl

theorem escapeHtml_eq_nil {t : Text} : escapeHtml t = [] ↔ t = [] := by
  cases t with
  | nil => simp [escapeHtml]
  | cons c t =>
    have hc : escapeChar c ≠ [] := by
      unfold escapeChar
      split <;> simp
    simp [escapeHtml, hc]

theorem Fragment.fill_eq_nil (h : ∀ name, (page.lookup name).isEmpty = silent name)
    (f : Fragment) : f.fill page.lookup = [] ↔ f.isSilent silent = true := by
  cases f with
  | constant t => exact List.isEmpty_iff.symm
  | raw name => rw [Fragment.isSilent, ← h, List.isEmpty_iff, Fragment.fill]
  | escaped name =>
    rw [Fragment.isSilent, ← h, List.isEmpty_iff, Fragment.fill, escapeHtml_eq_nil]

theorem flatMap_fill_eq_nil (h : ∀ name, (page.lookup name).isEmpty = silent name)
    (fs : List Fragment) :
    fs.flatMap (Fragment.fill page.lookup) = [] ↔
      fs.all (Fragment.isSilent silent) = true := by
  rw [List.flatMap_eq_nil_iff, List.all_eq_true]
  exact forall₂_congr fun f _ => Fragment.fill_eq_nil h f

theorem flatMap_eq_fill {α : Type} {f : α → Text} {g : α → Fragment} {lookup : Text → Text}
    (h : ∀ x, f x = (g x).fill lookup) (xs : List α) :
    xs.flatMap f = (xs.map g).flatMap (Fragment.fill lookup) := by
  rw [List.flatMap_map, funext h]

mutual

theorem Operand.value_eq_fill (h : ∀ name, (page.lookup name).isEmpty = silent name)
    (o : Operand) : o.value page = (o.fragments silent).flatMap (Fragment.fill page.lookup) := by
  cases o with
  | template pieces =>
    rw [Operand.value, Operand.fragments]
    exact flatMap_eq_fill (fun p => p.value_eq_fill page) pieces
  | string value => simp [Operand.value, Operand.fragments, Fragment.fill]
  | field f => simp [Operand.value, Operand.fragments, Fragment.fill, Field.value_eq_lookup]
  | render template =>
    rw [Operand.value, Operand.fragments, PageClip.render]
    exact flatMap_eq_fill (fun s => s.fill_eq_fill page.lookup) (segments template)
  | group alternatives =>
    rw [Operand.value, Operand.fragments]
    exact choiceValue_eq_fill h alternatives
  | verbatim pieces =>
    rw [Operand.value, Operand.fragments]
    exact flatMap_eq_fill (fun p => p.value_eq_fill page) pieces

theorem sumValue_eq_fill (h : ∀ name, (page.lookup name).isEmpty = silent name)
    (os : List Operand) :
    sumValue page os = (sumFragments silent os).flatMap (Fragment.fill page.lookup) := by
  cases os with
  | nil => rfl
  | cons o rest =>
    rw [sumValue, sumFragments, List.flatMap_append, o.value_eq_fill h, sumValue_eq_fill h rest]

theorem choiceValue_eq_fill (h : ∀ name, (page.lookup name).isEmpty = silent name)
    (alternatives : List (List Operand)) :
    Expression.value page alternatives =
      (choiceFragments silent alternatives).flatMap (Fragment.fill page.lookup) := by
  cases alternatives with
  | nil => rfl
  | cons a rest =>
    have hsum := sumValue_eq_fill h a
    rw [value_cons, choiceFragments]
    by_cases hsilent : (sumFragments silent a).all (Fragment.isSilent silent) = true
    · have hnil := (flatMap_fill_eq_nil h _).mpr hsilent
      rw [if_pos (hsum.trans hnil), if_pos hsilent]
      exact choiceValue_eq_fill h rest
    · have hne : sumValue page a ≠ [] := by
        intro hnil
        exact hsilent ((flatMap_fill_eq_nil h _).mp (hsum.symm.trans hnil))
      rw [if_neg hne, if_neg hsilent]
      exact hsum

end

end

/-- One list of fragments gives the value on every page on which the same names are empty. -/
theorem evaluate_eq_fill (source : Text) (silent : Text → Bool) :
    ∃ fragments : List Fragment, ∀ page : Page,
      (∀ name, (page.lookup name).isEmpty = silent name) →
        evaluate source page = fragments.flatMap (Fragment.fill page.lookup) :=
  ⟨choiceFragments silent (readExpression source),
    fun _ h => choiceValue_eq_fill h (readExpression source)⟩

theorem evaluate_eq_fill_titles :
    ∃ fragments : List Fragment,
      ∀ title ∈ ["News".toList, "'\n' + $\x7bpage.url\x7d \x7b\x7burl\x7d\x7d".toList],
        evaluate "page.selection || `$\x7bpage.title\x7d`".toList { title, url := ['u'] } =
          fragments.flatMap (Fragment.fill ({ title, url := ['u'] } : Page).lookup) := by
  let plain : Page := { title := ['T'], url := ['u'] }
  obtain ⟨fragments, h⟩ := evaluate_eq_fill
    "page.selection || `$\x7bpage.title\x7d`".toList fun name => (plain.lookup name).isEmpty
  refine ⟨fragments, fun title ht => h { plain with title } fun name => ?_⟩
  have hne : title.isEmpty = false := by
    simp only [List.mem_cons, List.not_mem_nil, or_false] at ht
    rcases ht with rfl | rfl <;> rfl
  exact isEmpty_lookup_title hne name

end PageClip
