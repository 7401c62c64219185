import PageClip.Catalog
import PageClip.Proofs.ExpressionMeaning
import PageClip.Proofs.WrittenFunction

/-! The sources shown for catalog entries. Four of them are written functions whose expressions are
written trees, so reading them gives on every page what the entry itself gives. -/

namespace PageClip

def describedIds : List Text :=
  ["rich-text-link".toList, "markdown-link".toList, "title-and-url".toList, "selected-text".toList]

section reading
variable {t s : Text}

theorem evaluate_trim (t : Text) (page : Page) : evaluate (trim t) page = evaluate t page := by
  have hbody : expressionBody (trim t) = expressionBody t := by
    rw [expressionBody, expressionBody, trim_trim]
  rw [evaluate, evaluate, readExpression_eq, readExpression_eq, hbody]

theorem Choice.Written.evaluate_eq {e : Choice} (h : e.Written t) (page : Page) :
    evaluate t page = e.meaning page := by
  have hread := h.shape.2.readExpression Blank.nil 0
  rw [List.replicate_zero, List.append_nil, List.append_nil] at hread
  rw [evaluate, hread]
  exact h.value page

theorem FunctionWritten.parseFunction_eq {es : List Entry} (h : FunctionWritten es t) :
    parseFunction t = .ok ⟨firstExpr es "text".toList, firstExpr es "html".toList⟩ := by
  obtain ⟨body, object, hbody, hreturned, hobject⟩ := h.exists_object
  rw [parseFunction, stripComments_eq_self h.commentFree, hbody]
  simp only [hreturned, hobject.objectFields]

/-- A text without marked characters is written as it is. -/
theorem encoded_self {marked : List Char} (h : ∀ c ∈ t, c ∉ marked) : Encoded marked t t := by
  induction t with
  | nil => exact .nil
  | cons c t ih =>
    exact .raw (h c List.mem_cons_self) (ih fun x hx => h x (List.mem_cons_of_mem c hx))

theorem Term.Written.terms {o : Term} (h : o.Written s) : (Terms.one o).Written s := by
  have hterms := Terms.Written.one Blank.nil Blank.nil h
  rwa [List.nil_append, List.append_nil] at hterms

end reading

section layout

/-- A tree written as the expression of a field, and its place in an object. -/
structure FieldSource where
  key : Text
  tree : Choice
  expr : Text
  key_ne : key ≠ []
  key_word : ∀ c ∈ key, isWordChar c = true
  written : tree.Written expr
  comma : ',' ∉ Scan.start.outer expr
  comment : Scan.start.CommentFree expr

def FieldSource.entry (s : FieldSource) : Entry where
  key := s.key
  expr := s.expr
  key_ne := s.key_ne
  key_word := s.key_word
  balanced := s.written.shape.1
  comma := s.comma
  comment := s.comment

/-- The fields of an object, a line each. -/
def fieldLines (sources : List FieldSource) : Text :=
  sources.flatMap fun s => "\n    ".toList ++ s.key ++ ": ".toList ++ s.expr ++ [',']

/-- How a function that only returns an object is laid out. -/
def functionLayout (sources : List FieldSource) : Text :=
  "(page) => \x7b\n  return \x7b".toList ++
    (fieldLines sources ++ "\n  ".toList ++ "\x7d;\n\x7d".toList)

theorem blank_of_all {w : Text} (h : w.all isBlank = true) : Blank w := List.all_eq_true.mp h

theorem objectWritten_lines (sources : List FieldSource) :
    ObjectWritten (sources.map FieldSource.entry) (fieldLines sources ++ "\n  ".toList) := by
  induction sources with
  | nil => exact .blank (blank_of_all (by decide))
  | cons s rest ih =>
    have hline : s.entry.Written ("\n    ".toList ++ s.key ++ ": ".toList ++ s.expr) := by
      have hform : EntryForm s.key ([' '] ++ s.expr ++ []) _ :=
        .mk (u := "\n    ".toList) (q := []) (v := []) (blank_of_all (by decide)) (by decide)
          s.key_ne s.key_word Blank.nil
      have hw := Entry.Written.mk (e := s.entry) (blank_of_all (by decide)) Blank.nil hform
      simpa using hw
    have hcons := ObjectWritten.cons hline ih
    simpa [fieldLines] using hcons

theorem functionWritten_layout (sources : List FieldSource) :
    FunctionWritten (sources.map FieldSource.entry) (functionLayout sources) := by
  have hs : Blank [' '] := blank_of_all (by decide)
  have hhead : Spaced functionHead "(page) => \x7b\n  return \x7b".toList := by
    refine .cons (w := []) Blank.nil (.cons (w := []) Blank.nil (.cons (w := []) Blank.nil ?_))
    refine .cons (w := [' ']) hs (.cons (w := [' ']) hs ?_)
    exact .cons (w := "\n  ".toList) (blank_of_all (by decide)) (.cons (w := [' ']) hs
      (.nil (w := []) Blank.nil))
  have htail : Spaced (['}'] :: ([[';']] ++ ['}'] :: [])) "\x7d;\n\x7d".toList :=
    .cons (w := []) Blank.nil (.cons (w := []) Blank.nil (.cons (w := ['\n'])
      (blank_of_all (by decide)) (.nil (w := []) Blank.nil)))
  exact .mk (a := [[';']]) (b := []) hhead (objectWritten_lines sources) (by decide) (by decide)
    htail

def meaningOf (sources : List FieldSource) (key : Text) (page : Page) : Option Text :=
  (sources.find? fun s => s.key == key).map fun s => s.tree.meaning page

theorem firstExpr_map_evaluate (sources : List FieldSource) (key : Text) (page : Page) :
    (firstExpr (sources.map FieldSource.entry) key).map (evaluate · page) =
      meaningOf sources key page := by
  induction sources with
  | nil => rfl
  | cons s rest ih =>
    by_cases hs : s.key = key
    · simp [firstExpr, meaningOf, FieldSource.entry, hs, evaluate_trim, s.written.evaluate_eq]
    · simpa [firstExpr, meaningOf, FieldSource.entry, hs] using ih

theorem extract_layout (sources : List FieldSource) (page : Page) :
    extract (functionLayout sources) page =
      .ok ⟨meaningOf sources "text".toList page, meaningOf sources "html".toList page⟩ := by
  rw [extract, (functionWritten_layout sources).parseFunction_eq, ← firstExpr_map_evaluate,
    ← firstExpr_map_evaluate]
  rfl

end layout

section entries

theorem isWordChar_text : ∀ c ∈ "text".toList, isWordChar c = true :=
  forall_mem_of_all (by decide)

theorem isWordChar_html : ∀ c ∈ "html".toList, isWordChar c = true :=
  forall_mem_of_all (by decide)

def linkTree : Choice := .one (.one (.render linkTemplate))

def bracketsTree : Choice :=
  .one (.one (.template [.text ['['], .field .title, .text [']', '('], .field .url, .text [')']]))

def linesTree : Choice := .one (.plus (.field .title) (.plus (.string ['\n']) (.one (.field .url))))

def selectionTree : Choice := .or (.one (.field .selection)) (.one (.one (.field .title)))

theorem title_written : Choice.Written (.one (.one (.field .title))) "page.title".toList :=
  .one (Term.Written.field (by decide)).terms

theorem linkTree_written : linkTree.Written
    "render('<a href=\"\x7b\x7b&url\x7d\x7d\">\x7b\x7btitle\x7d\x7d</a>', page)".toList := by
  have hs : Blank [' '] := blank_of_all (by decide)
  have hencoded : Encoded ['\\', '\x27'] linkTemplate linkTemplate :=
    encoded_self (forall_mem_of_all (by decide))
  exact .one (Term.Written.render rfl hencoded (.cons Blank.nil (.cons Blank.nil
    (.cons hs (.nil Blank.nil))))).terms

theorem bracketsTree_written :
    bracketsTree.Written "`[$\x7bpage.title\x7d]($\x7bpage.url\x7d)`".toList := by
  have htext : ∀ t : Text, (t.all fun c => c ∉ ['\\', '\x60', '$']) = true →
      (Chunk.text t).Written t := fun t h => .text (encoded_self (forall_mem_of_all h))
  have hnames : ("page.title".toList, Field.title) ∈ fieldNames ∧
      ("page.url".toList, Field.url) ∈ fieldNames := by decide
  have htitle : (Chunk.field .title).Written "$\x7bpage.title\x7d".toList :=
    .field hnames.1 Blank.nil Blank.nil
  have hurl : (Chunk.field .url).Written "$\x7bpage.url\x7d".toList :=
    .field hnames.2 Blank.nil Blank.nil
  have hchunks := ChunksWritten.cons (htext ['['] (by decide)) (.cons htitle
    (.cons (htext [']', '('] (by decide)) (.cons hurl (.cons (htext [')'] (by decide)) .nil))))
  exact .one (Term.Written.template hchunks).terms

theorem linesTree_written : linesTree.Written "page.title + \"\\n\" + page.url".toList := by
  have hs : Blank [' '] := blank_of_all (by decide)
  have htitle : Term.Written (.field .title) "page.title".toList := .field (by decide)
  have hnewline : Term.Written (.string ['\n']) "\"\\n\"".toList :=
    .string (.inr rfl) (.newline .nil)
  have hurl : Term.Written (.field .url) "page.url".toList := .field (by decide)
  exact .one (.plus Blank.nil hs htitle (.plus hs hs hnewline (.one hs Blank.nil hurl)))

theorem selectionTree_written : selectionTree.Written "page.selection || page.title".toList := by
  have hs : Blank [' '] := blank_of_all (by decide)
  have hselection : Term.Written (.field .selection) "page.selection".toList := .field (by decide)
  have htitle : Term.Written (.field .title) "page.title".toList := .field (by decide)
  exact .or (.one Blank.nil hs hselection) (.one (.one hs Blank.nil htitle))

def linkSources : List FieldSource :=
  [⟨"html".toList, linkTree, _, by decide, isWordChar_html, linkTree_written,
      by decide +kernel, by decide +kernel⟩,
    ⟨"text".toList, _, _, by decide, isWordChar_text, title_written,
      by decide +kernel, by decide +kernel⟩]

def bracketsSources : List FieldSource :=
  [⟨"text".toList, bracketsTree, _, by decide, isWordChar_text, bracketsTree_written,
    by decide +kernel, by decide +kernel⟩]

def linesSources : List FieldSource :=
  [⟨"text".toList, linesTree, _, by decide, isWordChar_text, linesTree_written,
    by decide +kernel, by decide +kernel⟩]

def selectionSources : List FieldSource :=
  [⟨"text".toList, selectionTree, _, by decide, isWordChar_text, selectionTree_written,
    by decide +kernel, by decide +kernel⟩]

-- The sources are long closed texts, which the kernel compares faster than `simp` opens them.
theorem richTextLink_code : richTextLink.code = functionLayout linkSources := by
  decide +kernel

theorem markdownLink_code : markdownLink.code = functionLayout bracketsSources := by
  decide +kernel

theorem titleAndUrl_code : titleAndUrl.code = functionLayout linesSources := by
  decide +kernel

theorem selectedText_code : selectedText.code = functionLayout selectionSources := by
  decide +kernel

variable {entry : CatalogEntry} {sources : List FieldSource} {page : Page} {options : Options}

theorem extract_code (hcode : entry.code = functionLayout sources)
    (hvalue : entry.evaluate page options =
      ⟨meaningOf sources "text".toList page, meaningOf sources "html".toList page⟩) :
    extract entry.code page = .ok (entry.evaluate page options) := by
  rw [hcode, extract_layout, hvalue]

theorem extract_richTextLink :
    extract richTextLink.code page = .ok (richTextLink.evaluate page options) :=
  extract_code richTextLink_code rfl

theorem extract_markdownLink :
    extract markdownLink.code page = .ok (markdownLink.evaluate page options) := by
  have hmeaning : bracketsTree.meaning page =
      ['['] ++ page.title ++ [']', '('] ++ page.url ++ [')'] := by
    simp [bracketsTree, Choice.meaning, Terms.meaning, Term.meaning, Chunk.meaning, Field.value]
  exact extract_code markdownLink_code (congrArg (fun t => Clip.mk (some t) none) hmeaning.symm)

theorem extract_titleAndUrl :
    extract titleAndUrl.code page = .ok (titleAndUrl.evaluate page options) := by
  have hmeaning : linesTree.meaning page = page.title ++ ['\n'] ++ page.url := by
    simp [linesTree, Choice.meaning, Terms.meaning, Term.meaning, Field.value]
  exact extract_code titleAndUrl_code (congrArg (fun t => Clip.mk (some t) none) hmeaning.symm)

theorem extract_selectedText :
    extract selectedText.code page = .ok (selectedText.evaluate page options) := by
  have hmeaning : selectionTree.meaning page =
      if page.selection.isEmpty then page.title else page.selection := by
    cases h : page.selection <;>
      simp [selectionTree, Choice.meaning, Terms.meaning, Term.meaning, Field.value, h]
  exact extract_code selectedText_code (congrArg (fun t => Clip.mk (some t) none) hmeaning.symm)

end entries

/-- On every page, reading the source of a described entry gives what running the entry gives. -/
theorem extract_code_eq {id : Text} (hid : id ∈ describedIds) (page : Page) (options : Options) :
    ∃ entry, findEntry id = .ok entry ∧
      extract entry.code page = executeTemplate id page options := by
  simp only [describedIds, List.mem_cons, List.not_mem_nil, or_false] at hid
  obtain rfl | rfl | rfl | rfl := hid
  · exact ⟨richTextLink, rfl, extract_richTextLink⟩
  · exact ⟨markdownLink, rfl, extract_markdownLink⟩
  · exact ⟨titleAndUrl, rfl, extract_titleAndUrl⟩
  · exact ⟨selectedText, rfl, extract_selectedText⟩

/-- Metadata under the name of a core field changes neither. -/
theorem extract_code_eq_shadowed_title :
    "rich-text-link".toList ∈ describedIds ∧
      ∃ entry, findEntry "rich-text-link".toList = .ok entry ∧
        extract entry.code ⟨"Q&A".toList, "/".toList, [], [], [("title".toList, some ['x'])]⟩ =
          executeTemplate "rich-text-link".toList
            ⟨"Q&A".toList, "/".toList, [], [], [("title".toList, some ['x'])]⟩ none :=
  ⟨by decide, extract_code_eq (by decide) _ none⟩

end PageClip
