import PageClip.Proofs.ExpressionParts

/-! Expression trees, what they mean on a page, and the texts that write them. A written
expression evaluates to its meaning, however deep it is and however it is spaced. -/

namespace PageClip

/-- The inside of an interpolation that names no field of a page. -/
def IsUnknown (u : Text) : Prop :=
  '}' ∉ u ∧ '\x60' ∉ u ∧ '\\' ∉ u ∧ ∀ e ∈ fieldNames, trim u ≠ e.1

inductive Chunk where
  | text (t : Text)
  | field (f : Field)
  | unknown (inner : Text) (h : IsUnknown inner)

mutual

inductive Term where
  | string (t : Text)
  | template (chunks : List Chunk)
  | field (f : Field)
  | render (template : Text)
  | group (choice : Choice)

inductive Terms where
  | one (o : Term)
  | plus (o : Term) (rest : Terms)

inductive Choice where
  | one (a : Terms)
  | or (a : Terms) (rest : Choice)

end

def Chunk.meaning (page : Page) : Chunk → Text
  | .text t => t
  | .field f => f.value page
  | .unknown inner _ => '$' :: '{' :: (inner ++ ['}'])

mutual

def Term.meaning (page : Page) : Term → Text
  | .string t => t
  | .template chunks => chunks.flatMap (Chunk.meaning page)
  | .field f => f.value page
  | .render template => PageClip.render template page.lookup
  | .group e => e.meaning page

def Terms.meaning (page : Page) : Terms → Text
  | .one o => o.meaning page
  | .plus o rest => o.meaning page ++ rest.meaning page

def Choice.meaning (page : Page) : Choice → Text
  | .one a => a.meaning page
  | .or a rest => if a.meaning page = [] then rest.meaning page else a.meaning page

end

/-- The ways to write a text in a literal. The `marked` characters take a backslash, and a
newline is written raw or as an escape. -/
inductive Encoded (marked : List Char) : Text → Text → Prop where
  | nil : Encoded marked [] []
  | raw {c t s} : c ∉ marked → Encoded marked t s → Encoded marked (c :: t) (c :: s)
  | escape {c t s} : c ∈ marked → Encoded marked t s → Encoded marked (c :: t) ('\\' :: c :: s)
  | newline {t s} : Encoded marked t s → Encoded marked ('\n' :: t) ('\\' :: 'n' :: s)

inductive Chunk.Written : Chunk → Text → Prop where
  | text {t s} : Encoded ['\\', '\x60', '$'] t s → (Chunk.text t).Written s
  | field {name f u v} : (name, f) ∈ fieldNames → Blank u → Blank v →
      (Chunk.field f).Written ('$' :: '{' :: (u ++ name ++ v ++ ['}']))
  | unknown {inner h} : (Chunk.unknown inner h).Written ('$' :: '{' :: (inner ++ ['}']))

inductive ChunksWritten : List Chunk → Text → Prop where
  | nil : ChunksWritten [] []
  | cons {c cs s t} : c.Written s → ChunksWritten cs t → ChunksWritten (c :: cs) (s ++ t)

mutual

inductive Term.Written : Term → Text → Prop where
  | string {q t s} : q = '\x27' ∨ q = '"' → Encoded ['\\', q] t s →
      (Term.string t).Written (q :: (s ++ [q]))
  | template {cs s} : ChunksWritten cs s → (Term.template cs).Written ('\x60' :: (s ++ ['\x60']))
  | field {name f} : (name, f) ∈ fieldNames → (Term.field f).Written name
  | render {q t s r} : isQuote q = true → Encoded ['\\', q] t s →
      Spaced [q :: (s ++ [q]), [','], "page".toList] r →
      (Term.render t).Written ("render(".toList ++ (r ++ [')']))
  | group {e s} : e.Written s → (Term.group e).Written ('(' :: (s ++ [')']))

inductive Terms.Written : Terms → Text → Prop where
  | one {o s u v} : Blank u → Blank v → o.Written s → (Terms.one o).Written (u ++ s ++ v)
  | plus {o s u v rest t} : Blank u → Blank v → o.Written s → rest.Written t →
      (Terms.plus o rest).Written (u ++ s ++ v ++ '+' :: t)

inductive Choice.Written : Choice → Text → Prop where
  | one {a t} : a.Written t → (Choice.one a).Written t
  | or {a t rest r} : a.Written t → rest.Written r →
      (Choice.or a rest).Written (t ++ '|' :: '|' :: r)

end

section encoding
variable {marked : List Char} {q : Char} {t s : Text}

theorem Encoded.literalBody (h : Encoded marked t s) (hb : '\\' ∈ marked) (hq : q ∈ marked)
    (hn : q ≠ '\n') : LiteralBody q s := by
  induction h with
  | nil => exact .nil
  | @raw c t s hc _ ih =>
    have hcb : c ≠ '\\' := by rintro rfl; exact hc hb
    have hcq : c ≠ q := by rintro rfl; exact hc hq
    exact .char hcb hcq ih
  | escape _ _ ih => exact .pair ih
  | newline _ ih => exact .pair ih

theorem unescape_pair {c : Char} (hc : c ≠ '\n') (t : Text) :
    unescape ('\\' :: c :: t) = escaped c :: unescape t := by
  rw [unescape]
  exact fun h => hc h

theorem unescape_cons {c : Char} (hc : c ≠ '\\') (t : Text) :
    unescape (c :: t) = c :: unescape t := by
  rw [unescape]
  · exact fun _ h => absurd h hc
  · exact fun _ _ h => absurd h hc

def SelfEscaped (marked : List Char) : Prop :=
  '\\' ∈ marked ∧ ∀ c ∈ marked, c ≠ '\n' ∧ escaped c = c

theorem Encoded.unescape_eq (h : Encoded marked t s) (hm : SelfEscaped marked) :
    unescape s = t := by
  induction h with
  | nil => rfl
  | @raw c t s hc _ ih =>
    have hcb : c ≠ '\\' := by rintro rfl; exact hc hm.1
    rw [unescape_cons hcb, ih]
  | @escape c t s hc _ ih =>
    obtain ⟨hn, he⟩ := hm.2 c hc
    rw [unescape_pair hn, he, ih]
  | newline _ ih =>
    rw [unescape_pair (by decide), ih]
    rfl

theorem selfEscaped_quote (hq : isQuote q = true) : SelfEscaped ['\\', q] := by
  simp only [isQuote, Bool.or_eq_true, beq_iff_eq] at hq
  refine ⟨List.mem_cons_self, ?_⟩
  rcases hq with (rfl | rfl) | rfl <;> exact forall_mem_of_all (by decide)

end encoding


section chunks
variable {s t rest : Text}

theorem templatePieces_pair {c : Char} (hc : c ≠ '\n') (t : Text) :
    templatePieces ('\\' :: c :: t) = .char (escaped c) :: templatePieces t := by
  rw [templatePieces]
  exact fun h => hc h

theorem templatePieces_cons {c : Char} (hb : c ≠ '\\') (hd : c ≠ '$') (t : Text) :
    templatePieces (c :: t) = .char c :: templatePieces t := by
  rw [templatePieces]
  · exact fun _ h => absurd h hb
  · exact fun _ _ h => absurd h hb
  · exact fun _ h => absurd h hd

def interpolation (inner : Text) : List Piece :=
  match fieldNamed? (trim inner) with
  | some f => [.field f]
  | none => ('$' :: '{' :: inner ++ ['}']).map .char

theorem templatePieces_interpolation {inner : Text} (h : '}' ∉ inner) (rest : Text) :
    templatePieces ('$' :: '{' :: (inner ++ '}' :: rest)) =
      interpolation inner ++ templatePieces rest := by
  obtain ⟨htake, hdrop⟩ := cut_before h rest
  rw [templatePieces]
  split
  · rename_i he
    simp [hdrop] at he
  · rename_i he
    rw [hdrop] at he
    obtain ⟨_, rfl⟩ := List.cons.inj he
    rw [htake]
    rfl

theorem Encoded.templatePieces_append (h : Encoded ['\\', '\x60', '$'] t s) (rest : Text) :
    templatePieces (s ++ rest) = t.map .char ++ templatePieces rest := by
  induction h with
  | nil => rfl
  | @raw c t s hc _ ih =>
    simp only [List.mem_cons, List.not_mem_nil, or_false, not_or] at hc
    rw [List.cons_append, templatePieces_cons hc.1 hc.2.2, ih]
    rfl
  | @escape c t s hc _ ih =>
    have hself : ∀ c ∈ ['\\', '\x60', '$'], c ≠ '\n' ∧ escaped c = c :=
      forall_mem_of_all (by decide)
    obtain ⟨hn, he⟩ := hself c hc
    rw [List.cons_append, List.cons_append, templatePieces_pair hn, he, ih]
    rfl
  | newline _ ih =>
    rw [List.cons_append, List.cons_append, templatePieces_pair (by decide), ih]
    rfl

theorem fieldNames_spec : ∀ e ∈ fieldNames, fieldNamed? e.1 = some e.2 ∧ Trimmed e.1 ∧
    '}' ∉ e.1 ∧ '\\' ∉ e.1 ∧ '\x60' ∉ e.1 := by
  decide

theorem fieldNamed?_eq_none {name : Text} (h : ∀ e ∈ fieldNames, name ≠ e.1) :
    fieldNamed? name = none := by
  rw [fieldNamed?, Option.map_eq_none_iff, List.find?_eq_none]
  intro e he heq
  exact h e he (beq_iff_eq.mp heq).symm

def pieceValues (page : Page) (pieces : List Piece) : Text := pieces.flatMap (Piece.value page)

theorem pieceValues_append (page : Page) (ps qs : List Piece) :
    pieceValues page (ps ++ qs) = pieceValues page ps ++ pieceValues page qs :=
  List.flatMap_append

theorem pieceValues_chars (page : Page) (t : Text) : pieceValues page (t.map .char) = t := by
  induction t with
  | nil => rfl
  | cons c t ih => exact congrArg (c :: ·) ih

theorem Chunk.Written.value {c : Chunk} (h : c.Written s) (page : Page) (rest : Text) :
    pieceValues page (templatePieces (s ++ rest)) =
      c.meaning page ++ pieceValues page (templatePieces rest) := by
  cases h with
  | text he => rw [he.templatePieces_append, pieceValues_append, pieceValues_chars]; rfl
  | @field name f u v hname hu hv =>
    obtain ⟨hfield, htrim, hbrace, _⟩ := fieldNames_spec _ hname
    have hin : '}' ∉ u ++ name ++ v := by
      simp only [List.mem_append, not_or]
      exact ⟨⟨hu.not_mem (by decide), hbrace⟩, hv.not_mem (by decide)⟩
    have hpiece : interpolation (u ++ name ++ v) = [.field f] := by
      rw [interpolation, trim_padded hu hv, htrim.trim_eq, hfield]
    have hs : '$' :: '{' :: (u ++ name ++ v ++ ['}']) ++ rest =
        '$' :: '{' :: (u ++ name ++ v ++ '}' :: rest) := by simp
    rw [hs, templatePieces_interpolation hin, hpiece, pieceValues_append]
    simp [pieceValues, Piece.value, Chunk.meaning]
  | @unknown inner hu =>
    obtain ⟨hbrace, _, _, hnone⟩ := hu
    have hpiece : interpolation inner = ('$' :: '{' :: inner ++ ['}']).map .char := by
      rw [interpolation, fieldNamed?_eq_none hnone]
    have hs : '$' :: '{' :: (inner ++ ['}']) ++ rest = '$' :: '{' :: (inner ++ '}' :: rest) := by
      simp
    rw [hs, templatePieces_interpolation hbrace, hpiece, pieceValues_append, pieceValues_chars]
    rfl

theorem ChunksWritten.value {cs : List Chunk} (h : ChunksWritten cs s) (page : Page) :
    pieceValues page (templatePieces s) = cs.flatMap (Chunk.meaning page) := by
  induction h with
  | nil =>
    rw [templatePieces]
    rfl
  | cons hc _ ih => rw [hc.value, ih, List.flatMap_cons]

theorem Chunk.Written.literalBody {c : Chunk} (h : c.Written s) : LiteralBody '\x60' s := by
  cases h with
  | text he => exact he.literalBody (by decide) (by decide) (by decide)
  | field hname hu hv =>
    obtain ⟨_, _, _, hb, hq⟩ := fieldNames_spec _ hname
    apply literalBody_of_not_mem
    · simp [hu.not_mem (x := '\\') (by decide), hv.not_mem (x := '\\') (by decide), hb]
    · simp [hu.not_mem (x := '\x60') (by decide), hv.not_mem (x := '\x60') (by decide), hq]
  | @unknown inner hu =>
    obtain ⟨_, hq, hb, _⟩ := hu
    apply literalBody_of_not_mem
    · simp [hb]
    · simp [hq]

theorem ChunksWritten.literalBody {cs : List Chunk} (h : ChunksWritten cs s) :
    LiteralBody '\x60' s := by
  induction h with
  | nil => exact .nil
  | cons hc _ ih => exact hc.literalBody.append ih

end chunks

end PageClip
