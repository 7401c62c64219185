import PageClip.FunctionSource
import PageClip.Proofs.CommentFree

/-! Cutting source between its comments and literals. Behind such a cut the removal of comments
starts afresh, so a comment there reads like the blank it leaves, and a literal stays. -/

namespace PageClip

/-- What the reader of comments is inside of once the text is read. -/
def CommentState.after : CommentState → Text → CommentState
  | k, [] => k
  | .source, '/' :: '/' :: t => CommentState.line.after t
  | .source, '/' :: '*' :: t => CommentState.block.after t
  | .source, c :: t => (if isQuote c then .literal c else .source : CommentState).after t
  | .literal q, '\\' :: _ :: t => (CommentState.literal q).after t
  | .literal q, c :: t => (if c = q then .source else .literal q : CommentState).after t
  | .line, c :: t => (if c = '\n' then .source else .line : CommentState).after t
  | .block, '*' :: '/' :: t => CommentState.source.after t
  | .block, _ :: t => CommentState.block.after t

/-- Whether the reader may take the character together with the one behind it. -/
def CommentState.Waits : CommentState → Char → Prop
  | .source, c => c = '/'
  | .literal _, c => c = '\\'
  | .line, _ => False
  | .block, c => c = '*'

/-- Two sources that are read alike on every page. -/
structure ReadAlike (s t : Text) : Prop where
  stripComments : stripComments s = stripComments t
  parseFunction : parseFunction s = parseFunction t
  extract : ∀ page, extract s page = extract t page

section cut
variable {k : CommentState} {a t : Text} {x : Char}

theorem getLast?_cons_of_some (h : t.getLast? = some x) (y : Char) :
    (y :: t).getLast? = some x := by
  rw [List.getLast?_cons, h]
  rfl

theorem getLast?_pair_of_some (h : t.getLast? = some x) (y z : Char) :
    (y :: z :: t).getLast? = some x :=
  getLast?_cons_of_some (getLast?_cons_of_some h z) y

theorem opensComment_append (hx : t = [] → x ≠ '/') {b : Text} (h : OpensComment (x :: (t ++ b))) :
    OpensComment (x :: t) := by
  obtain ⟨c, r, hcons, hc⟩ := opensComment_iff.mp h
  obtain ⟨rfl, hr⟩ := List.cons.inj hcons
  cases t with
  | nil => exact absurd rfl (hx rfl)
  | cons y t =>
    obtain ⟨rfl, _⟩ := List.cons.inj hr
    exact opensComment_iff.mpr ⟨y, t, rfl, hc⟩

theorem endsBlock_append (hx : t = [] → x ≠ '*') {b : Text} (h : "*/".toList <+: x :: (t ++ b)) :
    "*/".toList <+: x :: t := by
  obtain ⟨r, hr⟩ := h
  obtain ⟨rfl, htail⟩ := List.cons.inj hr
  cases t with
  | nil => exact absurd rfl (hx rfl)
  | cons y t =>
    obtain ⟨rfl, _⟩ := List.cons.inj htail
    exact ⟨t, rfl⟩

/-- Where no character waits for the one behind it, the text in front of a cut does not see what
follows, and what follows sees only what it is inside of. -/
theorem stripCommentsFrom_append (hk : k ≠ .literal '\\')
    (hcut : ∀ x, a.getLast? = some x → ¬ (k.after a).Waits x) (b : Text) :
    stripCommentsFrom k (a ++ b) = stripCommentsFrom k a ++ stripCommentsFrom (k.after a) b := by
  -- The induction follows the reader. A character that is read alone could only be read otherwise
  -- in front of `b`, as the last of the text, and there it does not wait.
  fun_induction CommentState.after k a with
  | case1 k => rw [List.nil_append, stripCommentsFrom, List.nil_append]
  | case2 t ih =>
    have hh := ih (by simp) fun y hy => hcut y (getLast?_pair_of_some hy '/' '/')
    rw [List.cons_append, List.cons_append, stripCommentsFrom, stripCommentsFrom, hh]
  | case3 t ih =>
    have hh := ih (by simp) fun y hy => hcut y (getLast?_pair_of_some hy '/' '*')
    rw [List.cons_append, List.cons_append, stripCommentsFrom, stripCommentsFrom, hh]
  | case4 x t hline hblock ih =>
    have hopen := not_opensComment_cons hline hblock
    have hlast : t = [] → x ≠ '/' := by
      rintro rfl rfl
      exact hcut '/' rfl rfl
    have hnext : (if isQuote x then CommentState.literal x else .source) ≠ .literal '\\' := by
      split
      · rename_i hx
        exact fun h => isQuote_ne_backslash hx (CommentState.literal.inj h)
      · simp
    have hh := ih hnext fun y hy => hcut y (getLast?_cons_of_some hy x)
    rw [List.cons_append, stripCommentsFrom_source_cons (mt (opensComment_append hlast) hopen),
      stripCommentsFrom_source_cons hopen, hh, List.cons_append]
  | case5 q x t ih =>
    have hh := ih hk fun y hy => hcut y (getLast?_pair_of_some hy '\\' x)
    rw [List.cons_append, List.cons_append, stripCommentsFrom, stripCommentsFrom, hh]
    rfl
  | case6 q x t hpair ih =>
    have hx : x ≠ '\\' := by
      rintro rfl
      cases t with
      | cons y t => exact hpair y t rfl rfl
      | nil =>
        have hq : ¬ '\\' = q := fun hq => hk (by rw [hq])
        rw [if_neg hq] at hcut
        exact hcut '\\' rfl rfl
    have hnext : (if x = q then CommentState.source else .literal q) ≠ .literal '\\' := by
      split
      · simp
      · exact hk
    have hh := ih hnext fun y hy => hcut y (getLast?_cons_of_some hy x)
    rw [List.cons_append, stripCommentsFrom_literal_cons hx, stripCommentsFrom_literal_cons hx, hh,
      List.cons_append]
  | case7 x t ih =>
    have hnext : (if x = '\n' then CommentState.source else .line) ≠ .literal '\\' := by
      split <;> simp
    have hh := ih hnext fun y hy => hcut y (getLast?_cons_of_some hy x)
    rw [List.cons_append, stripCommentsFrom, stripCommentsFrom]
    by_cases hx : x = '\n'
    · rw [if_pos hx] at hh ⊢
      rw [if_pos hx, if_pos hx, hh, List.cons_append]
    · rw [if_neg hx] at hh ⊢
      rwa [if_neg hx, if_neg hx]
  | case8 t ih =>
    have hh := ih (by simp) fun y hy => hcut y (getLast?_pair_of_some hy '*' '/')
    rw [List.cons_append, List.cons_append, stripCommentsFrom, stripCommentsFrom, hh,
      List.cons_append]
  | case9 x t hpair ih =>
    have hlast : t = [] → x ≠ '*' := by
      rintro rfl rfl
      exact hcut '*' rfl rfl
    have hend : ¬ "*/".toList <+: x :: t := by
      rintro ⟨r, hr⟩
      obtain ⟨rfl, rfl⟩ := List.cons.inj hr
      exact hpair r rfl rfl
    have hh := ih (by simp) fun y hy => hcut y (getLast?_cons_of_some hy x)
    rw [List.cons_append, stripCommentsFrom_block_cons (mt (endsBlock_append hlast) hend),
      stripCommentsFrom_block_cons hend, hh]

theorem stripComments_append (ha : CommentState.source.after a = .source)
    (hslash : a.getLast? ≠ some '/') (b : Text) :
    stripComments (a ++ b) = stripComments a ++ stripComments b := by
  have hh := stripCommentsFrom_append (k := .source) (a := a) (by simp) ?_ b
  · rwa [ha] at hh
  · rw [ha]
    rintro x hx rfl
    exact hslash hx

end cut

section passage
variable {c t : Text}

/-- A block comment ends at the first mark, and none lies across its text and the mark. -/
theorem stripCommentsFrom_block (hc : ¬ "*/".toList <:+: c) (b : Text) :
    stripCommentsFrom .block (c ++ '*' :: '/' :: b) = ' ' :: stripComments b := by
  induction c with
  | nil => rfl
  | cons x c ih =>
    have hhead : ¬ "*/".toList <+: x :: c := fun h => hc h.isInfix
    have hend : ¬ "*/".toList <+: x :: (c ++ '*' :: '/' :: b) := by
      intro h
      cases c with
      | nil =>
        obtain ⟨r, hr⟩ := h
        exact absurd (List.cons.inj (List.cons.inj hr).2).1 (by decide)
      | cons y c => exact hhead (endsBlock_append (by simp) h)
    rw [List.cons_append, stripCommentsFrom_block_cons hend]
    exact ih fun h => hc (h.trans (List.suffix_cons x c).isInfix)

theorem stripCommentsFrom_line (hc : '\n' ∉ c) (b : Text) :
    stripCommentsFrom .line (c ++ '\n' :: b) = '\n' :: stripComments b := by
  induction c with
  | nil => rfl
  | cons x c ih =>
    rw [List.mem_cons, not_or] at hc
    rw [List.cons_append, stripCommentsFrom, if_neg (Ne.symm hc.1)]
    exact ih hc.2

theorem LiteralBody.stripCommentsFrom {q : Char} (hq : q ≠ '\\') (ht : LiteralBody q t) (b : Text) :
    stripCommentsFrom (.literal q) (t ++ q :: b) = t ++ q :: stripComments b := by
  induction ht with
  | nil =>
    rw [List.nil_append, stripCommentsFrom_literal_cons hq, if_pos rfl]
    rfl
  | pair _ ih =>
    rw [List.cons_append, List.cons_append, PageClip.stripCommentsFrom, ih]
    rfl
  | char hb hne _ ih =>
    rw [List.cons_append, stripCommentsFrom_literal_cons hb, if_neg hne, ih]
    rfl

theorem stripComments_block (hc : ¬ "*/".toList <:+: c) (b : Text) :
    stripComments ("/*".toList ++ c ++ "*/".toList ++ b) = stripComments ([' '] ++ b) := by
  have hh := stripCommentsFrom_block hc b
  rw [List.append_assoc]
  exact hh

theorem stripComments_line (hc : '\n' ∉ c) (b : Text) :
    stripComments ("//".toList ++ c ++ ['\n'] ++ b) = stripComments (['\n'] ++ b) := by
  have hh := stripCommentsFrom_line hc b
  rw [List.append_assoc]
  exact hh

theorem LiteralBody.stripComments {q : Char} (hq : isQuote q = true) (ht : LiteralBody q t)
    (b : Text) : stripComments (q :: (t ++ [q]) ++ b) = q :: (t ++ [q]) ++ stripComments b := by
  have hopen : ¬ OpensComment (q :: (t ++ q :: b)) := by
    intro h
    obtain ⟨_, _, hcons, _⟩ := opensComment_iff.mp h
    obtain ⟨rfl, _⟩ := List.cons.inj hcons
    exact absurd hq (by decide)
  have hh := ht.stripCommentsFrom (isQuote_ne_backslash hq) b
  simp only [List.cons_append, List.append_assoc, List.nil_append]
  rw [PageClip.stripComments, stripCommentsFrom_source_cons hopen, if_pos hq, hh]

end passage

theorem readAlike_of_stripComments {s t : Text} (h : stripComments s = stripComments t) :
    ReadAlike s t := by
  have hparse : parseFunction s = parseFunction t := by rw [parseFunction, parseFunction, h]
  exact ⟨h, hparse, fun page => by rw [extract, extract, hparse]⟩

/-- Behind a source that ends outside every comment and literal, and not in a slash, a comment is
read like the blank it leaves and a literal stays as it is, whatever follows. -/
theorem stripComments_cut {a : Text} (ha : CommentState.source.after a = .source)
    (hslash : a.getLast? ≠ some '/') (b : Text) :
    (∀ c, ¬ "*/".toList <:+: c →
      ReadAlike (a ++ ("/*".toList ++ c ++ "*/".toList ++ b)) (a ++ ([' '] ++ b))) ∧
    (∀ c, '\n' ∉ c →
      ReadAlike (a ++ ("//".toList ++ c ++ ['\n'] ++ b)) (a ++ (['\n'] ++ b))) ∧
    ∀ q body, isQuote q = true → LiteralBody q body →
      stripComments (a ++ (q :: (body ++ [q]) ++ b)) =
        stripComments a ++ (q :: (body ++ [q]) ++ stripComments b) := by
  have hcut := stripComments_append ha hslash
  refine ⟨fun c hc => ?_, fun c hc => ?_, fun q body hq hbody => ?_⟩
  · apply readAlike_of_stripComments
    rw [hcut, hcut, stripComments_block hc]
  · apply readAlike_of_stripComments
    rw [hcut, hcut, stripComments_line hc]
  · rw [hcut, hbody.stripComments hq]

/-- Quotes, braces and marks of the other kind mean nothing in a comment, nor do marks in a
literal. -/
theorem stripComments_cut_marks :
    ReadAlike
        ("(page) => \x7b".toList ++
          ("/*".toList ++ "'\x7d return \x7b//".toList ++ "*/".toList ++
            "return \x7b\x7d\x7d".toList))
        ("(page) => \x7b".toList ++ ([' '] ++ "return \x7b\x7d\x7d".toList)) ∧
      ReadAlike
        ("(page) => \x7b".toList ++
          ("//".toList ++ "/* `\x7d".toList ++ ['\n'] ++ "return \x7b\x7d\x7d".toList))
        ("(page) => \x7b".toList ++ (['\n'] ++ "return \x7b\x7d\x7d".toList)) ∧
      stripComments ("(page) => \x7b".toList ++
          ('"' :: ("\\\"//".toList ++ ['"']) ++ "/**/\x7d".toList)) =
        stripComments "(page) => \x7b".toList ++
          ('"' :: ("\\\"//".toList ++ ['"']) ++ stripComments "/**/\x7d".toList) := by
  have hbody : LiteralBody '"' "\\\"//".toList :=
    .pair (.char (by decide) (by decide) (.char (by decide) (by decide) .nil))
  have ha : CommentState.source.after "(page) => \x7b".toList = .source := by decide
  have hslash : "(page) => \x7b".toList.getLast? ≠ some '/' := by decide
  have hstar : ¬ "*/".toList <:+: "'\x7d return \x7b//".toList := fun h =>
    absurd (h.subset List.mem_cons_self) (by decide)
  have hreturn := stripComments_cut ha hslash "return \x7b\x7d\x7d".toList
  have hcomment := stripComments_cut ha hslash "/**/\x7d".toList
  exact ⟨hreturn.1 _ hstar, hreturn.2.1 _ (by decide), hcomment.2.2 _ _ rfl hbody⟩

end PageClip
