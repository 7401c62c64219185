import PageClip.Proofs.ExpressionMeaning
import PageClip.Proofs.TopLevel

/-! Expressions put together from arbitrary texts. Behind a balanced text a separator is found
where it was written, so the value of the whole is made from the values of the two sides. -/

namespace PageClip

/-- A text without the blanks at its end and the semicolons before them. -/
def expressionEnd (t : Text) : Text := ((trimEnd t).reverse.dropWhile (· == ';')).reverse

section ends
variable {a t u : Text} {c : Char}

theorem dropEnd_append {p : Char → Bool} (ha : a.getLast? = some c) (hc : p c = false) (t : Text) :
    ((a ++ t).reverse.dropWhile p).reverse = a ++ (t.reverse.dropWhile p).reverse := by
  obtain ⟨b, rfl⟩ := List.getLast?_eq_some_iff.mp ha
  rw [List.reverse_append, List.dropWhile_append]
  split
  · rename_i hnil
    rw [List.isEmpty_iff] at hnil
    simp [hnil, hc]
  · simp

theorem expressionEnd_append (ha : a.getLast? = some c) (hblank : isBlank c = false)
    (hsemi : c ≠ ';') (t : Text) : expressionEnd (a ++ t) = a ++ expressionEnd t := by
  have htrim : trimEnd (a ++ t) = a ++ trimEnd t := dropEnd_append ha hblank t
  rw [expressionEnd, htrim, dropEnd_append ha (by simpa using hsemi)]
  rfl

theorem dropEnd_start (p : Char → Bool) (t : Text) : (t.reverse.dropWhile p).reverse <+: t := by
  have h := List.reverse_prefix.mpr (List.dropWhile_suffix p (l := t.reverse))
  rwa [List.reverse_reverse] at h

theorem expressionEnd_start (t : Text) : expressionEnd t <+: t :=
  (dropEnd_start _ (trimEnd t)).trans (dropEnd_start isBlank t)

/-- What goes off the start of an expression are blanks, and these are not read anyway. -/
theorem readExpression_eq_end (t : Text) :
    readExpression t = readAlternatives (expressionEnd t) := by
  obtain ⟨u, v, ht, hu, hv, htrimmed⟩ := trim_spec t
  have hend : trimEnd t = trimEnd (u ++ trim t) := by
    have h := trimEnd_append_blank hv (u ++ trim t)
    rwa [← ht] at h
  cases hlast : (trim t).getLast? with
  | none =>
    have hnil := List.getLast?_eq_none_iff.mp hlast
    have hblank : trimEnd u = [] := trimEnd_append_blank hu []
    rw [readExpression_eq, expressionBody, expressionEnd, hend, hnil, List.append_nil, hblank]
  | some c =>
    have hkeep : trimEnd (u ++ trim t) = u ++ trim t := by
      have hc : (u ++ trim t).getLast? = some c := by rw [List.getLast?_append, hlast]; rfl
      simpa [trimEnd] using dropEnd_append hc (htrimmed.2 c hlast) []
    have hsplit : expressionEnd t = u ++ expressionBody t := by
      rw [expressionEnd, hend, hkeep]
      cases hu' : u.getLast? with
      | none =>
        rw [List.getLast?_eq_none_iff.mp hu']
        rfl
      | some b =>
        have hb : (b == ';') = false := by
          simpa using ne_of_blank (hu b (List.mem_of_getLast? hu')) (x := ';') (by decide)
        exact dropEnd_append hu' hb (trim t)
    have h := readAlternatives_padded hu Blank.nil (expressionBody t)
    rw [List.append_nil] at h
    rw [readExpression_eq, hsplit, h]

theorem readExpression_of_no_semicolon (ha : (trim a).getLast? ≠ some ';') :
    readExpression a = readAlternatives a := by
  have hbody : expressionBody a = trim a := by
    have h := dropSemicolons_append 0 ha
    rwa [List.replicate_zero, List.append_nil] at h
  obtain ⟨u, v, ht, hu, hv, _⟩ := trim_spec a
  have h := readAlternatives_padded hu hv (trim a)
  rw [← ht] at h
  rw [readExpression_eq, hbody, h]

end ends

section reading
variable {a b : Text}

theorem readAlternatives_join (hrun : Scan.start.run a = .source 0) (ha : a.getLast? ≠ some '|')
    (b : Text) :
    readAlternatives (a ++ '|' :: '|' :: b) = readAlternatives a ++ readAlternatives b := by
  have hlast : ∀ c, a.getLast? = some c → c ∉ ['|', '|'].dropLast := by
    intro c hc hmem
    obtain rfl := List.mem_singleton.mp hmem
    exact ha hc
  have h : splitTopLevel ['|', '|'] (a ++ '|' :: '|' :: b) =
      splitTopLevel ['|', '|'] a ++ splitTopLevel ['|', '|'] b :=
    splitTopLevel_join (forall_mem_of_all (by decide)) hrun hlast b
  rw [readAlternatives, h, List.map_append]
  rfl

theorem readSum_join (hrun : Scan.start.run a = .source 0) (b : Text) :
    readSum (a ++ '+' :: b) = readSum a ++ readSum b := by
  have h : splitTopLevel ['+'] (a ++ '+' :: b) = splitTopLevel ['+'] a ++ splitTopLevel ['+'] b :=
    splitTopLevel_join (forall_mem_of_all (by decide)) hrun (fun _ _ => List.not_mem_nil) b
  rw [readSum, operandsOf, h, List.map_append]
  rfl

theorem readAlternatives_of_not_shows (ha : ¬ Scan.start.Shows ['|', '|'] a) :
    readAlternatives a = [readSum a] := by
  rw [readAlternatives, (splitTopLevel_eq_singleton_iff (by decide)).mpr ha]
  rfl

theorem readExpression_or (hrun : Scan.start.run a = .source 0) (ha : a.getLast? ≠ some '|')
    (hsemi : (trim a).getLast? ≠ some ';') (b : Text) :
    readExpression (a ++ '|' :: '|' :: b) = readExpression a ++ readExpression b := by
  have hlast : (a ++ ['|', '|']).getLast? = some '|' := by simp
  have hend := expressionEnd_append hlast (by decide) (by decide) b
  have hsplit : a ++ '|' :: '|' :: b = a ++ ['|', '|'] ++ b := by simp
  rw [readExpression_eq_end, hsplit, hend, List.append_assoc, List.cons_append, List.cons_append,
    List.nil_append, readAlternatives_join hrun ha, ← readExpression_eq_end,
    readExpression_of_no_semicolon hsemi]

theorem readExpression_of_not_shows (hb : ¬ Scan.start.Shows ['|', '|'] b) :
    readExpression b = [readSum (expressionEnd b)] := by
  rw [readExpression_eq_end]
  exact readAlternatives_of_not_shows fun h => hb (h.mono (expressionEnd_start b))

theorem readExpression_plus (hrun : Scan.start.run a = .source 0)
    (ha : ¬ Scan.start.Shows ['|', '|'] a) (hb : ¬ Scan.start.Shows ['|', '|'] b) :
    readExpression (a ++ '+' :: b) = [readSum a ++ readSum (expressionEnd b)] := by
  have hlast : (a ++ ['+']).getLast? = some '+' := by simp
  have hend := expressionEnd_append hlast (by decide) (by decide) b
  have hsplit : a ++ '+' :: b = a ++ ['+'] ++ b := by simp
  have hno := not_shows_append (y := '+') (by decide) (by decide) hrun ha
    fun h => hb (h.mono (expressionEnd_start b))
  rw [readExpression_eq_end, hsplit, hend, List.append_assoc, List.singleton_append,
    readAlternatives_of_not_shows hno, readSum_join hrun]

theorem readExpression_group (ha : Balanced a) :
    readExpression ('(' :: (a ++ [')'])) = [[.group (readExpression a)]] := by
  have hatom := isAtom_bracketed ha
  have htrim := hatom.core.trimmed.trim_eq
  have hread := readExpression_of_no_semicolon (htrim.symm ▸ hatom.core.last)
  rw [hread, readAlternatives_eq_singleton hatom.bar, readSum_eq_singleton hatom.plus,
    readOperand_group ha htrim]

end reading

section value
variable {page : Page}

theorem value_append (xs ys : Expression) :
    Expression.value page (xs ++ ys) =
      if Expression.value page xs = [] then Expression.value page ys
      else Expression.value page xs := by
  induction xs with
  | nil => simp [Expression.value]
  | cons x xs ih =>
    rw [List.cons_append, value_cons, value_cons, ih]
    by_cases hx : sumValue page x = []
    · rw [if_pos hx, if_pos hx]
    · rw [if_neg hx, if_neg hx, if_neg hx]

theorem sumValue_append (os rest : List Operand) :
    sumValue page (os ++ rest) = sumValue page os ++ sumValue page rest := by
  induction os with
  | nil => rfl
  | cons o os ih => rw [List.cons_append, sumValue, sumValue, ih, List.append_assoc]

end value

/-- Parentheses around a balanced text keep its value, alternatives behind it are chosen from in
order, and a sum is the two values together. Nothing is asked of the text on the right. -/
theorem evaluate_compositional {a : Text} (ha : Balanced a) (b : Text) (page : Page) :
    evaluate ('(' :: (a ++ [')'])) page = evaluate a page ∧
    (a.getLast? ≠ some '|' → (trim a).getLast? ≠ some ';' →
      evaluate (a ++ '|' :: '|' :: b) page =
        if evaluate a page = [] then evaluate b page else evaluate a page) ∧
    ((trim a).getLast? ≠ some ';' → ¬ Scan.start.Shows ['|', '|'] a →
      ¬ Scan.start.Shows ['|', '|'] b →
        evaluate (a ++ '+' :: b) page = evaluate a page ++ evaluate b page) := by
  refine ⟨?_, fun hbar hsemi => ?_, fun hsemi hshows hshows' => ?_⟩
  · rw [evaluate, readExpression_group ha, value_singleton, sumValue_singleton, Operand.value,
      evaluate]
  · rw [evaluate, readExpression_or ha.run_eq hbar hsemi, value_append]
    rfl
  · have hleft : evaluate a page = sumValue page (readSum a) := by
      rw [evaluate, readExpression_of_no_semicolon hsemi, readAlternatives_of_not_shows hshows,
        value_singleton]
    have hright : evaluate b page = sumValue page (readSum (expressionEnd b)) := by
      rw [evaluate, readExpression_of_not_shows hshows', value_singleton]
    rw [hleft, hright, evaluate, readExpression_plus ha.run_eq hshows hshows', value_singleton,
      sumValue_append]

theorem evaluate_compositional_open_right :
    let a := "(page.selection || '+') x".toList
    let b := "y) + 'z ; ".toList
    let page : Page := { title := "T".toList, url := [] }
    (Balanced a ∧ a.getLast? ≠ some '|' ∧ (trim a).getLast? ≠ some ';' ∧
      ¬ Scan.start.Shows ['|', '|'] a ∧ ¬ Scan.start.Shows ['|', '|'] b) ∧
    evaluate ('(' :: (a ++ [')'])) page = evaluate a page ∧
    evaluate (a ++ '|' :: '|' :: b) page =
      (if evaluate a page = [] then evaluate b page else evaluate a page) ∧
    evaluate (a ++ '+' :: b) page = evaluate a page ++ evaluate b page := by
  intro a b page
  have hbalanced : Balanced a := by decide
  have hbar : a.getLast? ≠ some '|' := by decide
  have hsemi : (trim a).getLast? ≠ some ';' := by decide
  have ha : ¬ Scan.start.Shows ['|', '|'] a :=
    (splitTopLevel_eq_singleton_iff (by decide)).mp (by decide)
  have hb : ¬ Scan.start.Shows ['|', '|'] b :=
    (splitTopLevel_eq_singleton_iff (by decide)).mp (by decide)
  obtain ⟨hgroup, hor, hplus⟩ := evaluate_compositional hbalanced b page
  exact ⟨⟨hbalanced, hbar, hsemi, ha, hb⟩, hgroup, hor hbar hsemi, hplus hsemi ha hb⟩

end PageClip
