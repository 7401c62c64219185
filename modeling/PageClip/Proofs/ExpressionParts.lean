import PageClip.Proofs.OperandForms

/-! Alternatives and sums read one part at a time. Blanks around an expression and semicolons
behind it make no difference to what is read. -/

namespace PageClip

def readSum (t : Text) : List Operand := (operandsOf t).map readOperand

/-- The alternatives of a text from which no semicolons are taken off. -/
def readAlternatives (t : Text) : Expression := (splitTopLevel ['|', '|'] t).map readSum

theorem readExpression_eq (source : Text) :
    readExpression source = readAlternatives (expressionBody source) := rfl

section parts
variable {a : Text}

theorem readSum_eq_singleton (ha : '+' ∉ Scan.start.outer a) : readSum a = [readOperand a] := by
  rw [readSum, operandsOf, splitTopLevel_eq_singleton ha]
  rfl

theorem readSum_append (hrun : Scan.start.run a = .source 0) (ha : '+' ∉ Scan.start.outer a)
    (b : Text) : readSum (a ++ '+' :: b) = readOperand a :: readSum b := by
  have h : splitTopLevel ['+'] (a ++ '+' :: b) = a :: splitTopLevel ['+'] b :=
    splitTopLevel_append (forall_mem_of_all (by decide)) hrun ha b
  rw [readSum, operandsOf, h]
  rfl

theorem readAlternatives_eq_singleton (ha : '|' ∉ Scan.start.outer a) :
    readAlternatives a = [readSum a] := by
  rw [readAlternatives, splitTopLevel_eq_singleton ha]
  rfl

theorem readAlternatives_append (hrun : Scan.start.run a = .source 0)
    (ha : '|' ∉ Scan.start.outer a) (b : Text) :
    readAlternatives (a ++ '|' :: '|' :: b) = readSum a :: readAlternatives b := by
  have h : splitTopLevel ['|', '|'] (a ++ '|' :: '|' :: b) = a :: splitTopLevel ['|', '|'] b :=
    splitTopLevel_append (forall_mem_of_all (by decide)) hrun ha b
  rw [readAlternatives, h]
  rfl

end parts

section blanks
variable {u v : Text}

theorem map_readOperand_trim (ps : List Text) :
    (ps.map trim).map readOperand = ps.map readOperand := by
  rw [List.map_map]
  exact List.map_congr_left fun p _ => readOperand_trim p

theorem readSum_padded (hu : Blank u) (hv : Blank v) (t : Text) :
    readSum (u ++ t ++ v) = readSum t := by
  have hparts : (splitTopLevel ['+'] (u ++ t ++ v)).map trim = (splitTopLevel ['+'] t).map trim :=
    map_trim_splitTopLevel (forall_mem_of_all (by decide)) hu hv t
  have h := congrArg (List.map readOperand) hparts
  rwa [map_readOperand_trim, map_readOperand_trim] at h

theorem readSum_trim (t : Text) : readSum (trim t) = readSum t := by
  obtain ⟨u, v, ht, hu, hv, _⟩ := trim_spec t
  have h := readSum_padded hu hv (trim t)
  rw [← ht] at h
  exact h.symm

theorem readAlternatives_padded (hu : Blank u) (hv : Blank v) (t : Text) :
    readAlternatives (u ++ t ++ v) = readAlternatives t := by
  have hmap : ∀ ps : List Text, (ps.map trim).map readSum = ps.map readSum := by
    intro ps
    rw [List.map_map]
    exact List.map_congr_left fun p _ => readSum_trim p
  have hparts : (splitTopLevel ['|', '|'] (u ++ t ++ v)).map trim =
      (splitTopLevel ['|', '|'] t).map trim := map_trim_splitTopLevel (forall_mem_of_all (by decide)) hu hv t
  have h := congrArg (List.map readSum) hparts
  rwa [hmap, hmap] at h

end blanks

section semicolons

theorem dropWhile_replicate_append (n : Nat) {t : Text} (ht : t.head? ≠ some ';') :
    (List.replicate n ';' ++ t).dropWhile (· == ';') = t := by
  induction n with
  | zero =>
    cases t with
    | nil => rfl
    | cons c t =>
      have hc : c ≠ ';' := fun h => ht (by rw [h]; rfl)
      simp [hc]
  | succ n ih => rwa [List.replicate_succ, List.cons_append, List.dropWhile_cons,
    if_pos (beq_self_eq_true ';')]

theorem dropSemicolons_append (n : Nat) {t : Text} (ht : t.getLast? ≠ some ';') :
    ((t ++ List.replicate n ';').reverse.dropWhile (· == ';')).reverse = t := by
  rw [List.reverse_append, List.reverse_replicate, dropWhile_replicate_append n,
    List.reverse_reverse]
  rwa [List.head?_reverse]

/-- Semicolons behind an expression are not read, nor are the blanks on either side of them. -/
theorem readExpression_semicolons {t v : Text} (ht : t ≠ []) (htrim : Trimmed t)
    (hsemi : t.getLast? ≠ some ';') {u w : Text} (hu : Blank u) (hv : Blank v) (hw : Blank w)
    (n : Nat) :
    readExpression (u ++ t ++ v ++ List.replicate n ';' ++ w) = readAlternatives t := by
  have hbody : ∃ x, Blank x ∧
      expressionBody (u ++ t ++ v ++ List.replicate n ';' ++ w) = t ++ x := by
    cases n with
    | zero =>
      refine ⟨[], Blank.nil, ?_⟩
      have h := dropSemicolons_append 0 hsemi
      rw [List.replicate_zero, List.append_nil] at h
      rw [expressionBody, List.replicate_zero, List.append_nil, trim_append_blank hw,
        trim_padded hu hv, htrim.trim_eq, h, List.append_nil]
    | succ n =>
      have hcore : Trimmed (t ++ v ++ List.replicate (n + 1) ';') := by
        refine ⟨fun c hc => ?_, fun c hc => ?_⟩
        · obtain ⟨d, t, rfl⟩ := List.exists_cons_of_ne_nil ht
          exact htrim.1 c hc
        · rw [List.replicate_succ', ← List.append_assoc, List.getLast?_concat] at hc
          rw [← Option.some.inj hc]
          decide
      have hlast : (t ++ v).getLast? ≠ some ';' := by
        rw [List.getLast?_append]
        cases hl : v.getLast? with
        | none => simpa using hsemi
        | some c =>
          have hc := hv c (List.mem_of_getLast? hl)
          simpa using ne_of_blank hc (by decide)
      refine ⟨v, hv, ?_⟩
      have hs : u ++ t ++ v ++ List.replicate (n + 1) ';' ++ w =
          u ++ (t ++ v ++ List.replicate (n + 1) ';') ++ w := by simp only [List.append_assoc]
      rw [expressionBody, hs, trim_padded hu hw, hcore.trim_eq, dropSemicolons_append _ hlast]
  obtain ⟨x, hx, he⟩ := hbody
  rw [readExpression_eq, he]
  exact readAlternatives_padded Blank.nil hx t

end semicolons

theorem value_cons (page : Page) (a : List Operand) (rest : Expression) :
    Expression.value page (a :: rest) =
      if sumValue page a = [] then Expression.value page rest else sumValue page a := by
  rw [Expression.value]
  split
  · rename_i h
    rw [if_pos h]
  · rename_i h
    rw [h, if_neg (List.cons_ne_nil _ _)]

theorem value_singleton (page : Page) (a : List Operand) :
    Expression.value page [a] = sumValue page a := by
  rw [value_cons, Expression.value]
  split
  · rename_i h
    exact h.symm
  · rfl

theorem sumValue_singleton (page : Page) (o : Operand) : sumValue page [o] = o.value page := by
  rw [sumValue, sumValue, List.append_nil]

end PageClip
