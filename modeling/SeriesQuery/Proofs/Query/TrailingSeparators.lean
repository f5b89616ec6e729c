import SeriesQuery.Proofs.Query.Rendering

/-! # Separators at the end of a query

Arrows behind a query change nothing, and neither do commas behind its last stage. What is put behind an arbitrary
query makes no arrow with it, as no separator starts with `>`, and moves no lookback, as a query that was compiled has
something behind its `<`; so it adds empty pieces at the end, which are dropped.
-/

namespace SeriesQuery.Query

open Text

/-! ## Lookback -/

/-- The rest of a query stands at its end, and what is put behind the one is behind the other; only an empty rest could
get an `=` for the marker. -/
theorem exists_cutLookback_append (query : List Char) :
    ∃ lookback rest, rest <:+ query ∧ ∀ back, '<' ∉ back → (rest = [] → back = []) →
      cutLookback (query ++ back) = (lookback, rest ++ back) := by
  by_cases hlt : '<' ∈ query
  · obtain ⟨before, rest, rfl, hbefore⟩ := List.eq_append_cons_of_mem hlt
    have hrest : rest <:+ before ++ '<' :: rest := (List.suffix_cons '<' rest).trans (List.suffix_append _ _)
    by_cases hdot : '.' ∈ before
    · obtain ⟨front, field, rfl⟩ := List.append_of_mem hdot
      refine ⟨none, _, List.suffix_rfl, fun back _ _ => ?_⟩
      rw [List.append_assoc, List.append_assoc]
      exact cutLookback_of_dot fun hmem => hbefore (List.mem_append_left _ hmem)
    · by_cases hmarker : rest.head? = some '='
      · obtain ⟨rest, rfl⟩ := List.head?_eq_some_iff.1 hmarker
        refine ⟨some (before ++ ['<', '=']), rest, (List.suffix_cons '=' rest).trans hrest, fun back _ _ => ?_⟩
        rw [List.append_assoc]
        exact cutLookback_append_upTo hbefore hdot _
      · refine ⟨some (before ++ ['<']), rest, hrest, fun back _ hback => ?_⟩
        rw [List.append_assoc]
        apply cutLookback_append_below hbefore hdot
        cases rest with
        | nil => simp [hback rfl]
        | cons c rest => exact hmarker
  · refine ⟨none, query, List.suffix_rfl, fun back hback _ => ?_⟩
    have hboth : '<' ∉ query ++ back := by simp [hlt, hback]
    rw [cutLookback, cutAt_of_not_mem hboth]

/-! ## Stages -/

theorem compileStage_append_comma (segment : List Char) : compileStage (segment ++ [',']) = compileStage segment := by
  have hne := pieces_ne_nil ',' segment
  have hpieces : pieces ',' (segment ++ [',']) = pieces ',' segment ++ [[]] := by
    rw [pieces_append]
    exact joinPieces_nil_cons hne [[]]
  rw [compileStage, compileStage, hpieces, firstAndRest_append_nil hne]

theorem compileStages_append_comma (segments : List (List Char)) (last : List Char) :
    compileStages (segments ++ [last ++ [',']]) = compileStages (segments ++ [last]) := by
  induction segments with
  | nil => simp only [List.nil_append, compileStages, compileStage_append_comma]
  | cons segment segments ih => rw [List.cons_append, List.cons_append, compileStages, compileStages, ih]

/-! ## Queries -/

theorem compile_of_cut {query : String} {lookback : Option (List Char)} {rest selection : List Char}
    {segments : List (List Char)} (hne : query ≠ "") (hcut : cutLookback query.toList = (lookback, rest))
    (hpieces : arrowPieces rest = selection :: segments) :
    compile query =
      match compileSelection selection with
      | .error e => .error e
      | .ok target =>
        match compileStages (dropTrailingEmpty segments) with
        | .error e => .error (.stage e)
        | .ok templates =>
          .ok { target with
            lookback := lookback.map String.ofList
            stages := if templates.isEmpty then none else some ⟨templates⟩ } := by
  simp only [compile, String.isEmpty_iff, hne, if_false, hcut, hpieces]
  rfl

/-- The pieces of a compiled query; it compiles to the same target with something behind it that leaves the selection
and the stages as they were. -/
theorem exists_pieces_of_compile {query : String} {t : Target} (h : compile query = .ok t) :
    ∃ rest selection segments, rest <:+ query.toList ∧ arrowPieces rest = selection :: segments ∧
      (t.stages.isSome = true → segments ≠ []) ∧
      ∀ back segments', '<' ∉ back.toList → arrowPieces (rest ++ back.toList) = selection :: segments' →
        compileStages (dropTrailingEmpty segments') = compileStages (dropTrailingEmpty segments) →
        compile (query ++ back) = .ok t := by
  obtain ⟨lookback, rest, hsuffix, hcut⟩ := exists_cutLookback_append query.toList
  have hself := hcut [] (by simp) fun _ => rfl
  rw [List.append_nil, List.append_nil] at hself
  have hne : query ≠ "" := by
    rintro rfl
    cases h
  obtain ⟨selection, segments, hpieces⟩ := List.exists_cons_of_ne_nil (arrowPieces_ne_nil rest)
  rw [compile_of_cut hne hself hpieces] at h
  refine ⟨rest, selection, segments, hsuffix, hpieces, ?_, fun back segments' hback hpieces' hstages => ?_⟩
  · rintro chain rfl
    split at h
    · cases h
    · cases h
      cases chain
  · have hrest : rest ≠ [] := by
      rintro rfl
      cases hpieces
      cases h
    have hne' : query ++ back ≠ "" := by simp [hne]
    have hcut' := hcut back.toList hback fun hnil => absurd hnil hrest
    rw [← String.toList_append] at hcut'
    rw [compile_of_cut hne' hcut' hpieces', hstages, h]

theorem compile_append_arrow {query : String} {t : Target} (h : compile query = .ok t) :
    compile (query ++ "=>") = .ok t := by
  obtain ⟨rest, selection, segments, -, hpieces, -, hcompile⟩ := exists_pieces_of_compile h
  have harrow : arrowPieces (rest ++ "=>".toList) = selection :: (segments ++ [[]]) := by
    rw [arrowPieces_append rest (by decide), ← List.cons_append, ← hpieces]
    exact joinPieces_nil_cons (arrowPieces_ne_nil rest) [[]]
  exact hcompile "=>" _ (by decide) harrow (by rw [dropTrailingEmpty_append_nil])

theorem compile_append_comma {query : String} {t : Target} (h : compile query = .ok t)
    (chain : t.stages.isSome = true) (hend : ¬ ['=', '>'] <:+ query.toList) : compile (query ++ ",") = .ok t := by
  obtain ⟨rest, selection, segments, hsuffix, hpieces, hsegments, hcompile⟩ := exists_pieces_of_compile h
  have hne := hsegments chain
  rw [← List.dropLast_concat_getLast hne] at hpieces hcompile
  generalize segments.dropLast = stages at *
  generalize segments.getLast hne = last at *
  have hlast : last ≠ [] := by
    rintro rfl
    rw [← List.cons_append] at hpieces
    exact hend ((arrow_suffix_of_arrowPieces hpieces (by simp)).trans hsuffix)
  have hcomma : arrowPieces (rest ++ ",".toList) = selection :: (stages ++ [last ++ [',']]) := by
    rw [arrowPieces_append rest (by decide), hpieces, ← List.cons_append, ← List.cons_append, joinPieces_concat]
    rfl
  refine hcompile "," _ (by decide) hcomma ?_
  rw [dropTrailingEmpty_of_getLast_ne_nil (by simp), dropTrailingEmpty_of_getLast_ne_nil (by simpa using hlast),
    compileStages_append_comma]

/-- What holds of a query and stays so with one more separator holds with any number of them. -/
theorem forall_separators {separator : String} {P : String → Prop} (step : ∀ query, P query → P (query ++ separator))
    {query : String} (h : P query) (k : Nat) : P (query ++ String.join (List.replicate k separator)) := by
  induction k generalizing query with
  | zero => simpa using h
  | succ k ih =>
    rw [List.replicate_succ, String.join_cons, ← String.append_assoc]
    exact ih (step query h)

/-- With any number of arrows behind it a query is compiled to the same target, and if it ends in a stage, with any
number of commas too. -/
theorem compile_append_separators {query : String} {t : Target} (h : compile query = .ok t) (k : Nat) :
    compile (query ++ String.join (List.replicate k "=>")) = .ok t ∧
      (t.stages.isSome = true → ¬ ['=', '>'] <:+ query.toList →
        compile (query ++ String.join (List.replicate k ",")) = .ok t) := by
  constructor
  · exact forall_separators (P := fun q => compile q = .ok t) (fun _ => compile_append_arrow) h k
  · intro chain hend
    have step (q : String) (hq : compile q = .ok t ∧ ¬ ['=', '>'] <:+ q.toList) :
        compile (q ++ ",") = .ok t ∧ ¬ ['=', '>'] <:+ (q ++ ",").toList := by
      refine ⟨compile_append_comma hq.1 chain hq.2, fun ⟨front, hfront⟩ => ?_⟩
      have hlast := congrArg List.getLast? hfront
      simp at hlast
    exact (forall_separators (P := fun q => compile q = .ok t ∧ ¬ ['=', '>'] <:+ q.toList) step ⟨h, hend⟩ k).1

/-- The last argument ends in the first half of an arrow, and so does what stands before the lookback marker. -/
theorem compile_append_two_separators :
    ∃ t, compile "7d=<m=.f.a=1.5|b<r.x==>mult,2.5,x=" = .ok t ∧ t.stages.isSome = true ∧
      compile "7d=<m=.f.a=1.5|b<r.x==>mult,2.5,x==>=>" = .ok t ∧
      compile "7d=<m=.f.a=1.5|b<r.x==>mult,2.5,x=,," = .ok t := by
  have hcompile : ∃ t, compile "7d=<m=.f.a=1.5|b<r.x==>mult,2.5,x=" = .ok t ∧ t.stages.isSome = true :=
    ⟨_, rfl, rfl⟩
  obtain ⟨t, h, chain⟩ := hcompile
  obtain ⟨arrows, commas⟩ := compile_append_separators h 2
  exact ⟨t, h, chain, arrows, commas chain (by decide)⟩

end SeriesQuery.Query
