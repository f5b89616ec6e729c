import SeriesQuery.Filter.Basic
import SeriesQuery.Proofs.Checked.Binding
import SeriesQuery.Proofs.Filter.Token

/-! # Reading filter expressions

An expression that is not empty is read exactly when each piece between its separators is a token whose
pattern, if it has one, can be read. Its tree is that of the row of the comparisons, so tags are selected
exactly when the tokens, joined from left to right and each by the separator right before it, hold of them.
-/

namespace SeriesQuery.Filter

def Row.written (row : Row Token) : String := String.ofList (row.map Token.text).text

theorem isCutOf_written (row : Row Token) : (row.map Token.text).IsCutOf row.written.toList := by
  refine ⟨String.toList_ofList.symm, fun piece hpiece => ?_⟩
  rw [Row.items_map, List.mem_map] at hpiece
  obtain ⟨t, -, rfl⟩ := hpiece
  exact t.separatorFree_text

/-- An expression is written by one row of tokens. -/
theorem Row.written_injective : Function.Injective Row.written := by
  intro row other h
  have hcut := isCutOf_written row
  rw [h] at hcut
  exact map_injective Token.text_injective ((isCutOf_written other).unique hcut)

/-- A text whose pieces are tokens is written by a row of tokens. -/
theorem exists_written_of_isCutOf {e : String} {row : Row (List Char)} (hrow : row.IsCutOf e.toList)
    (h : ∀ piece ∈ row.items, ∃ t : CheckedToken, t.text = piece) :
    ∃ read : Row CheckedToken, (read.map CheckedToken.toToken).written = e := by
  obtain ⟨read, rfl⟩ := Row.exists_map_eq h
  refine ⟨read, ?_⟩
  rw [Row.written, Row.map_map, ← String.ofList_toList (s := e), ← hrow.text_eq]
  rfl

theorem isEmpty_written (row : Row Token) : row.written.isEmpty = false := by
  simp [Row.written, Row.text, Row.map, Token.text, row.first.key_ne_nil]

theorem parseRest_map_text (tree : TagPredicate) (others : List (Joint × CheckedToken)) :
    parseRest tree (others.map fun o => (o.1, o.2.text)) =
      .ok (others.foldl (fun before o => Joint.node before o.1 (.leaf o.2.comparison)) tree) := by
  induction others generalizing tree with
  | nil => rfl
  | cons o others ih =>
    rw [List.map_cons, parseRest, o.2.parseToken_text, Joint.join_eq_node]
    exact ih _

/-- A row of tokens is read as the tree of their comparisons. -/
theorem parse_written (row : Row CheckedToken) :
    parse (row.map CheckedToken.toToken).written = .ok (some (row.map CheckedToken.comparison).tree) := by
  have hcut := cut_eq_of_isCutOf (isCutOf_written (row.map CheckedToken.toToken))
  rw [parse, isEmpty_written, if_neg Bool.false_ne_true, hcut]
  have hfirst : parseToken row.first.text = .ok row.first.comparison := row.first.parseToken_text
  have hrest := parseRest_map_text (.leaf row.first.comparison) row.others
  simp only [Row.map, List.map_map, Function.comp_def, hfirst, bind, Except.bind, hrest]
  simp only [Row.tree, Row.joined, Row.map, List.map_map, List.foldl_map, Function.comp_def]

theorem exists_parseToken_of_parseRest {tree result : TagPredicate} {others : List (Joint × List Char)}
    (h : parseRest tree others = .ok result) : ∀ o ∈ others, ∃ c, parseToken o.2 = .ok c := by
  induction others generalizing tree with
  | nil => nofun
  | cons o others ih =>
    obtain ⟨c, hc, hrest⟩ := Except.bind_eq_ok_iff.1 h
    exact List.forall_mem_cons.2 ⟨⟨c, hc⟩, ih hrest⟩

/-- What is read but the empty expression has a tree, and all its pieces are read. -/
theorem of_parse_eq_ok {e : String} {tree? : Option TagPredicate} (h : parse e = .ok tree?)
    (hne : e ≠ "") : (∃ tree, tree? = some tree) ∧
      ∀ row : Row (List Char), row.IsCutOf e.toList →
        ∀ piece ∈ row.items, ∃ c, parseToken piece = .ok c := by
  rw [parse, if_neg (by simpa using hne)] at h
  obtain ⟨c, hc, h⟩ := Except.bind_eq_ok_iff.1 h
  obtain ⟨tree, htree, h⟩ := Except.bind_eq_ok_iff.1 h
  refine ⟨⟨tree, (Except.ok.inj h).symm⟩, fun row hrow => ?_⟩
  rw [cut_eq_of_isCutOf hrow] at hc htree
  exact List.forall_mem_cons.2 ⟨⟨c, hc⟩, List.forall_mem_map.2 (exists_parseToken_of_parseRest htree)⟩

/-- What is read is a row of tokens. -/
theorem exists_row_of_parse {e : String} {tree : TagPredicate} (h : parse e = .ok (some tree)) :
    ∃ row : Row CheckedToken, (row.map CheckedToken.toToken).written = e ∧
      (row.map CheckedToken.comparison).tree = tree := by
  have hne : e ≠ "" := by
    rintro rfl
    cases h
  have hcut := isCutOf_cut e.toList
  obtain ⟨row, rfl⟩ := exists_written_of_isCutOf hcut fun piece hpiece => by
    obtain ⟨c, hc⟩ := (of_parse_eq_ok h hne).2 _ hcut piece hpiece
    obtain ⟨t, ht, -⟩ := CheckedToken.exists_of_parseToken (hcut.separatorFree piece hpiece) hc
    exact ⟨t, ht⟩
  have hparse := parse_written row
  rw [h] at hparse
  exact ⟨row, rfl, by simpa using hparse.symm⟩

theorem parse_eq_ok_none_iff {e : String} : parse e = .ok none ↔ e = "" := by
  constructor
  · intro h
    by_contra hne
    obtain ⟨tree, htree⟩ := (of_parse_eq_ok h hne).1
    cases htree
  · rintro rfl
    rfl

theorem tokens_eq_nil_iff {e : String} : tokens e = [] ↔ e = "" := by
  simp [tokens]

/-- A cut expression is read exactly when its pieces are tokens that compile. -/
theorem exists_parse_iff {e : String} {row : Row (List Char)} (hrow : row.IsCutOf e.toList) :
    (∃ tree, parse e = .ok (some tree)) ↔
      ∀ piece ∈ row.items, ∃ t : Token, t.text = piece ∧ t.Compiles := by
  constructor
  · rintro ⟨tree, h⟩ piece hpiece
    obtain ⟨read, rfl, -⟩ := exists_row_of_parse h
    obtain rfl := hrow.unique (isCutOf_written _)
    simp only [Row.items_map, List.mem_map] at hpiece
    obtain ⟨t, ⟨checked, -, rfl⟩, rfl⟩ := hpiece
    exact ⟨checked.toToken, rfl, checked.compiles⟩
  · intro h
    obtain ⟨read, rfl⟩ := exists_written_of_isCutOf hrow fun piece hpiece => by
      obtain ⟨t, ht, hcompiles⟩ := h piece hpiece
      obtain ⟨checked, rfl⟩ := CheckedToken.exists_of_compiles hcompiles
      exact ⟨checked, ht⟩
    exact ⟨_, parse_written read⟩

theorem exists_parse_written {row : Row Token} (h : ∀ t ∈ row.items, t.Compiles) :
    ∃ tree, parse row.written = .ok (some tree) := by
  rw [exists_parse_iff (isCutOf_written row), Row.items_map]
  exact List.forall_mem_map.2 fun t ht => ⟨t, rfl, h t ht⟩

/-- The tree of a cut expression selects the tags of which its pieces hold, joined from left to right. -/
theorem selects_iff_of_parse {e : String} {tree : TagPredicate} (h : parse e = .ok (some tree))
    {row : Row (List Char)} (hrow : row.IsCutOf e.toList) (tags : Tags) :
    (SeriesFilter.comparisons tree).selects tags = true ↔
      (row.map fun piece => ∃ t : Token, t.text = piece ∧ t.Matches tags).joined Joint.Holds := by
  obtain ⟨read, rfl, rfl⟩ := exists_row_of_parse h
  obtain rfl := hrow.unique (isCutOf_written _)
  simp only [SeriesFilter.selects, Row.holds_tree, Row.map_map, Function.comp_def,
    CheckedToken.matchesTags_iff, Token.exists_text_eq_iff]

/-- An expression falls into pieces in one way. It is read exactly when it is empty, and then has no tree,
or all its pieces are tokens that compile; and then its tree selects the tags of which the pieces hold,
where each piece is joined to all before it by the separator before it. -/
theorem parse_iff_and_selects_iff (e : String) :
    ∃ row : Row (List Char), row.IsCutOf e.toList ∧
      (∀ other : Row (List Char), other.IsCutOf e.toList → other = row) ∧
      (parse e = .ok none ↔ e = "") ∧
      ((∃ tree?, parse e = .ok tree?) ↔
        e = "" ∨ ∀ piece ∈ row.items, ∃ t : Token, t.text = piece ∧ t.Compiles) ∧
      ∀ tree, parse e = .ok (some tree) → ∀ tags : Tags,
        (SeriesFilter.comparisons tree).selects tags = true ↔
          (row.map fun piece => ∃ t : Token, t.text = piece ∧ t.Matches tags).joined Joint.Holds := by
  have hcut := isCutOf_cut e.toList
  refine ⟨_, hcut, fun other => hcut.unique, parse_eq_ok_none_iff, ?_,
    fun tree h tags => selects_iff_of_parse h hcut tags⟩
  rw [← parse_eq_ok_none_iff, ← exists_parse_iff hcut]
  constructor
  · rintro ⟨_ | tree, h⟩
    · exact .inl h
    · exact .inr ⟨tree, h⟩
  · rintro (h | ⟨tree, h⟩)
    · exact ⟨none, h⟩
    · exact ⟨some tree, h⟩

def letterAndDot : Pattern.Node :=
  .seq (.look .textStart) (.seq
    (.group false (.seq (.set [(0x78, 0x78)]) (.seq (.set [(0x2E, 0x2E)]) .empty)))
    (.seq (.look .textEnd) .empty))

theorem compile_letterAndDot :
    Pattern.compile "^(?:x\\.)$" = .ok ⟨"^(?:x\\.)$", letterAndDot⟩ := by
  have hform : Pattern.Form.ofNode letterAndDot =
      .sequence [.look .textStart, .word ['x', '.'], .look .textEnd] := by
    simp only [letterAndDot, Pattern.Form.ofNode]
    rfl
  apply Pattern.compile_eq_ok
  · rfl
  · rfl
  · rw [hform]
    decide +kernel

/-- Three tokens, the last of which has a pattern and is joined to the two before it. -/
def mixedRow : Row Token where
  first := ⟨['a'], .eq, ['^'], by decide, List.forall_mem_singleton.2 rfl, by decide,
    by simp [SeparatorFree], nofun⟩
  others := [
    (.either, ⟨['b'], .le, ['2'], by decide, List.forall_mem_singleton.2 rfl, by decide,
      by simp [SeparatorFree], nofun⟩),
    (.both, ⟨['c'], .like, ['x', '\\', '^'], by decide, List.forall_mem_singleton.2 rfl, by decide,
      by simp [SeparatorFree], nofun⟩)]

theorem compiles_mixedRow : ∀ t ∈ mixedRow.items, t.Compiles := by
  intro t ht hop
  simp only [mixedRow, Row.items, List.map_cons, List.map_nil, List.mem_cons, List.not_mem_nil,
    or_false] at ht
  obtain rfl | rfl | rfl := ht
  · cases hop
  · cases hop
  · exact ⟨_, compile_letterAndDot⟩

/-- The joints hold from left to right, although a conjunction stands behind a disjunction. -/
theorem selects_mixedRow_iff :
    ∃ tree, parse "a=^|b<=2&c~x\\^" = .ok (some tree) ∧ ∀ tags : Tags,
      (SeriesFilter.comparisons tree).selects tags = true ↔
        (tags.find? "a" = some "^" ∨ ∃ b, tags.find? "b" = some b ∧ b ≤ "2") ∧
          ∃ c, tags.find? "c" = some c ∧ Operator.like.Admits "x\\^" c := by
  have hwritten : mixedRow.written = "a=^|b<=2&c~x\\^" := by rfl
  rw [← hwritten]
  obtain ⟨tree, h⟩ := exists_parse_written compiles_mixedRow
  obtain ⟨row, -, hunique, -, -, hselects⟩ := parse_iff_and_selects_iff mixedRow.written
  obtain rfl := hunique _ (isCutOf_written mixedRow)
  refine ⟨tree, h, fun tags => ?_⟩
  rw [hselects tree h tags, Row.map_map]
  simp only [Function.comp_def, Token.exists_text_eq_iff]
  simp [Row.joined, Row.map, mixedRow, Joint.Holds, Token.Matches, Operator.Admits]

end SeriesQuery.Filter
