import Mathlib.Data.List.Forall2
import SeriesQuery.Proofs.Filter.Scanning
import SeriesQuery.Proofs.Filter.TagTexts
import SeriesQuery.Proofs.Query.CompiledTarget
import SeriesQuery.Store.Basic

/-! # Filters and their elements

A compiled target carries its filter twice: as a tree and as a list of elements, which are taken from the expression
or the list a second time. The two agree: the leaves of the tree, in their order, are the elements, and where there is
no tree there are no elements. So a target without a filter keeps all series.
-/

namespace SeriesQuery

/-- A comparison stands written as a text when this is its key, its operator and its value, where the value of a `~`
comparison may have `^` for its dots. -/
def Comparison.WrittenAs (c : Comparison) (element : String) : Prop :=
  ∃ value, element = c.key ++ c.op.symbol ++ value ∧
    c.value = if c.op = .like then restoreDots value else value

namespace Filter

theorem CheckedToken.writtenAs_text (t : CheckedToken) : t.comparison.WrittenAs (String.ofList t.text) := by
  refine ⟨String.ofList t.value, ?_, ?_⟩
  · simp [Token.text, t.key_comparison, t.op_comparison, String.append_assoc]
  · rcases Comparison.make_eq_ok_iff.1 t.made with ⟨hop, hc⟩ | ⟨hop, p, hp, hc⟩ <;> simp [hc, hop]

/-- The leaves of the tree of an expression are its tokens. -/
theorem forall₂_writtenAs_of_parse {e : String} {tree : TagPredicate} (h : parse e = .ok (some tree)) :
    List.Forall₂ Comparison.WrittenAs tree.leaves (tokens e) := by
  have hne : e ≠ "" := by
    rintro rfl
    cases h
  rcases exists_row_of_parse h with ⟨row, rfl, rfl⟩
  rw [tokens_of_isCutOf (isCutOf_written _) hne]
  simp only [Row.leaves_tree, Row.items_map, List.map_map, List.forall₂_map_left_iff, List.forall₂_map_right_iff,
    List.forall₂_same]
  exact fun t _ => t.writtenAs_text

end Filter

namespace Target

variable {t : Target}

theorem FiltersByExpression.leaves {e : String} {tree? : Option TagPredicate}
    (h : t.FiltersByExpression e tree?) {f : SeriesFilter} (hf : t.filter = some f) :
    ∃ tree, f = .comparisons tree ∧ List.Forall₂ Comparison.WrittenAs tree.leaves t.filterElements := by
  rw [h.filter, Option.map_eq_some_iff] at hf
  rcases hf with ⟨tree, rfl, rfl⟩
  rw [h.elements]
  exact ⟨tree, rfl, Filter.forall₂_writtenAs_of_parse h.parsed⟩

theorem FiltersByList.leaves {list : List Filter.Element} {tree? : Option (Predicate String)}
    (h : t.FiltersByList list tree?) {f : SeriesFilter} (hf : t.filter = some f) :
    ∃ tree, f = .tagTexts tree ∧ tree.leaves = t.filterElements := by
  rw [h.filter, Option.map_eq_some_iff] at hf
  rcases hf with ⟨tree, rfl, rfl⟩
  rw [h.elements]
  exact ⟨tree, rfl, (Filter.builds_of_ofElements h.built).leaves⟩

/-- There is a filter exactly where there are elements, and then the elements are its leaves: those of an expression
as they are written in it, those of a list as they are. A target without a filter keeps all series, although it is by
its elements that they are selected. -/
theorem filter_eq_none_iff_and_leaves_of_isCompiled (h : t.IsCompiled) :
    (t.filter = none ↔ t.filterElements = []) ∧
      (∀ query, Query.compile query = .ok t → ∀ f, t.filter = some f →
        ∃ tree, f = .comparisons tree ∧ List.Forall₂ Comparison.WrittenAs tree.leaves t.filterElements) ∧
      (∀ body targets, Dashboard.compile body = .ok targets → t ∈ targets → ∀ f, t.filter = some f →
        ∃ tree, f = .tagTexts tree ∧ tree.leaves = t.filterElements) ∧
      (t.filter = none → ∀ series, Store.selects t.filter t.filterElements series = true) := by
  have hnone : t.filter = none ↔ t.filterElements = [] := by
    cases h with
    | ofQuery h =>
      rcases Query.of_compile_eq_ok h with ⟨-, e, tree?, hfilter⟩
      exact hfilter.filter_eq_none_iff
    | ofRequest h mem =>
      rcases Dashboard.of_mem_compile h mem with ⟨-, list, tree?, hfilter⟩
      exact hfilter.filter_eq_none_iff
  refine ⟨hnone, ?_, ?_, ?_⟩
  · intro query hquery f hf
    rcases Query.of_compile_eq_ok hquery with ⟨-, e, tree?, hfilter⟩
    exact hfilter.leaves hf
  · intro body targets hbody mem f hf
    rcases Dashboard.of_mem_compile hbody mem with ⟨-, list, tree?, hfilter⟩
    exact hfilter.leaves hf
  · intro without series
    rw [without, hnone.1 without]
    rfl

/-- A query whose filter has both joints and, in one of its values, a pattern. -/
def mixedQuery : String := "cpu.usage.a=^|b<=2&c~x\\^"

def ofMixed (tree : TagPredicate) : Target :=
  { ofField "cpu" "usage" with
    filter := some (.comparisons tree), filterElements := ["a=^", "b<=2", "c~x\\^"] }

theorem compile_mixedQuery : ∃ tree, Query.compile mixedQuery = .ok (ofMixed tree) := by
  rcases Filter.exists_parse_written Filter.compiles_mixedRow with ⟨tree, hparse⟩
  have hfilter : Query.compileSelection mixedQuery.toList =
      Query.addFilter (ofField "cpu" "usage") (some Filter.mixedRow.written.toList) := by rfl
  have hselection : Query.compileSelection mixedQuery.toList = .ok (ofMixed tree) := by
    rw [hfilter, Query.addFilter, String.ofList_toList, hparse]
    rfl
  have hempty : mixedQuery.isEmpty = false := by rfl
  have hlookback : Query.cutLookback mixedQuery.toList = (none, mixedQuery.toList) := by rfl
  have hstages : Text.firstAndRest (Text.arrowPieces mixedQuery.toList) = (mixedQuery.toList, []) := by rfl
  rw [Query.compile, hempty, if_neg Bool.false_ne_true]
  simp only [hlookback, hstages, hselection]
  exact ⟨tree, rfl⟩

/-- In the last element the dot of a pattern stands as `^`, in the first `^` is itself. -/
theorem leaves_mixedQuery :
    ∃ tree, Query.compile mixedQuery = .ok (ofMixed tree) ∧ (ofMixed tree).IsCompiled ∧
      List.Forall₂ Comparison.WrittenAs tree.leaves ["a=^", "b<=2", "c~x\\^"] := by
  rcases compile_mixedQuery with ⟨tree, hcompile⟩
  have compiled : (ofMixed tree).IsCompiled := .ofQuery hcompile
  rcases (filter_eq_none_iff_and_leaves_of_isCompiled compiled).2.1 _ hcompile _ rfl with ⟨_, ⟨⟩, leaves⟩
  exact ⟨tree, hcompile, compiled, leaves⟩

end Target
end SeriesQuery
