import SeriesQuery.Dashboard
import SeriesQuery.Proofs.Filter.Building
import SeriesQuery.Proofs.Filter.Reading
import SeriesQuery.Query.Compile

/-! # What a target can rely on

A target comes from a query or from a dashboard request. Either way every stage of it has passed the checks of
its kind, its filter and its filter elements are made of the same text or list, and a target that lists filter
elements has a filter, so that the list is never asked for itself.
-/

namespace SeriesQuery

def Target.templates (t : Target) : List StageTemplate := t.stages.elim [] StageChain.templates

/-- A target that was compiled. -/
inductive Target.IsCompiled : Target → Prop where
  | ofQuery {query : String} {t : Target} (h : Query.compile query = .ok t) : IsCompiled t
  | ofRequest {body : String} {targets : List Target} {t : Target}
      (h : Dashboard.compile body = .ok targets) (mem : t ∈ targets) : IsCompiled t

/-- Stages are checked, and filter elements belong to a filter. -/
structure Target.IsChecked (t : Target) : Prop where
  made : ∀ u ∈ t.templates, ∃ name args, StageTemplate.make name args = .ok u
  listed : t.filter = none → t.filterElements = []

/-- Filter and filter elements of a target are those of an expression. -/
structure Target.FiltersByExpression (t : Target) (e : String) (tree? : Option TagPredicate) : Prop where
  parsed : Filter.parse e = .ok tree?
  filter : t.filter = tree?.map .comparisons
  elements : t.filterElements = Filter.tokens e

/-- Filter and filter elements of a target are those of a filter list. -/
structure Target.FiltersByList (t : Target) (list : List Filter.Element) (tree? : Option (Predicate String)) :
    Prop where
  built : Filter.ofElements list = .ok tree?
  filter : t.filter = tree?.map .tagTexts
  elements : t.filterElements = Filter.listValues list

theorem Target.FiltersByExpression.filter_eq_none_iff {t : Target} {e : String} {tree? : Option TagPredicate}
    (h : t.FiltersByExpression e tree?) : t.filter = none ↔ t.filterElements = [] := by
  rw [h.filter, h.elements, Option.map_eq_none_iff, Filter.tokens_eq_nil_iff, ← Filter.parse_eq_ok_none_iff, h.parsed]
  simp

theorem Target.FiltersByList.filter_eq_none_iff {t : Target} {list : List Filter.Element}
    {tree? : Option (Predicate String)} (h : t.FiltersByList list tree?) :
    t.filter = none ↔ t.filterElements = [] := by
  rw [h.filter, h.elements, Option.map_eq_none_iff, (Filter.builds_of_ofElements h.built).listValues_eq_nil_iff]

namespace Query

theorem exists_make_of_compileStages {segments : List (List Char)} {templates : List StageTemplate}
    (h : compileStages segments = .ok templates) :
    ∀ u ∈ templates, ∃ name args, StageTemplate.make name args = .ok u := by
  induction segments generalizing templates with
  | nil =>
    cases h
    exact nofun
  | cons segment rest ih =>
    rw [compileStages] at h
    obtain ⟨u, hu, h⟩ := Except.bind_eq_ok_iff.1 h
    obtain ⟨us, hus, h⟩ := Except.bind_eq_ok_iff.1 h
    cases h
    exact List.forall_mem_cons.2 ⟨⟨_, _, hu⟩, ih hus⟩

/-- A selection without a filter is as one with the empty expression. -/
theorem of_addFilter_eq_ok {measurement field : String} {t : Target} {expression : Option (List Char)}
    (h : addFilter (.ofField measurement field) expression = .ok t) :
    ∃ e tree?, t.FiltersByExpression e tree? := by
  cases expression with
  | none =>
    cases h
    exact ⟨"", none, rfl, rfl, rfl⟩
  | some e =>
    simp only [addFilter] at h
    split at h
    · cases h
    · rename_i tree? htree
      cases h
      exact ⟨String.ofList e, tree?, htree, rfl, rfl⟩

theorem of_compileSelection_eq_ok {selection : List Char} {t : Target}
    (h : compileSelection selection = .ok t) : ∃ e tree?, t.FiltersByExpression e tree? := by
  simp only [compileSelection] at h
  split at h
  · cases h
  · split at h
    · cases h
    · split at h
      · cases h
      · exact of_addFilter_eq_ok h

theorem of_compile_eq_ok {query : String} {t : Target} (h : compile query = .ok t) :
    (∀ u ∈ t.templates, ∃ name args, StageTemplate.make name args = .ok u) ∧
      ∃ e tree?, t.FiltersByExpression e tree? := by
  simp only [compile] at h
  split at h
  · cases h
  · split at h
    · cases h
    · rename_i base hbase
      split at h
      · cases h
      · rename_i templates htemplates
        cases h
        obtain ⟨e, tree?, hfilter⟩ := of_compileSelection_eq_ok hbase
        refine ⟨fun u hu => exists_make_of_compileStages htemplates u ?_, e, tree?, hfilter.parsed,
          hfilter.filter, hfilter.elements⟩
        rw [Target.templates] at hu
        by_cases hempty : templates.isEmpty
        · simp [hempty] at hu
        · simpa [hempty] using hu

theorem isChecked_of_compile {query : String} {t : Target} (h : compile query = .ok t) : t.IsChecked := by
  obtain ⟨made, e, tree?, hfilter⟩ := of_compile_eq_ok h
  exact ⟨made, hfilter.filter_eq_none_iff.1⟩

end Query

namespace Dashboard

theorem of_compile_eq_ok {d : DashboardTarget} {t : Target} (h : d.compile = .ok t) :
    t.templates = [] ∧ ∃ tree?, t.FiltersByList d.filters tree? := by
  rw [DashboardTarget.compile] at h
  split at h
  · cases h
  · rename_i tree? htree
    cases h
    exact ⟨rfl, tree?, htree, rfl, rfl⟩

theorem exists_compile_of_compileAll {requested : List DashboardTarget} {targets : List Target}
    (h : compileAll requested = .ok targets) : ∀ t ∈ targets, ∃ d, DashboardTarget.compile d = .ok t := by
  induction requested generalizing targets with
  | nil =>
    cases h
    exact nofun
  | cons d rest ih =>
    rw [compileAll] at h
    obtain ⟨t, ht, h⟩ := Except.bind_eq_ok_iff.1 h
    obtain ⟨others, hothers, h⟩ := Except.bind_eq_ok_iff.1 h
    cases h
    exact List.forall_mem_cons.2 ⟨⟨d, ht⟩, ih hothers⟩

/-- The targets of a request run no stages and are filtered by their lists. -/
theorem of_mem_compile {body : String} {targets : List Target} (h : compile body = .ok targets) {t : Target}
    (mem : t ∈ targets) : t.templates = [] ∧ ∃ list tree?, t.FiltersByList list tree? := by
  simp only [compile] at h
  split at h
  · cases h
  · split at h
    · rename_i compiled hcompiled
      cases h
      obtain ⟨d, hd⟩ := exists_compile_of_compileAll hcompiled t mem
      obtain ⟨noStages, hfilter⟩ := of_compile_eq_ok hd
      exact ⟨noStages, d.filters, hfilter⟩
    · cases h

end Dashboard

theorem Target.IsCompiled.isChecked {t : Target} (h : t.IsCompiled) : t.IsChecked := by
  cases h with
  | ofQuery h => exact Query.isChecked_of_compile h
  | ofRequest h mem =>
    obtain ⟨noStages, list, tree?, hfilter⟩ := Dashboard.of_mem_compile h mem
    exact ⟨by simp [noStages], hfilter.filter_eq_none_iff.1⟩

end SeriesQuery
