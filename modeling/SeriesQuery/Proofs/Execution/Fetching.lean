import Mathlib.Algebra.BigOperators.Group.List.Basic
import Mathlib.Algebra.GroupWithZero.Nat
import SeriesQuery.Execution
import SeriesQuery.Proofs.Point.TimeOrder
import SeriesQuery.Proofs.Query.CompiledTarget
import SeriesQuery.Proofs.Stage.Streaming
import SeriesQuery.Proofs.Stage.TimeOrder
import SeriesQuery.Proofs.Store.Lookup

/-! # What an execution does with the series of a target

An execution is one equation over the keys of the selected series: under each key the points in the range are
fetched in the order of insertion, sorted and run through fresh stages. The keys do not depend on the range,
and the points that come out do not depend on the way the stages run.
-/

namespace SeriesQuery

open StageChain (freshStages)

namespace Target

def path (t : Target) (database : String) : FieldPath := ⟨database, t.measurement, t.field⟩

def keeps (t : Target) (tags : Tags) : Bool := t.filter.all fun f => f.selects tags

/-- The series that the target keeps, in the order of insertion. -/
def selected (t : Target) (database : String) (entries : List (FieldPath × Series)) : List Series :=
  (entries.filter fun e => decide (e.1 = t.path database) && t.keeps e.2.tags).map Prod.snd

/-- The points of all series with a key that the target keeps, in the order of insertion. -/
def stored (t : Target) (database : String) (entries : List (FieldPath × Series)) (key : String) : List Point :=
  OrderedMap.valuesOf Series.key Series.points (t.selected database entries) key

/-- The points in the range of all series with a key that the target keeps, in the order of insertion. -/
def fetched (t : Target) (database : String) (range : TimeRange) (entries : List (FieldPath × Series))
    (key : String) : List Point :=
  ((t.selected database entries).filter fun s => s.key = key).flatMap fun s =>
    s.points.filter fun p => range.start ≤ p.time ∧ p.time < range.stop

/-- What is fetched over a range is what is stored, without the points outside. -/
theorem fetched_eq_filter (t : Target) (database : String) (range : TimeRange)
    (entries : List (FieldPath × Series)) (key : String) :
    t.fetched database range entries key =
      (t.stored database entries key).filter fun p => range.contains p.time := by
  rw [stored, OrderedMap.valuesOf, List.filter_flatMap]
  rfl

/-- The keys of the series that the target keeps, each once and in their order. -/
def seriesKeys (t : Target) (database : String) (entries : List (FieldPath × Series)) : List String :=
  (OrderedMap.gather Series.key Series.points (t.selected database entries)).keys

theorem mem_seriesKeys {t : Target} {database : String} {entries : List (FieldPath × Series)} {key : String} :
    key ∈ t.seriesKeys database entries ↔ ∃ s ∈ t.selected database entries, s.key = key :=
  OrderedMap.mem_keys_gather

theorem ascending_seriesKeys (t : Target) (database : String) (entries : List (FieldPath × Series)) :
    (t.seriesKeys database entries).Pairwise (· < ·) :=
  (OrderedMap.ascending_keys _).imp compareOfLessAndEq_eq_lt.1

/-- A checked target without a filter asks for no tags. -/
theorem IsChecked.selects_eq {t : Target} (h : t.IsChecked) (s : Series) :
    Store.selects t.filter t.filterElements s = t.keeps s.tags := by
  rw [keeps]
  cases hf : t.filter with
  | none =>
    rw [h.listed hf]
    rfl
  | some f => rfl

/-- The entries that are looked up: the keys in order, each with the points fetched for it. -/
theorem IsChecked.exists_lookup {t : Target} (h : t.IsChecked) {store : Store} {database : String}
    {range : TimeRange} (proper : range.start < range.stop) (there : store.missing? (t.path database) = none) :
    ∃ found, store.lookup (t.path database) range t.filterElements t.filter = .ok found ∧
      found.entries = (t.seriesKeys database store.entries).map fun key =>
        (key, t.fetched database range store.entries key) := by
  have hselected : (store.seriesAt (t.path database)).filter (Store.selects t.filter t.filterElements) =
      t.selected database store.entries := by
    rw [Store.seriesAt, List.filter_map, List.filter_filter, selected]
    refine congrArg (List.map Prod.snd) (List.filter_congr fun e _ => ?_)
    rw [Function.comp_apply, h.selects_eq, Bool.and_comm]
  refine ⟨_, Store.lookup_eq_ok proper there t.filterElements t.filter, ?_⟩
  rw [hselected, OrderedMap.entries_gather, seriesKeys, OrderedMap.keys_gather_congr Series.key Series.points]
  rfl

theorem stablySorted_sortPoints (points : List Point) : StablySorted points (sortPoints points) where
  inTimeOrder := SortByKey.pairwise_mergeSort Point.time points
  ties := SortByKey.filter_mergeSort Point.time points

theorem perm_of_stablySorted {points sorted : List Point} (h : StablySorted points sorted) :
    sorted.Perm points := by
  rw [h.unique (stablySorted_sortPoints points)]
  exact List.mergeSort_perm _ _

theorem length_sortPoints (points : List Point) : (sortPoints points).length = points.length :=
  List.length_mergeSort points

/-- Either way of running them, fresh stages of the target make the same of the points. -/
theorem process_eq_ok {t : Target} {stages : List Stage} (h : freshStages t.templates = .ok stages)
    (force : Bool) (points : List Point) : t.process force points = .ok (runBuffered stages points) := by
  rw [templates] at h
  rw [process]
  cases hchain : t.stages with
  | none =>
    rw [hchain] at h
    cases h
    rfl
  | some chain =>
    rw [hchain] at h
    obtain ⟨pipeline, hbuild, hrun⟩ := Pipeline.exists_build h (if force then .materialized else chain.mode)
    simp only [hbuild, hrun]

end Target

namespace QueryOutput

theorem total_eq_sum (counts : List Nat) : total counts = counts.sum := by
  induction counts with
  | nil => rfl
  | cons n rest ih => rw [total, ih, List.sum_cons]

end QueryOutput

namespace OutputSeries

theorem sortByTime_ofPoints {points : List Point} (h : InTimeOrder points) (key : String) :
    (ofPoints key points).sortByTime = ofPoints key points := by
  have hsorted : (points.map fun p => (p.value, p.time)).Pairwise fun a b => decide (a.2 ≤ b.2) = true := by
    rw [List.pairwise_map]
    exact h.imp decide_eq_true
  rw [sortByTime, ofPoints, List.mergeSort_of_pairwise hsorted]

/-- The keys of a map are in order already. -/
theorem assemble_eq_map (points : OrderedMap String (List Point)) :
    assemble points = points.entries.map fun e => (ofPoints e.1 e.2).sortByTime := by
  rw [assemble, sortByTarget]
  refine List.mergeSort_of_pairwise ?_
  rw [List.pairwise_map]
  refine points.ascending.imp fun {a b} hlt => decide_eq_true ?_
  exact Std.le_of_lt (compareOfLessAndEq_eq_lt.1 hlt)

end OutputSeries

namespace Target

/-- No window starts before the first time that can be written, whichever key the target runs over. -/
def WindowsFit (t : Target) (database : String) (range : TimeRange) (entries : List (FieldPath × Series)) :
    Prop :=
  ∀ stages, freshStages t.templates = .ok stages →
    ∀ key sorted, StablySorted (t.fetched database range entries key) sorted → StartsFitAlong stages sorted

/-- The output for one key: what the stages make of its points in the range, once these are sorted. -/
def outputOf (t : Target) (database : String) (range : TimeRange) (entries : List (FieldPath × Series))
    (stages : List Stage) (key : String) : OutputSeries :=
  (OutputSeries.ofPoints key
    (runBuffered stages (sortPoints (t.fetched database range entries key)))).sortByTime

/-- What comes out is not sorted once more where fresh stages keep the order of time. -/
theorem datapoints_outputOf {t : Target} {database : String} {range : TimeRange}
    {entries : List (FieldPath × Series)} {stages : List Stage} (fresh : ∀ s ∈ stages, s.IsFresh) {key : String}
    (fits : StartsFitAlong stages (sortPoints (t.fetched database range entries key))) :
    (t.outputOf database range entries stages key).datapoints =
      (runBuffered stages (sortPoints (t.fetched database range entries key))).map fun p =>
        (p.value, p.time) := by
  rw [outputOf, OutputSeries.sortByTime_ofPoints]
  · rfl
  · exact runBuffered_inTimeOrder fresh (stablySorted_sortPoints _).inTimeOrder fits

/-- The outputs for all keys, in their order, and the number of points that were fetched for them. -/
def outputOver (t : Target) (database : String) (range : TimeRange) (entries : List (FieldPath × Series))
    (stages : List Stage) : QueryOutput :=
  ⟨(t.seriesKeys database entries).map (t.outputOf database range entries stages),
    ((t.seriesKeys database entries).map fun key => (t.fetched database range entries key).length).sum⟩

/-- Without stages the points are only sorted. -/
theorem outputOver_nil (t : Target) (database : String) (range : TimeRange)
    (entries : List (FieldPath × Series)) :
    t.outputOver database range entries [] =
      ⟨(t.seriesKeys database entries).map fun key =>
          .ofPoints key (sortPoints (t.fetched database range entries key)),
        ((t.seriesKeys database entries).map fun key => (t.fetched database range entries key).length).sum⟩ := by
  rw [outputOver]
  congr 1
  apply List.map_congr_left
  intro key _
  exact OutputSeries.sortByTime_ofPoints (stablySorted_sortPoints _).inTimeOrder key

theorem map_target_outputOver (t : Target) (database : String) (range : TimeRange)
    (entries : List (FieldPath × Series)) (stages : List Stage) :
    (t.outputOver database range entries stages).series.map OutputSeries.target =
      t.seriesKeys database entries := by
  rw [outputOver, List.map_map]
  exact List.map_id _

theorem IsChecked.execute_eq_ok {t : Target} (h : t.IsChecked) {store : Store} {database : String}
    {range : TimeRange} (proper : range.start < range.stop) (there : store.missing? (t.path database) = none)
    {stages : List Stage} (fresh : freshStages t.templates = .ok stages) (force : Bool) :
    t.execute store database range force = .ok (t.outputOver database range store.entries stages) := by
  obtain ⟨found, hfound, hentries⟩ := h.exists_lookup proper there
  rw [path] at hfound
  simp only [execute, hfound]
  rw [OrderedMap.tryMapValues_eq_ok _ fun _ points => process_eq_ok fresh force points]
  simp only [OutputSeries.assemble_eq_map, OrderedMap.entries_mapValues, hentries, QueryOutput.total_eq_sum,
    List.map_map, Function.comp_def, length_sortPoints]
  rfl

end Target
end SeriesQuery
