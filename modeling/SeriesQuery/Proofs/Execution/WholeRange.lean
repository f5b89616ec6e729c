import SeriesQuery.Proofs.Execution.Reference

/-! # Executing over the widest range

The widest range ends before the last time that can be written. Every other time lies in it, so that what a
target without stages yields over it is all that is stored under its keys, apart from the points of that one
time. Counting does not depend on the keys: as many points are scanned as there are in the selected series.
-/

namespace SeriesQuery.Target

open StageChain (freshStages)

/-- The output has one series for each key among the series that the target keeps, with the points of some kind
that are stored under the key, each as often as it is stored, and counts the points of that kind. -/
structure Returns (t : Target) (database : String) (kind : Point → Bool) (entries : List (FieldPath × Series))
    (output : QueryOutput) : Prop where
  ascending : (output.series.map OutputSeries.target).Pairwise (· < ·)
  keys (key : String) :
    key ∈ output.series.map OutputSeries.target ↔ ∃ s ∈ t.selected database entries, s.key = key
  datapoints {o : OutputSeries} (h : o ∈ output.series) :
    o.datapoints.Perm (((t.stored database entries o.target).filter kind).map fun p => (p.value, p.time))
  scanned : output.scanned = ((t.selected database entries).flatMap Series.points).countP kind

variable {t : Target} {database : String} {range : TimeRange} {entries : List (FieldPath × Series)}

theorem sum_length_fetched {keys : List String} (nodup : keys.Nodup)
    (covered : ∀ s ∈ t.selected database entries, s.key ∈ keys) :
    (keys.map fun key => (t.fetched database range entries key).length).sum =
      ((t.selected database entries).flatMap Series.points).countP fun p => range.contains p.time := by
  rw [List.countP_eq_length_filter, List.filter_flatMap]
  exact OrderedMap.sum_length_valuesOf Series.key _ nodup covered

/-- Without stages the points in the range are returned as they are stored. -/
theorem IsYield.returns {output : QueryOutput} (h : t.IsYield database range entries [] output) :
    t.Returns database (fun p => range.contains p.time) entries output where
  ascending := h.ascending
  keys := h.keys
  datapoints {o} ho := by
    obtain ⟨sorted, hsorted, hdatapoints⟩ := h.datapoints ho
    rw [hdatapoints trivial, ← fetched_eq_filter]
    exact (perm_of_stablySorted hsorted).map _
  scanned := by
    have nodup : (output.series.map OutputSeries.target).Nodup := h.ascending.imp fun hlt => Std.ne_of_lt hlt
    have covered : ∀ s ∈ t.selected database entries, s.key ∈ output.series.map OutputSeries.target :=
      fun s hs => (h.keys s.key).2 ⟨s, hs, rfl⟩
    rw [h.scanned, ← sum_length_fetched nodup covered, List.map_map]
    rfl

theorem isProper_all : TimeRange.all.start < TimeRange.all.stop := by decide

/-- Over the widest range, a target without stages returns all that is stored under the keys that it keeps, but
for the points of the last time that can be written, and counts these points alone. -/
theorem execute_all_returns (compiled : t.IsCompiled) (bare : t.stages = none) {store : Store}
    (there : ∃ e ∈ store.entries, e.1 = t.path database) :
    ∃ output, (∀ force, t.execute store database .all force = .ok output) ∧
      t.Returns database (fun p => p.time ≠ Int64.maxValue) store.entries output := by
  have hthere := Store.missing?_eq_none_iff.2 there
  obtain ⟨stages, output, hoks, hstages, hyield⟩ := compiled.isChecked.exists_isYield isProper_all hthere
  have hnil : stages = [] := by
    rw [templates, bare] at hstages
    exact (Except.ok.inj hstages).symm
  subst hnil
  have hkind : (fun p : Point => TimeRange.all.contains p.time) = fun p => decide (p.time ≠ Int64.maxValue) := by
    ext p
    rw [Bool.eq_iff_iff, TimeRange.contains_all_iff, decide_eq_true_eq]
  exact ⟨output, hoks, hkind ▸ hyield.returns⟩

/-- A host with a point at the last time that can be written and one at the first. -/
def bothEnds : Store := .ofInsertions [(⟨"metrics", "cpu", "usage"⟩,
  ⟨"web1", .ofList [], [.ofInt Int64.maxValue 7, .ofInt Int64.minValue 5]⟩)]

def firstEndOutput : QueryOutput := ⟨[⟨"web1", [(.int 5, Int64.minValue)]⟩], 1⟩

theorem mem_bothEnds : ∃ e ∈ bothEnds.entries, e.1 = everyUsage.path "metrics" :=
  ⟨_, List.mem_cons_self, rfl⟩

theorem execute_bothEnds_eq_ok (force : Bool) :
    everyUsage.execute bothEnds "metrics" .all force = .ok firstEndOutput := by
  have there : bothEnds.missing? (everyUsage.path "metrics") = none := by rfl
  have fresh : freshStages everyUsage.templates = .ok [] := by rfl
  have hkeys : everyUsage.seriesKeys "metrics" bothEnds.entries = ["web1"] := by rfl
  have hfetched : everyUsage.fetched "metrics" .all bothEnds.entries "web1" = [.ofInt Int64.minValue 5] := by
    rfl
  have hsorted : sortPoints [.ofInt Int64.minValue 5] = [.ofInt Int64.minValue 5] := List.mergeSort_singleton _
  rw [isCompiled_everyUsage.isChecked.execute_eq_ok isProper_all there fresh, outputOver_nil, hkeys]
  simp only [List.map_cons, List.map_nil, hfetched, hsorted]
  rfl

theorem execute_bothEnds_returns :
    everyUsage.IsCompiled ∧ everyUsage.stages = none ∧
      (∃ e ∈ bothEnds.entries, e.1 = everyUsage.path "metrics") ∧
      (∀ force, everyUsage.execute bothEnds "metrics" .all force = .ok firstEndOutput) ∧
      everyUsage.Returns "metrics" (fun p => p.time ≠ Int64.maxValue) bothEnds.entries firstEndOutput := by
  obtain ⟨output, hoks, hreturns⟩ := execute_all_returns isCompiled_everyUsage rfl mem_bothEnds
  obtain rfl : firstEndOutput = output := Except.ok.inj ((execute_bothEnds_eq_ok false).symm.trans (hoks false))
  exact ⟨isCompiled_everyUsage, rfl, mem_bothEnds, hoks, hreturns⟩

/-- The point of the last time is neither returned nor counted. -/
theorem execute_bothEnds_loses_last :
    everyUsage.IsCompiled ∧ everyUsage.stages = none ∧
      (∃ e ∈ bothEnds.entries, e.1 = everyUsage.path "metrics") ∧
      everyUsage.stored "metrics" bothEnds.entries "web1" =
        [.ofInt Int64.maxValue 7, .ofInt Int64.minValue 5] ∧
      everyUsage.execute bothEnds "metrics" .all false = .ok firstEndOutput ∧
      ¬ everyUsage.Returns "metrics" (fun _ => true) bothEnds.entries firstEndOutput := by
  refine ⟨isCompiled_everyUsage, rfl, mem_bothEnds, rfl, execute_bothEnds_eq_ok false, ?_⟩
  intro h
  have hperm := h.datapoints List.mem_cons_self
  have hlength : 1 = 2 := hperm.length_eq
  cases hlength

end SeriesQuery.Target
