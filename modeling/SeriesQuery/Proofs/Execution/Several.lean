import Mathlib.Data.List.Perm.Basic
import SeriesQuery.Proofs.Checked.Binding
import SeriesQuery.Proofs.Execution.Reference

/-! # Executing several targets

Targets are executed one by one and the first failure counts. Without one, the series of all outputs are merged
by their keys, and those with one key stay in the order of the request. A request in another order therefore
yields the same keys and the same series under each key, if in another order.
-/

namespace SeriesQuery

/-- The outputs in the order of the request, merged: all series of all of them, in the order of their keys, and
those with one key in the order that they had. -/
structure QueryOutput.IsMerge (outputs : List QueryOutput) (whole : QueryOutput) : Prop where
  inOrder : whole.series.Pairwise fun a b => a.target ≤ b.target
  perm : whole.series.Perm (outputs.flatMap QueryOutput.series)
  ties (key : String) : (whole.series.filter fun s => s.target = key) =
    (outputs.flatMap QueryOutput.series).filter fun s => s.target = key
  scanned : whole.scanned = (outputs.map QueryOutput.scanned).sum

/-- The same series in the order of their keys, apart from the order of those that share one. -/
structure QueryOutput.SameUpToTies (a b : QueryOutput) : Prop where
  targets : a.series.map OutputSeries.target = b.series.map OutputSeries.target
  ties (key : String) :
    (a.series.filter fun s => s.target = key).Perm (b.series.filter fun s => s.target = key)
  scanned : a.scanned = b.scanned

namespace QueryOutput.IsMerge

variable {outputs others : List QueryOutput} {whole other : QueryOutput}

theorem unique (h : IsMerge outputs whole) (h' : IsMerge outputs other) : whole = other := by
  have hseries : whole.series = other.series :=
    SortByKey.eq_of_ties h.inOrder h'.inOrder fun key => (h.ties key).trans (h'.ties key).symm
  have hscanned : whole.scanned = other.scanned := h.scanned.trans h'.scanned.symm
  cases whole
  cases other
  cases hseries
  cases hscanned
  rfl

theorem sameUpToTies (h : IsMerge outputs whole) (h' : IsMerge others other) (perm : outputs.Perm others) :
    whole.SameUpToTies other := by
  have hseries : whole.series.Perm other.series :=
    (h.perm.trans (perm.flatMap_right QueryOutput.series)).trans h'.perm.symm
  constructor
  case targets =>
    apply (hseries.map OutputSeries.target).eq_of_pairwise fun _ _ _ _ => Std.le_antisymm
    · exact List.pairwise_map.2 h.inOrder
    · exact List.pairwise_map.2 h'.inOrder
  case ties =>
    intro key
    exact hseries.filter _
  case scanned =>
    rw [h.scanned, h'.scanned]
    exact (perm.map QueryOutput.scanned).sum_eq

end QueryOutput.IsMerge

namespace Target

variable {store : Store} {database : String} {range : TimeRange} {force : Bool} {targets : List Target}

def FirstFailure (store : Store) (database : String) (range : TimeRange) (force : Bool) (targets : List Target)
    (e : ExecutionError) : Prop :=
  ∃ before t after, targets = before ++ t :: after ∧
    (∀ u ∈ before, ∃ output, u.execute store database range force = .ok output) ∧
    t.execute store database range force = .error e

theorem firstFailure_cons_of_error {t : Target} {e cause : ExecutionError}
    (h : t.execute store database range force = .error cause) :
    FirstFailure store database range force (t :: targets) e ↔ cause = e := by
  constructor
  · rintro ⟨before, u, after, hsplit, hbefore, hu⟩
    cases before with
    | nil =>
      obtain ⟨rfl, -⟩ := List.cons.inj hsplit
      exact Except.error.inj (h.symm.trans hu)
    | cons v before =>
      obtain ⟨rfl, -⟩ := List.cons.inj hsplit
      obtain ⟨output, hv⟩ := hbefore t List.mem_cons_self
      cases h.symm.trans hv
  · rintro rfl
    exact ⟨[], t, targets, rfl, nofun, h⟩

theorem firstFailure_cons_of_ok {t : Target} {e : ExecutionError} {output : QueryOutput}
    (h : t.execute store database range force = .ok output) :
    FirstFailure store database range force (t :: targets) e ↔
      FirstFailure store database range force targets e := by
  constructor
  · rintro ⟨before, u, after, hsplit, hbefore, hu⟩
    cases before with
    | nil =>
      obtain ⟨rfl, -⟩ := List.cons.inj hsplit
      cases h.symm.trans hu
    | cons v before =>
      obtain ⟨rfl, rfl⟩ := List.cons.inj hsplit
      exact ⟨before, u, after, rfl, (List.forall_mem_cons.1 hbefore).2, hu⟩
  · rintro ⟨before, u, after, rfl, hbefore, hu⟩
    exact ⟨t :: before, u, after, rfl, List.forall_mem_cons.2 ⟨⟨output, h⟩, hbefore⟩, hu⟩

theorem executeEach_eq_error_iff {e : ExecutionError} :
    executeEach store database range force targets = .error e ↔
      FirstFailure store database range force targets e := by
  induction targets with
  | nil =>
    apply iff_of_false nofun
    rintro ⟨before, t, after, hsplit, -, -⟩
    simp at hsplit
  | cons t rest ih =>
    rw [executeEach, Except.bind_eq_error_iff]
    cases ht : t.execute store database range force with
    | error cause => simp [firstFailure_cons_of_error ht]
    | ok output => simp [firstFailure_cons_of_ok ht, ← ih, Except.bind_eq_error_iff]

theorem executeEach_eq_ok_iff {outputs : List QueryOutput} :
    executeEach store database range force targets = .ok outputs ↔
      List.Forall₂ (fun t output => t.execute store database range force = .ok output) targets outputs := by
  induction targets generalizing outputs with
  | nil => simp [executeEach, eq_comm]
  | cons t rest ih =>
    rw [executeEach, List.forall₂_cons_left_iff]
    simp [Except.bind_eq_ok_iff, ih, @eq_comm _ outputs]

theorem isMerge_sortByTarget (outputs : List QueryOutput) :
    QueryOutput.IsMerge outputs ⟨OutputSeries.sortByTarget (outputs.flatMap QueryOutput.series),
      QueryOutput.total (outputs.map QueryOutput.scanned)⟩ where
  inOrder := SortByKey.pairwise_mergeSort OutputSeries.target _
  perm := List.mergeSort_perm _ _
  ties := SortByKey.filter_mergeSort OutputSeries.target _
  scanned := QueryOutput.total_eq_sum _

theorem executeAll_eq_error_iff {e : ExecutionError} :
    executeAll targets store database range force = .error e ↔
      FirstFailure store database range force targets e := by
  rw [← executeEach_eq_error_iff]
  cases h : executeEach store database range force targets with
  | error cause => simp [executeAll, h]
  | ok outputs => simp [executeAll, h]

theorem executeAll_eq_ok_iff {whole : QueryOutput} :
    executeAll targets store database range force = .ok whole ↔
      ∃ outputs, List.Forall₂ (fun t output => t.execute store database range force = .ok output) targets
        outputs ∧ QueryOutput.IsMerge outputs whole := by
  simp only [← executeEach_eq_ok_iff]
  cases h : executeEach store database range force targets with
  | error cause => simp [executeAll, h]
  | ok outputs =>
    simp only [executeAll, h, Except.ok.injEq, exists_eq_left']
    constructor
    · rintro rfl
      exact isMerge_sortByTarget outputs
    · exact (isMerge_sortByTarget outputs).unique

theorem succeeds_of_mem {outputs : List QueryOutput}
    (h : List.Forall₂ (fun t output => t.execute store database range force = .ok output) targets outputs) :
    ∀ t ∈ targets, ∃ output, t.execute store database range force = .ok output := by
  induction h with
  | nil => exact nofun
  | cons ht _ ih => exact List.forall_mem_cons.2 ⟨⟨_, ht⟩, ih⟩

theorem executeAll_fails_iff :
    (∃ e, executeAll targets store database range force = .error e) ↔
      ∃ t ∈ targets, ∃ e, t.execute store database range force = .error e := by
  constructor
  · rintro ⟨e, h⟩
    obtain ⟨before, t, after, rfl, -, ht⟩ := executeAll_eq_error_iff.1 h
    exact ⟨t, List.mem_append_right before List.mem_cons_self, e, ht⟩
  · rintro ⟨t, mem, e, ht⟩
    cases hall : executeAll targets store database range force with
    | error cause => exact ⟨cause, rfl⟩
    | ok whole =>
      obtain ⟨outputs, heach, -⟩ := executeAll_eq_ok_iff.1 hall
      obtain ⟨output, hok⟩ := succeeds_of_mem heach t mem
      cases ht.symm.trans hok

/-- Executing the targets of a request in another order succeeds as well. -/
theorem exists_executeAll_of_perm {others : List Target} {whole : QueryOutput}
    (h : executeAll targets store database range force = .ok whole) (perm : targets.Perm others) :
    ∃ other, executeAll others store database range force = .ok other ∧ whole.SameUpToTies other := by
  obtain ⟨outputs, heach, hmerge⟩ := executeAll_eq_ok_iff.1 h
  obtain ⟨reordered, hothers, hperm⟩ := List.perm_comp_forall₂ perm.symm heach
  have hmerged := isMerge_sortByTarget reordered
  exact ⟨_, executeAll_eq_ok_iff.2 ⟨reordered, hothers, hmerged⟩, hmerge.sameUpToTies hmerged hperm.symm⟩

/-- A request fails like the first of its targets that fails; else its output merges those of the targets, and in
another order of the targets only series with one key trade places. -/
theorem executeAll_merges_or_fails_first (targets : List Target) (store : Store) (database : String)
    (range : TimeRange) (force : Bool) :
    ((∃ e, executeAll targets store database range force = .error e) ↔
      ∃ t ∈ targets, ∃ e, t.execute store database range force = .error e) ∧
    (∀ e, executeAll targets store database range force = .error e ↔
      FirstFailure store database range force targets e) ∧
    (∀ whole, executeAll targets store database range force = .ok whole ↔
      ∃ outputs, List.Forall₂ (fun t output => t.execute store database range force = .ok output) targets
        outputs ∧ QueryOutput.IsMerge outputs whole) ∧
    ∀ whole others, executeAll targets store database range force = .ok whole → targets.Perm others →
      ∃ other, executeAll others store database range force = .ok other ∧ whole.SameUpToTies other :=
  ⟨executeAll_fails_iff, fun _ => executeAll_eq_error_iff, fun _ => executeAll_eq_ok_iff,
    fun _ _ => exists_executeAll_of_perm⟩

def everyUsageOutput : QueryOutput :=
  ⟨[⟨"db1", []⟩, ⟨"web1", [(.int 3, -2500), (.int 1, -2500), (.int 5, -700), (.int 6, 250)]⟩], 4⟩

theorem execute_everyUsage_eq_ok (force : Bool) :
    everyUsage.execute (.ofInsertions twoHosts) "metrics" ⟨-3000, 1000⟩ force = .ok everyUsageOutput := by
  have there : (Store.ofInsertions twoHosts).missing? (everyUsage.path "metrics") = none := by rfl
  have proper : (⟨-3000, 1000⟩ : TimeRange).start < (⟨-3000, 1000⟩ : TimeRange).stop := by decide
  have fresh : StageChain.freshStages everyUsage.templates = .ok [] := by rfl
  have hkeys : everyUsage.seriesKeys "metrics" twoHosts = ["db1", "web1"] := by rfl
  have hsame : everyUsage.fetched "metrics" ⟨-3000, 1000⟩ twoHosts =
      perSecond.fetched "metrics" ⟨-3000, 1000⟩ twoHosts := by rfl
  have hscanned : (["db1", "web1"].map fun key =>
      (perSecond.fetched "metrics" ⟨-3000, 1000⟩ twoHosts key).length).sum = 4 := by rfl
  rw [isCompiled_everyUsage.isChecked.execute_eq_ok proper there fresh, Store.entries_ofInsertions,
    outputOver_nil, hkeys, hsame, hscanned]
  simp only [List.map_cons, List.map_nil, sortPoints_fetched_db1, sortPoints_fetched_web1]
  rfl

def sumsAndPoints : QueryOutput :=
  ⟨[⟨"db1", []⟩, ⟨"db1", []⟩, ⟨"web1", [(.int 8, -3000), (.int 10, -1000), (.int 12, 0)]⟩,
    ⟨"web1", [(.int 3, -2500), (.int 1, -2500), (.int 5, -700), (.int 6, 250)]⟩], 8⟩

theorem isMerge_sumsAndPoints : QueryOutput.IsMerge [perSecondOutput, everyUsageOutput] sumsAndPoints where
  inOrder := by decide
  perm := by decide
  ties key := by
    by_cases hdb : key = "db1"
    · subst hdb
      rfl
    · by_cases hweb : key = "web1"
      · subst hweb
        rfl
      · simp [sumsAndPoints, perSecondOutput, everyUsageOutput, Ne.symm hdb, Ne.symm hweb]
  scanned := rfl

/-- Two targets that share all keys, in both orders, and a target that is not there behind one that is. -/
theorem executeAll_sumsAndPoints :
    executeAll [perSecond, everyUsage] (.ofInsertions twoHosts) "metrics" ⟨-3000, 1000⟩ false =
        .ok sumsAndPoints ∧
      [perSecond, everyUsage].Perm [everyUsage, perSecond] ∧
      (∃ other, executeAll [everyUsage, perSecond] (.ofInsertions twoHosts) "metrics" ⟨-3000, 1000⟩ false =
        .ok other ∧ sumsAndPoints.SameUpToTies other) ∧
      executeAll [everyUsage, .ofField "mem" "free"] (.ofInsertions twoHosts) "metrics" ⟨-3000, 1000⟩ false =
        .error (.notFound "metrics" "mem.free" (.noMeasurement "metrics" "mem")) := by
  have merges := executeAll_merges_or_fails_first [perSecond, everyUsage] (.ofInsertions twoHosts) "metrics"
    ⟨-3000, 1000⟩ false
  have fails := executeAll_merges_or_fails_first [everyUsage, .ofField "mem" "free"] (.ofInsertions twoHosts)
    "metrics" ⟨-3000, 1000⟩ false
  have perm : [perSecond, everyUsage].Perm [everyUsage, perSecond] := .swap _ _ _
  have hmerged := (merges.2.2.1 sumsAndPoints).2 ⟨_, .cons (execute_perSecond_eq_ok false)
    (.cons (execute_everyUsage_eq_ok false) .nil), isMerge_sumsAndPoints⟩
  refine ⟨hmerged, perm, merges.2.2.2 _ _ hmerged perm, (fails.2.1 _).2 ?_⟩
  exact ⟨[everyUsage], _, [], rfl, List.forall_mem_singleton.2 ⟨_, execute_everyUsage_eq_ok false⟩, by rfl⟩

end Target
end SeriesQuery
