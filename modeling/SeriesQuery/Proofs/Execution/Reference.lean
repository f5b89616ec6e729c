import SeriesQuery.Proofs.Execution.Fetching

/-! # What executing a target yields

The outcome of an execution is determined by the insertions that made the store, by the range and by the
target, and not by the way in which the stages run. An empty range comes before a path that leads nowhere, and
with a proper range and a series under the path an execution cannot fail. Sorting what comes out of the stages
once more changes nothing, because stages keep the order of time.
-/

namespace SeriesQuery.Target

open StageChain (freshStages)

/-- What the target is to yield with these fresh stages: one series for each key among the series that it keeps,
in ascending order of the keys, and in each of them what the stages make of the points fetched for the key, once
these are stably sorted. -/
structure IsYield (t : Target) (database : String) (range : TimeRange)
    (insertions : List (FieldPath × Series)) (stages : List Stage) (output : QueryOutput) : Prop where
  ascending : (output.series.map OutputSeries.target).Pairwise (· < ·)
  keys (key : String) :
    key ∈ output.series.map OutputSeries.target ↔ ∃ s ∈ t.selected database insertions, s.key = key
  datapoints {o : OutputSeries} (h : o ∈ output.series) :
    ∃ sorted, StablySorted (t.fetched database range insertions o.target) sorted ∧
      (StartsFitAlong stages sorted →
        o.datapoints = (runBuffered stages sorted).map fun p => (p.value, p.time))
  scanned : output.scanned =
    (output.series.map fun o => (t.fetched database range insertions o.target).length).sum

namespace IsYield

variable {t : Target} {database : String} {range : TimeRange} {insertions : List (FieldPath × Series)}
  {stages : List Stage} {output other : QueryOutput}

theorem series_eq (h : t.IsYield database range insertions stages output)
    (fits : ∀ key, StartsFitAlong stages (sortPoints (t.fetched database range insertions key))) :
    output.series = (output.series.map OutputSeries.target).map fun key =>
      ⟨key, (runBuffered stages (sortPoints (t.fetched database range insertions key))).map fun p =>
        (p.value, p.time)⟩ := by
  rw [List.map_map]
  refine ((List.map_congr_left fun o ho => ?_).trans (List.map_id _)).symm
  obtain ⟨sorted, hsorted, hdatapoints⟩ := h.datapoints ho
  obtain rfl := hsorted.unique (stablySorted_sortPoints _)
  rw [Function.comp_apply, ← hdatapoints (fits o.target)]
  rfl

/-- Where windows fit, there is at most one yield. -/
theorem unique (h : t.IsYield database range insertions stages output)
    (h' : t.IsYield database range insertions stages other)
    (fits : ∀ key, StartsFitAlong stages (sortPoints (t.fetched database range insertions key))) :
    output = other := by
  have htargets : output.series.map OutputSeries.target = other.series.map OutputSeries.target :=
    OrderedMap.eq_of_ascending (h.ascending.imp compareOfLessAndEq_eq_lt.2)
      (h'.ascending.imp compareOfLessAndEq_eq_lt.2) fun key => (h.keys key).trans (h'.keys key).symm
  have hseries : output.series = other.series := by
    rw [h.series_eq fits, h'.series_eq fits, htargets]
  have hscanned : output.scanned = other.scanned := by
    rw [h.scanned, h'.scanned, hseries]
  cases output
  cases other
  cases hseries
  cases hscanned
  rfl

end IsYield

theorem execute_of_stop_le {range : TimeRange} (h : range.stop ≤ range.start) (t : Target) (store : Store)
    (database : String) (force : Bool) :
    t.execute store database range force = .error (.store .emptyRange) := by
  simp only [execute, Store.lookup_of_stop_le h]
  rfl

theorem execute_of_lacks {t : Target} {store : Store} {database : String} {range : TimeRange}
    (proper : range.start < range.stop) {cause : StoreError}
    (lacks : Store.Lacks store.entries (t.path database) cause) (force : Bool) :
    t.execute store database range force = .error (.notFound database t.selector cause) := by
  have hlookup := Store.lookup_of_lacks proper lacks t.filterElements t.filter
  rw [path] at hlookup
  simp only [execute, hlookup, lacks.isNotFound, if_true]

/-- A checked target always gets its stages, and as often as it wants. -/
theorem IsChecked.exists_freshStages {t : Target} (h : t.IsChecked) :
    ∃ stages, freshStages t.templates = .ok stages := by
  refine StageChain.exists_freshStages fun u hu => ?_
  obtain ⟨name, args, hmake⟩ := h.made u hu
  exact StageTemplate.exists_fresh_of_make hmake

theorem IsChecked.exists_isYield {t : Target} (h : t.IsChecked) {store : Store} {database : String}
    {range : TimeRange} (proper : range.start < range.stop) (there : store.missing? (t.path database) = none) :
    ∃ stages output, (∀ force, t.execute store database range force = .ok output) ∧
      freshStages t.templates = .ok stages ∧ t.IsYield database range store.entries stages output := by
  obtain ⟨stages, hstages⟩ := h.exists_freshStages
  refine ⟨stages, _, h.execute_eq_ok proper there hstages, hstages, ?_⟩
  constructor
  case ascending =>
    rw [map_target_outputOver]
    exact t.ascending_seriesKeys database store.entries
  case keys =>
    intro key
    rw [map_target_outputOver]
    exact mem_seriesKeys
  case datapoints =>
    intro o ho
    obtain ⟨key, -, rfl⟩ := List.mem_map.1 ho
    have hsorted := stablySorted_sortPoints (t.fetched database range store.entries key)
    exact ⟨_, hsorted, datapoints_outputOf (StageChain.isFresh_of_freshStages hstages)⟩
  case scanned =>
    rw [outputOver, List.map_map]
    rfl

/-- A checked target fails for its range or for its path, or it does not fail. -/
theorem IsChecked.execute_cases {t : Target} (h : t.IsChecked) (store : Store) (database : String)
    (range : TimeRange) (force : Bool) :
    (range.stop ≤ range.start ∧ t.execute store database range force = .error (.store .emptyRange)) ∨
      (∃ cause, Store.Lacks store.entries (t.path database) cause ∧
        t.execute store database range force = .error (.notFound database t.selector cause)) ∨
      ∃ output, t.execute store database range force = .ok output := by
  by_cases proper : range.start < range.stop
  case neg =>
    have hle := Int64.not_lt.1 proper
    exact .inl ⟨hle, execute_of_stop_le hle t store database force⟩
  rcases store.missing?_cases (t.path database) with ⟨cause, -, lacks⟩ | ⟨there, -⟩
  · exact .inr (.inl ⟨cause, lacks, execute_of_lacks proper lacks force⟩)
  · obtain ⟨stages, output, hoks, -, -⟩ := h.exists_isYield proper there
    exact .inr (.inr ⟨output, hoks force⟩)

/-- The outcome of executing a target that was compiled, over the store that insertions made. -/
theorem execute_ofInsertions {t : Target} (compiled : t.IsCompiled) (insertions : List (FieldPath × Series))
    (database : String) (range : TimeRange) :
    ∃ outcome, (∀ force, t.execute (.ofInsertions insertions) database range force = outcome) ∧
      (outcome = .error (.store .emptyRange) ↔ range.stop ≤ range.start) ∧
      (∀ cause, outcome = .error (.notFound database t.selector cause) ↔
        range.start < range.stop ∧ Store.Lacks insertions (t.path database) cause) ∧
      (range.start < range.stop → (∀ cause, ¬ Store.Lacks insertions (t.path database) cause) →
        ∃ stages output, outcome = .ok output ∧ freshStages t.templates = .ok stages ∧
          t.IsYield database range insertions stages output) := by
  have hentries := Store.entries_ofInsertions insertions
  by_cases proper : range.start < range.stop
  case neg =>
    have hle := Int64.not_lt.1 proper
    exact ⟨_, execute_of_stop_le hle t _ database, iff_of_true rfl hle,
      fun cause => iff_of_false nofun fun h => proper h.1, fun h => absurd h proper⟩
  have hlt : ¬ range.stop ≤ range.start := Int64.not_le.2 proper
  obtain ⟨found, -, lacks⟩ | ⟨there, e, he, hpath⟩ :=
    (Store.ofInsertions insertions).missing?_cases (t.path database)
  · refine ⟨_, execute_of_lacks proper lacks, iff_of_false nofun hlt, fun cause => ?_, fun _ h => ?_⟩
    · rw [hentries] at lacks
      constructor
      · rintro ⟨⟩
        exact ⟨proper, lacks⟩
      · rintro ⟨-, h⟩
        rw [lacks.unique h]
    · rw [hentries] at lacks
      exact absurd lacks (h found)
  · obtain ⟨stages, output, hoks, hstages, hyield⟩ := compiled.isChecked.exists_isYield proper there
    rw [hentries] at he hyield
    exact ⟨_, hoks, iff_of_false nofun hlt,
      fun cause => iff_of_false nofun fun h => h.2.not_mem e he hpath,
      fun _ _ => ⟨stages, output, rfl, hstages, hyield⟩⟩

/-- Two hosts, one of them without points and the other one in two parts, and a series under another path. -/
def twoHosts : List (FieldPath × Series) := [
  (⟨"metrics", "cpu", "usage"⟩, ⟨"web1", .ofList [], [.ofInt (-700) 5, .ofInt (-2500) 3, .ofInt 250 6]⟩),
  (⟨"metrics", "cpu", "idle"⟩, ⟨"web1", .ofList [], [.ofInt (-700) 95]⟩),
  (⟨"metrics", "cpu", "usage"⟩, ⟨"db1", .ofList [], []⟩),
  (⟨"metrics", "cpu", "usage"⟩, ⟨"web1", .ofList [], [.ofInt (-2500) 1, .ofInt 1000 9]⟩)]

def everyUsage : Target := .ofField "cpu" "usage"

def perSecond : Target :=
  ⟨"cpu", "usage", none, none, [], false,
    some ⟨[⟨.constant .multiply, [.int 2]⟩, ⟨.window .sum, [.int 1]⟩]⟩⟩

def perSecondStages : List Stage :=
  [.streaming (.constant ⟨.multiply, .ofInt 2⟩), .window ⟨.sum, 1000⟩]

def perSecondOutput : QueryOutput :=
  ⟨[⟨"db1", []⟩, ⟨"web1", [(.int 8, -3000), (.int 10, -1000), (.int 12, 0)]⟩], 4⟩

theorem isCompiled_everyUsage : everyUsage.IsCompiled := by
  have h : Query.compile "cpu.usage" = .ok everyUsage := by rfl
  exact .ofQuery h

theorem isCompiled_perSecond : perSecond.IsCompiled := by
  have h : Query.compile "cpu.usage=>mult,2=>sum,1" = .ok perSecond := by rfl
  exact .ofQuery h

theorem freshStages_perSecond : freshStages perSecond.templates = .ok perSecondStages := by rfl

theorem sortPoints_fetched_db1 : sortPoints (perSecond.fetched "metrics" ⟨-3000, 1000⟩ twoHosts "db1") = [] :=
  (stablySorted_sortPoints _).unique (.of_inTimeOrder .nil)

theorem sortPoints_fetched_web1 :
    sortPoints (perSecond.fetched "metrics" ⟨-3000, 1000⟩ twoHosts "web1") =
      [.ofInt (-2500) 3, .ofInt (-2500) 1] ++ [.ofInt (-700) 5, .ofInt 250 6] :=
  (stablySorted_sortPoints _).unique
    (.append (-700) (.of_inTimeOrder (by decide)) (.of_inTimeOrder (by decide)))

theorem outputOver_perSecond :
    perSecond.outputOver "metrics" ⟨-3000, 1000⟩ twoHosts perSecondStages = perSecondOutput := by
  have hkeys : perSecond.seriesKeys "metrics" twoHosts = ["db1", "web1"] := by rfl
  have hnone : runBuffered perSecondStages [] = [] := by rfl
  have hrun : runBuffered perSecondStages
      ([.ofInt (-2500) 3, .ofInt (-2500) 1] ++ [.ofInt (-700) 5, .ofInt 250 6]) =
        [.ofInt (-3000) 8, .ofInt (-1000) 10, .ofInt 0 12] := by rfl
  have hscanned : (["db1", "web1"].map fun key =>
      (perSecond.fetched "metrics" ⟨-3000, 1000⟩ twoHosts key).length).sum = 4 := by rfl
  rw [outputOver, hkeys, hscanned]
  simp only [outputOf, List.map_cons, List.map_nil, sortPoints_fetched_db1, sortPoints_fetched_web1, hnone, hrun]
  rw [OutputSeries.sortByTime_ofPoints .nil, OutputSeries.sortByTime_ofPoints (by decide)]
  rfl

theorem execute_perSecond_eq_ok (force : Bool) :
    perSecond.execute (.ofInsertions twoHosts) "metrics" ⟨-3000, 1000⟩ force = .ok perSecondOutput := by
  have there : (Store.ofInsertions twoHosts).missing? (perSecond.path "metrics") = none := by rfl
  have proper : (⟨-3000, 1000⟩ : TimeRange).start < (⟨-3000, 1000⟩ : TimeRange).stop := by decide
  rw [isCompiled_perSecond.isChecked.execute_eq_ok proper there freshStages_perSecond,
    Store.entries_ofInsertions, outputOver_perSecond]

theorem isYield_perSecondOutput :
    perSecond.IsCompiled ∧
      (∀ force, perSecond.execute (.ofInsertions twoHosts) "metrics" ⟨-3000, 1000⟩ force =
        .ok perSecondOutput) ∧
      perSecond.IsYield "metrics" ⟨-3000, 1000⟩ twoHosts perSecondStages perSecondOutput := by
  obtain ⟨outcome, same, -, -, yields⟩ :=
    execute_ofInsertions isCompiled_perSecond twoHosts "metrics" ⟨-3000, 1000⟩
  obtain ⟨stages, output, houtcome, hstages, hyield⟩ := yields (by decide) fun cause lacks =>
    lacks.not_mem _ List.mem_cons_self rfl
  have houtput : outcome = .ok perSecondOutput := (same false).symm.trans (execute_perSecond_eq_ok false)
  have hsame : output = perSecondOutput := Except.ok.inj (houtcome.symm.trans houtput)
  have hfresh : stages = perSecondStages := Except.ok.inj (hstages.symm.trans freshStages_perSecond)
  rw [hsame, hfresh] at hyield
  exact ⟨isCompiled_perSecond, fun force => (same force).trans houtput, hyield⟩

end SeriesQuery.Target
