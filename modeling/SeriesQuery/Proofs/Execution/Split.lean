import SeriesQuery.Proofs.Execution.Reference
import SeriesQuery.Proofs.Stage.Windows

/-! # Executing a target over the two parts of a range

A half-open range is cut at a time inside it. Every fetched point falls into one part, a stable sort puts those
of the earlier part first, and stages that cut at the time never mix the parts. So the outputs of the parts, one
behind the other, are the output of the whole.
-/

namespace SeriesQuery

open StageChain (freshStages)

/-- Without rates, stages cut at every time at which all their windows begin. -/
theorem StageChain.cutsAt_of_freshStages {templates : List StageTemplate} {stages : List Stage} {cut : Int64}
    (rateless : ∀ u ∈ templates, u.kind ≠ .derivative)
    (begins : ∀ u ∈ templates, ∀ w, u.fresh = .ok (.window w) → w.length ∣ cut.toInt)
    (h : freshStages templates = .ok stages) : ∀ s ∈ stages, s.CutsAt cut := by
  intro s hs
  obtain ⟨u, hu, hfresh⟩ := exists_template_of_mem h hs
  obtain ⟨op, c, -, rfl⟩ | ⟨hkind, -⟩ | ⟨f, arg, w, -, hmake, rfl⟩ := StageKind.fresh_cases hfresh
  · trivial
  · exact absurd hkind (rateless u hu)
  · exact ⟨WindowStage.length_pos_of_make hmake, begins u hu w hfresh⟩

/-- The outputs of the two parts of a range, one behind the other, are the output of the whole. -/
structure QueryOutput.IsSplit (whole left right : QueryOutput) : Prop where
  left_targets : left.series.map OutputSeries.target = whole.series.map OutputSeries.target
  right_targets : right.series.map OutputSeries.target = whole.series.map OutputSeries.target
  datapoints : whole.series.map OutputSeries.datapoints =
    (left.series.map OutputSeries.datapoints).zipWith (· ++ ·) (right.series.map OutputSeries.datapoints)
  scanned : whole.scanned = left.scanned + right.scanned

namespace Target

variable {t : Target} {store : Store} {database : String} {a b c : Int64}

/-- Keeping only some of the points that were fetched fetches them over a narrower range. -/
theorem filter_fetched {wide narrow : TimeRange} {inside : Point → Bool}
    (h : ∀ p, (inside p = true ∧ wide.start ≤ p.time ∧ p.time < wide.stop) ↔
      narrow.start ≤ p.time ∧ p.time < narrow.stop) (entries : List (FieldPath × Series)) (key : String) :
    (t.fetched database wide entries key).filter inside = t.fetched database narrow entries key := by
  rw [fetched_eq_filter, fetched_eq_filter, List.filter_filter]
  apply List.filter_congr
  intro p _
  rw [Bool.eq_iff_iff, Bool.and_eq_true, TimeRange.contains_iff, TimeRange.contains_iff]
  exact h p

theorem sortPoints_fetched_append (hab : a < b) (hbc : b < c) (entries : List (FieldPath × Series))
    (key : String) :
    sortPoints (t.fetched database ⟨a, c⟩ entries key) =
      sortPoints (t.fetched database ⟨a, b⟩ entries key) ++
        sortPoints (t.fetched database ⟨b, c⟩ entries key) := by
  have hfront : (t.fetched database ⟨a, c⟩ entries key).filter (fun p => p.time < b) =
      t.fetched database ⟨a, b⟩ entries key := by
    refine filter_fetched (fun p => ?_) entries key
    rw [decide_eq_true_eq]
    exact ⟨fun h => ⟨h.2.1, h.1⟩, fun h => ⟨h.2, h.1, Int64.lt_trans h.2 hbc⟩⟩
  have hback : (t.fetched database ⟨a, c⟩ entries key).filter (fun p => b ≤ p.time) =
      t.fetched database ⟨b, c⟩ entries key := by
    refine filter_fetched (fun p => ?_) entries key
    rw [decide_eq_true_eq]
    exact ⟨fun h => ⟨h.1, h.2.2⟩, fun h => ⟨h.1, Int64.le_trans (Int64.le_of_lt hab) h.1, h.2⟩⟩
  refine (stablySorted_sortPoints _).unique (.append b ?_ ?_)
  · rw [hfront]
    exact stablySorted_sortPoints _
  · rw [hback]
    exact stablySorted_sortPoints _

/-- Sorted or not, the points that are fetched lie in the range. -/
theorem inRange_of_stablySorted {range : TimeRange} {entries : List (FieldPath × Series)} {key : String}
    {sorted : List Point} (h : StablySorted (t.fetched database range entries key) sorted) :
    ∀ p ∈ sorted, range.start ≤ p.time ∧ p.time < range.stop := by
  intro p hp
  have hfetched := h.mem_iff.1 hp
  rw [fetched_eq_filter, List.mem_filter, TimeRange.contains_iff] at hfetched
  exact hfetched.2

theorem datapoints_outputOf_append {stages : List Stage} (fresh : ∀ s ∈ stages, s.IsFresh)
    (cuts : ∀ s ∈ stages, s.CutsAt b) (hab : a < b) (hbc : b < c) {entries : List (FieldPath × Series)}
    {key : String} (fits : StartsFitAlong stages (sortPoints (t.fetched database ⟨a, c⟩ entries key))) :
    (t.outputOf database ⟨a, c⟩ entries stages key).datapoints =
      (t.outputOf database ⟨a, b⟩ entries stages key).datapoints ++
        (t.outputOf database ⟨b, c⟩ entries stages key).datapoints := by
  rw [datapoints_outputOf fresh fits]
  rw [sortPoints_fetched_append hab hbc] at fits ⊢
  have hfront : AllBefore b (sortPoints (t.fetched database ⟨a, b⟩ entries key)) := fun p hp =>
    (inRange_of_stablySorted (stablySorted_sortPoints _) p hp).2
  have hback : AllFrom b (sortPoints (t.fetched database ⟨b, c⟩ entries key)) := fun p hp =>
    (inRange_of_stablySorted (stablySorted_sortPoints _) p hp).1
  obtain ⟨happend, hleft⟩ := runBuffered_append cuts hfront hback fits
  have hright := startsFitAlong_of_allFrom cuts hback
  rw [happend, List.map_append, datapoints_outputOf fresh hleft, datapoints_outputOf fresh hright]

theorem length_fetched_append (hab : a < b) (hbc : b < c) (entries : List (FieldPath × Series))
    (key : String) :
    (t.fetched database ⟨a, c⟩ entries key).length =
      (t.fetched database ⟨a, b⟩ entries key).length + (t.fetched database ⟨b, c⟩ entries key).length := by
  rw [← length_sortPoints, sortPoints_fetched_append hab hbc, List.length_append, length_sortPoints,
    length_sortPoints]

theorem outputOver_isSplit {stages : List Stage} (fresh : ∀ s ∈ stages, s.IsFresh)
    (cuts : ∀ s ∈ stages, s.CutsAt b) (hab : a < b) (hbc : b < c) {entries : List (FieldPath × Series)}
    (fits : ∀ key, StartsFitAlong stages (sortPoints (t.fetched database ⟨a, c⟩ entries key))) :
    (t.outputOver database ⟨a, c⟩ entries stages).IsSplit (t.outputOver database ⟨a, b⟩ entries stages)
      (t.outputOver database ⟨b, c⟩ entries stages) where
  left_targets := by rw [map_target_outputOver, map_target_outputOver]
  right_targets := by rw [map_target_outputOver, map_target_outputOver]
  datapoints := by
    simp only [outputOver, List.map_map, List.zipWith_map, List.zipWith_self]
    exact List.map_congr_left fun key _ => datapoints_outputOf_append fresh cuts hab hbc (fits key)
  scanned := by
    simp only [outputOver, length_fetched_append hab hbc, List.sum_map_add]

/-- A range that begins where all windows begin leaves no window to start too early. -/
theorem windowsFit_of_begins {range : TimeRange} (rateless : ∀ u ∈ t.templates, u.kind ≠ .derivative)
    (begins : ∀ u ∈ t.templates, ∀ w, u.fresh = .ok (.window w) → w.length ∣ range.start.toInt)
    (database : String) (entries : List (FieldPath × Series)) : t.WindowsFit database range entries :=
  fun _ hstages _ _ hsorted =>
    startsFitAlong_of_allFrom (StageChain.cutsAt_of_freshStages rateless begins hstages) fun p hp =>
      (inRange_of_stablySorted hsorted p hp).1

theorem missing?_of_execute_eq_ok {range : TimeRange} {force : Bool} {output : QueryOutput}
    (h : t.execute store database range force = .ok output) (proper : range.start < range.stop) :
    store.missing? (t.path database) = none := by
  obtain ⟨cause, -, lacks⟩ | ⟨there, -⟩ := store.missing?_cases (t.path database)
  · rw [execute_of_lacks proper lacks] at h
    cases h
  · exact there

/-- A range can be cut at a time at which all windows begin, unless there are rates. -/
theorem execute_split (compiled : t.IsCompiled) (rateless : ∀ u ∈ t.templates, u.kind ≠ .derivative)
    (begins : ∀ u ∈ t.templates, ∀ w, u.fresh = .ok (.window w) → w.length ∣ b.toInt)
    (hab : a < b) (hbc : b < c) {force : Bool} {whole : QueryOutput}
    (h : t.execute store database ⟨a, c⟩ force = .ok whole)
    (fits : t.WindowsFit database ⟨a, c⟩ store.entries) :
    ∃ left right, t.execute store database ⟨a, b⟩ force = .ok left ∧
      t.execute store database ⟨b, c⟩ force = .ok right ∧ whole.IsSplit left right := by
  have checked := compiled.isChecked
  have hac : a < c := Int64.lt_trans hab hbc
  have there := missing?_of_execute_eq_ok h hac
  obtain ⟨stages, hstages⟩ := checked.exists_freshStages
  have fresh := StageChain.isFresh_of_freshStages hstages
  have cuts := StageChain.cutsAt_of_freshStages rateless begins hstages
  have run (range : TimeRange) (proper : range.start < range.stop) :
      t.execute store database range force = .ok (t.outputOver database range store.entries stages) :=
    checked.execute_eq_ok proper there hstages force
  rw [run ⟨a, c⟩ hac] at h
  cases h
  refine ⟨_, _, run ⟨a, b⟩ hab, run ⟨b, c⟩ hbc, ?_⟩
  exact outputOver_isSplit fresh cuts hab hbc fun key =>
    fits stages hstages key _ (stablySorted_sortPoints _)

/-- Cut between the points of one host and before the epoch. -/
theorem execute_perSecond_split :
    (∀ u ∈ perSecond.templates, u.kind ≠ .derivative) ∧
      (∀ u ∈ perSecond.templates, ∀ w, u.fresh = .ok (.window w) → w.length ∣ (-1000 : Int64).toInt) ∧
      perSecond.WindowsFit "metrics" ⟨-3000, 1000⟩ twoHosts ∧
      ∃ left right, perSecond.execute (.ofInsertions twoHosts) "metrics" ⟨-3000, -1000⟩ false = .ok left ∧
        perSecond.execute (.ofInsertions twoHosts) "metrics" ⟨-1000, 1000⟩ false = .ok right ∧
        perSecondOutput.IsSplit left right := by
  have rateless : ∀ u ∈ perSecond.templates, u.kind ≠ .derivative := by decide
  have length_eq : ∀ u ∈ perSecond.templates, ∀ w, u.fresh = .ok (.window w) → w.length = 1000 := by
    intro u hu w hw
    obtain rfl | rfl : u = ⟨.constant .multiply, [.int 2]⟩ ∨ u = ⟨.window .sum, [.int 1]⟩ := by
      simpa [perSecond, templates] using hu
    · cases hw
    · cases hw
      rfl
  have begins {time : Int64} (h : 1000 ∣ time.toInt) :
      ∀ u ∈ perSecond.templates, ∀ w, u.fresh = .ok (.window w) → w.length ∣ time.toInt :=
    fun u hu w hw => (length_eq u hu w hw).symm ▸ h
  have fits : perSecond.WindowsFit "metrics" ⟨-3000, 1000⟩ twoHosts :=
    windowsFit_of_begins rateless (begins (by decide)) "metrics" twoHosts
  refine ⟨rateless, begins (by decide), fits, ?_⟩
  exact execute_split isCompiled_perSecond rateless (begins (by decide)) (by decide) (by decide)
    (execute_perSecond_eq_ok false) fits

end Target
end SeriesQuery
