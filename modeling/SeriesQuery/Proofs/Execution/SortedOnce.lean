import SeriesQuery.Proofs.Execution.Reference
import SeriesQuery.Proofs.Stage.TimeCut

/-! # One sort is enough

Points in the order of time leave a chain in the order of time, and no two of them at one time once the chain has a
rate or a window: a rate drops what does not go on in time and a window gives one point, while constants keep the
times apart that they get apart. An execution sorts the points of a key before its stages run, so that nothing is
left to sort behind them.
-/

namespace SeriesQuery

open StageChain (freshStages)

/-- A stage that gives no two points at one time when it gets points in the order of time. -/
def Stage.Advances : Stage → Prop
  | streaming (.constant _) => False
  | streaming (.derivative _) | window _ => True

theorem ConstantStage.inStrictTimeOrder_map {c : ConstantStage} {points : List Point}
    (h : InStrictTimeOrder points) : InStrictTimeOrder (points.map c.apply) := by
  simpa [InStrictTimeOrder, List.pairwise_map] using h

theorem Stage.run_inStrictTimeOrder {s : Stage} (fresh : s.IsFresh) {points : List Point}
    (h : InTimeOrder points) (fits : s.StartsFit points) (apart : s.Advances ∨ InStrictTimeOrder points) :
    InStrictTimeOrder (s.run points).2 := by
  obtain ⟨c, rfl⟩ | hstrict := constant_or_run_inStrictTimeOrder fresh h fits
  · rw [run, StreamStage.run_constant]
    exact ConstantStage.inStrictTimeOrder_map (apart.resolve_left id)
  · exact hstrict

/-- Once a stage has put points apart in time, the stages behind it keep them apart. -/
theorem runBuffered_inStrictTimeOrder {stages : List Stage} (fresh : ∀ s ∈ stages, s.IsFresh)
    {points : List Point} (h : InTimeOrder points) (fits : StartsFitAlong stages points)
    (apart : (∃ s ∈ stages, s.Advances) ∨ InStrictTimeOrder points) :
    InStrictTimeOrder (runBuffered stages points) := by
  induction stages generalizing points with
  | nil => simpa [runBuffered] using apart
  | cons s rest ih =>
    obtain ⟨hs, hrest⟩ := List.forall_mem_cons.1 fresh
    refine ih hrest (Stage.run_inTimeOrder hs h fits.1) fits.2 ?_
    rw [List.exists_mem_cons_iff, or_assoc, or_left_comm] at apart
    exact apart.imp_right (Stage.run_inStrictTimeOrder hs h fits.1)

theorem StageKind.advances_iff_of_fresh {k : StageKind} {args : List Argument} {s : Stage}
    (h : k.fresh args = .ok s) : s.Advances ↔ k = derivative ∨ ∃ f, k = window f := by
  obtain ⟨op, c, rfl, rfl⟩ | ⟨rfl, rfl⟩ | ⟨f, arg, w, rfl, -, rfl⟩ := fresh_cases h
  · simp [Stage.Advances]
  · simp [Stage.Advances]
  · simp [Stage.Advances]

theorem StageChain.exists_advances_of_freshStages {templates : List StageTemplate} {stages : List Stage}
    (h : freshStages templates = .ok stages)
    (advances : ∃ t ∈ templates, t.kind = .derivative ∨ ∃ f, t.kind = .window f) :
    ∃ s ∈ stages, s.Advances := by
  induction templates generalizing stages with
  | nil => simp at advances
  | cons t rest ih =>
    obtain ⟨s, after, hs, hafter, rfl⟩ := freshStages_cons_eq_ok h
    rw [List.exists_mem_cons_iff] at advances ⊢
    exact advances.imp (StageKind.advances_iff_of_fresh hs).2 (ih hafter)

/-- No window of the chain starts before the first time that can be written. -/
def StageChain.StartsFit (c : StageChain) (points : List Point) : Prop :=
  ∀ stages, freshStages c.templates = .ok stages → StartsFitAlong stages points

theorem Pipeline.exists_freshStages_of_build {c : StageChain} {asked : ExecutionMode} {pipeline : Pipeline}
    (h : build c asked = .ok pipeline) :
    ∃ stages, freshStages c.templates = .ok stages ∧ ∀ points, pipeline.run points = runBuffered stages points := by
  cases hstages : freshStages c.templates with
  | error e => simp [build, hstages] at h
  | ok stages =>
    obtain ⟨built, hbuilt, hrun⟩ := exists_build hstages asked
    cases h.symm.trans hbuilt
    exact ⟨stages, rfl, hrun⟩

namespace Target

/-- What the stages of the target make of the points of each key, and the number of points that were read. -/
def processed (t : Target) (store : Store) (database : String) (range : TimeRange) (force : Bool) :
    Except ExecutionError (OrderedMap String (List Point) × Nat) :=
  match store.lookup (t.path database) range t.filterElements t.filter with
  | .error e => .error (if e.isNotFound then .notFound database t.selector e else .store e)
  | .ok found =>
    let sorted := found.mapValues fun _ points => sortPoints points
    match sorted.tryMapValues fun _ points => t.process force points with
    | .error e => .error (.stage e)
    | .ok made => .ok (made, QueryOutput.total (sorted.entries.map fun e => e.2.length))

theorem execute_eq_map_processed (t : Target) (store : Store) (database : String) (range : TimeRange)
    (force : Bool) : t.execute store database range force =
      (t.processed store database range force).map fun made => ⟨OutputSeries.assemble made.1, made.2⟩ := by
  rw [execute, processed, path]
  cases store.lookup ⟨database, t.measurement, t.field⟩ range t.filterElements t.filter with
  | error e => rfl
  | ok found =>
    simp only
    cases (found.mapValues fun _ points => sortPoints points).tryMapValues fun _ points => t.process force points with
    | error e => rfl
    | ok made => rfl

/-- No window of the target starts before the first time that can be written, whatever points are looked up. -/
def StartsFit (t : Target) (store : Store) (database : String) (range : TimeRange) : Prop :=
  ∀ found stages, store.lookup (t.path database) range t.filterElements t.filter = .ok found →
    freshStages t.templates = .ok stages → ∀ e ∈ found.entries, StartsFitAlong stages (sortPoints e.2)

theorem exists_freshStages_of_process {t : Target} {force : Bool} {points output : List Point}
    (h : t.process force points = .ok output) :
    ∃ stages, freshStages t.templates = .ok stages ∧ output = runBuffered stages points := by
  rw [process] at h
  rw [templates]
  cases hchain : t.stages with
  | none =>
    rw [hchain] at h
    cases h
    exact ⟨[], rfl, rfl⟩
  | some chain =>
    simp only [hchain] at h
    split at h
    · rename_i pipeline hbuild
      cases h
      obtain ⟨stages, hstages, hrun⟩ := Pipeline.exists_freshStages_of_build hbuild
      exact ⟨stages, hstages, hrun points⟩
    · cases h

theorem inTimeOrder_of_processed {t : Target} {store : Store} {database : String} {range : TimeRange}
    {force : Bool} {made : OrderedMap String (List Point) × Nat}
    (h : t.processed store database range force = .ok made) (fits : t.StartsFit store database range) :
    ∀ e ∈ made.1.entries, InTimeOrder e.2 := by
  rw [processed] at h
  split at h
  · cases h
  · rename_i found hfound
    simp only at h
    split at h
    · cases h
    · rename_i processed hprocessed
      cases h
      intro e he
      obtain ⟨sorted, hsorted, hprocess⟩ := OrderedMap.exists_of_mem_tryMapValues hprocessed he
      obtain ⟨d, hd, heq⟩ := List.mem_map.1 hsorted
      obtain ⟨-, rfl⟩ := Prod.mk.inj heq
      obtain ⟨stages, hstages, houtput⟩ := exists_freshStages_of_process hprocess
      rw [houtput]
      exact runBuffered_inTimeOrder (StageChain.isFresh_of_freshStages hstages)
        (stablySorted_sortPoints d.2).inTimeOrder (fits found stages hfound hstages d hd)

end Target

theorem OutputSeries.assemble_of_inTimeOrder {points : OrderedMap String (List Point)}
    (h : ∀ e ∈ points.entries, InTimeOrder e.2) :
    assemble points = points.entries.map fun e => ofPoints e.1 e.2 := by
  rw [assemble_eq_map]
  exact List.map_congr_left fun e he => sortByTime_ofPoints (h e he) e.1

/-- A chain keeps the order of time, and with a rate or a window it leaves no two points at one time, whichever way
it runs. So an execution gives what its stages make without sorting it again. -/
theorem chains_keep_order_and_execute_sorts_once :
    (∀ (c : StageChain) (asked : ExecutionMode),
      ((∀ t ∈ c.templates, ∃ name args, StageTemplate.make name args = .ok t) →
        ∃ pipeline, Pipeline.build c asked = .ok pipeline) ∧
      ∀ pipeline, Pipeline.build c asked = .ok pipeline → ∀ points, InTimeOrder points → c.StartsFit points →
        InTimeOrder (pipeline.run points) ∧
        ((∃ t ∈ c.templates, t.kind = .derivative ∨ ∃ f, t.kind = .window f) →
          InStrictTimeOrder (pipeline.run points))) ∧
    ∀ (t : Target) (store : Store) (database : String) (range : TimeRange) (force : Bool),
      t.execute store database range force = (t.processed store database range force).map
        (fun made => ⟨OutputSeries.assemble made.1, made.2⟩) ∧
      (t.StartsFit store database range →
        t.execute store database range force = (t.processed store database range force).map
          fun made => ⟨made.1.entries.map fun e => .ofPoints e.1 e.2, made.2⟩) := by
  refine ⟨fun c asked => ⟨fun made => ?_, fun pipeline hbuild points order fits => ?_⟩,
    fun t store database range force => ⟨t.execute_eq_map_processed store database range force, fun fits => ?_⟩⟩
  · obtain ⟨stages, hstages⟩ := StageChain.exists_freshStages fun t ht => by
      obtain ⟨name, args, h⟩ := made t ht
      exact StageTemplate.exists_fresh_of_make h
    exact ⟨_, Pipeline.build_of_freshStages hstages asked⟩
  · obtain ⟨stages, hstages, hrun⟩ := Pipeline.exists_freshStages_of_build hbuild
    have fresh := StageChain.isFresh_of_freshStages hstages
    rw [hrun]
    refine ⟨runBuffered_inTimeOrder fresh order (fits stages hstages), fun advances => ?_⟩
    apply runBuffered_inStrictTimeOrder fresh order (fits stages hstages)
    exact .inl (StageChain.exists_advances_of_freshStages hstages advances)
  · rw [t.execute_eq_map_processed]
    cases hmade : t.processed store database range force with
    | error e => rfl
    | ok made =>
      have order := Target.inTimeOrder_of_processed hmade fits
      simp only [Except.map, OutputSeries.assemble_of_inTimeOrder order]

open Target in
/-- Seconds in which two points share a time, and what is stored of the two hosts. -/
theorem perSecond_keeps_order_and_sorts_once :
    (∃ pipeline, Pipeline.build ⟨perSecond.templates⟩ .streaming = .ok pipeline ∧
      InTimeOrder [.ofInt (-2500) 3, .ofInt (-2500) 1, .ofInt (-700) 5] ∧
      StageChain.StartsFit ⟨perSecond.templates⟩ [.ofInt (-2500) 3, .ofInt (-2500) 1, .ofInt (-700) 5] ∧
      InStrictTimeOrder (pipeline.run [.ofInt (-2500) 3, .ofInt (-2500) 1, .ofInt (-700) 5])) ∧
    perSecond.StartsFit (.ofInsertions twoHosts) "metrics" ⟨-3000, 1000⟩ ∧
    perSecond.execute (.ofInsertions twoHosts) "metrics" ⟨-3000, 1000⟩ false =
      (perSecond.processed (.ofInsertions twoHosts) "metrics" ⟨-3000, 1000⟩ false).map
        fun made => ⟨made.1.entries.map fun e => .ofPoints e.1 e.2, made.2⟩ := by
  obtain ⟨chains, executes⟩ := chains_keep_order_and_execute_sorts_once
  have advances : ∃ t ∈ perSecond.templates, t.kind = .derivative ∨ ∃ f, t.kind = .window f :=
    ⟨⟨.window .sum, [.int 1]⟩, by decide, .inr ⟨.sum, rfl⟩⟩
  have order : InTimeOrder [.ofInt (-2500) 3, .ofInt (-2500) 1, .ofInt (-700) 5] := by decide
  have startsFit {points : List Point}
      (h : ∀ p ∈ points, Int64.minValue.toInt ≤ WindowStage.startOf ⟨.sum, 1000⟩ p.time) :
      StartsFitAlong perSecondStages points :=
    ⟨trivial, StreamStage.forall_time_run_constant
      (P := fun time => Int64.minValue.toInt ≤ WindowStage.startOf ⟨.sum, 1000⟩ time) h, trivial⟩
  have fits : StageChain.StartsFit ⟨perSecond.templates⟩
      [.ofInt (-2500) 3, .ofInt (-2500) 1, .ofInt (-700) 5] := by
    intro stages hstages
    cases freshStages_perSecond.symm.trans hstages
    exact startsFit (by decide)
  have stored : perSecond.StartsFit (.ofInsertions twoHosts) "metrics" ⟨-3000, 1000⟩ := by
    intro found stages hfound hstages e he
    cases freshStages_perSecond.symm.trans hstages
    cases hfound
    apply startsFit
    simp only [(stablySorted_sortPoints e.2).mem_iff]
    revert e
    decide
  obtain ⟨pipeline, hbuild⟩ : ∃ pipeline, Pipeline.build ⟨perSecond.templates⟩ .streaming = .ok pipeline := ⟨_, rfl⟩
  exact ⟨⟨pipeline, hbuild, order, fits, ((chains _ _).2 pipeline hbuild _ order fits).2 advances⟩, stored,
    (executes perSecond _ "metrics" ⟨-3000, 1000⟩ false).2 stored⟩

end SeriesQuery
