import SeriesQuery.Proofs.Map.Gathering
import SeriesQuery.Proofs.Point.TimeOrder
import SeriesQuery.Proofs.Stage.FreshStages

/-! # Stages and the order of time

Every stage hands on points that are in the order of time as points in the order of time, whatever their
values are. Constants keep the times; rates and windows even leave no two points at one time. Only a window
that would start before the first time that can be written would come out at the wrong place.
-/

namespace SeriesQuery

namespace StreamStage

theorem run_constant (c : ConstantStage) (points : List Point) :
    (constant c).run points = (constant c, points.map c.apply) := by
  induction points with
  | nil => rfl
  | cons p rest ih =>
    simp only [run, step, ih]
    rfl

theorem run_derivative_cons (s : DerivativeStage) (p : Point) (rest : List Point) :
    ((derivative s).run (p :: rest)).2 =
      (s.previous.bind fun previous => DerivativeStage.between? previous p).toList ++
        ((derivative ⟨some p⟩).run rest).2 := rfl

end StreamStage

theorem ConstantStage.inTimeOrder_map {c : ConstantStage} {points : List Point} (h : InTimeOrder points) :
    InTimeOrder (points.map c.apply) := by
  rw [InTimeOrder, List.pairwise_map]
  simp only [time_apply]
  exact h

namespace DerivativeStage

theorem time_of_between? {previous current q : Point} (h : between? previous current = some q) :
    previous.time < current.time ∧ q.time = current.time := by
  rw [between?] at h
  split at h
  · cases h
  · rename_i helapsed
    cases h
    refine ⟨?_, rfl⟩
    rw [Int64.lt_iff_toInt_lt]
    omega

/-- What comes out is later than the point remembered and each later than the one before. -/
theorem run_inStrictTimeOrder {points : List Point} (h : InTimeOrder points) {s : DerivativeStage}
    (hprevious : ∀ previous ∈ s.previous, ∀ p ∈ points, previous.time ≤ p.time) :
    InStrictTimeOrder ((StreamStage.derivative s).run points).2 ∧
      ∀ previous ∈ s.previous, ∀ q ∈ ((StreamStage.derivative s).run points).2, previous.time < q.time := by
  induction points generalizing s with
  | nil => exact ⟨.nil, fun _ _ _ hq => absurd hq List.not_mem_nil⟩
  | cons p rest ih =>
    obtain ⟨hp, hrest⟩ := List.pairwise_cons.1 h
    obtain ⟨hstrict, hlater⟩ := ih hrest (s := ⟨some p⟩) fun previous hprev => by
      cases hprev
      exact hp
    have hbehind := hlater p rfl
    rw [StreamStage.run_derivative_cons]
    cases hout : s.previous.bind fun previous => between? previous p with
    | none =>
      refine ⟨hstrict, fun previous hprev q hq => ?_⟩
      exact Int64.lt_of_le_of_lt (hprevious previous hprev p List.mem_cons_self) (hbehind q hq)
    | some q =>
      obtain ⟨previous, hprev, hbetween⟩ := Option.bind_eq_some_iff.1 hout
      obtain ⟨hlt, htime⟩ := time_of_between? hbetween
      refine ⟨List.pairwise_cons.2 ⟨fun r hr => ?_, hstrict⟩, fun previous' hprev' r hr => ?_⟩
      · rw [htime]
        exact hbehind r hr
      · cases hprev.symm.trans hprev'
        obtain rfl | hr := List.mem_cons.1 hr
        · rwa [htime]
        · exact Int64.lt_trans hlt (hbehind r hr)

end DerivativeStage

namespace WindowStage

/-- No window of the points starts before the first time that can be written. -/
def StartsFit (w : WindowStage) (points : List Point) : Prop :=
  ∀ p ∈ points, Int64.minValue.toInt ≤ w.startOf p.time

theorem startOf_le (w : WindowStage) (time : Int64) : w.startOf time ≤ Int64.maxValue.toInt := by
  have htime := Int64.le_iff_toInt_le.1 time.le_maxValue
  rw [startOf]
  by_cases hlength : w.length = 0
  · rw [hlength, Int.mul_zero]
    decide
  · have := Int.ediv_mul_le time.toInt hlength
    omega

theorem toInt_ofInt_startOf {w : WindowStage} {p : Point} (h : Int64.minValue.toInt ≤ w.startOf p.time) :
    (Int64.ofInt (w.startOf p.time)).toInt = w.startOf p.time := by
  have hle := w.startOf_le p.time
  rw [Int64.toInt_minValue] at h
  rw [Int64.toInt_maxValue] at hle
  exact Int64.toInt_ofInt_of_le h (by omega)

theorem group_eq_gather (w : WindowStage) (points : List Point) :
    w.group points = OrderedMap.gather (fun p => w.startOf p.time) (fun p => [p]) points := rfl

theorem exists_of_mem_group {w : WindowStage} {points : List Point} {e : Int × List Point}
    (h : e ∈ (w.group points).entries) : ∃ p ∈ points, w.startOf p.time = e.1 := by
  have hkey : e.1 ∈ (w.group points).keys := List.mem_map_of_mem h
  rwa [group_eq_gather, OrderedMap.mem_keys_gather] at hkey

theorem apply_inStrictTimeOrder {w : WindowStage} {points : List Point} (fits : w.StartsFit points) :
    InStrictTimeOrder (w.apply points) := by
  rw [InStrictTimeOrder, apply, List.pairwise_filterMap]
  refine (w.group points).ascending.imp_of_mem fun {d e} hd he hlt p hp q hq => ?_
  obtain ⟨_, -, rfl⟩ := Option.map_eq_some_iff.1 hp
  obtain ⟨_, -, rfl⟩ := Option.map_eq_some_iff.1 hq
  obtain ⟨a, ha, hda⟩ := exists_of_mem_group hd
  obtain ⟨b, hb, heb⟩ := exists_of_mem_group he
  rw [Point.time_ofValue, Point.time_ofValue, ← hda, ← heb, Int64.lt_iff_toInt_lt,
    toInt_ofInt_startOf (fits a ha), toInt_ofInt_startOf (fits b hb), hda, heb]
  exact Int.compare_eq_lt.1 hlt

end WindowStage

/-- All windows that a stage makes of the points can be written. -/
def Stage.StartsFit : Stage → List Point → Prop
  | streaming _, _ => True
  | window w, points => w.StartsFit points

/-- All windows that stages make, one stage behind the other, can be written. -/
def StartsFitAlong : List Stage → List Point → Prop
  | [], _ => True
  | s :: rest, points => s.StartsFit points ∧ StartsFitAlong rest (s.run points).2

/-- A fresh stage: one that has not seen a point. -/
def Stage.IsFresh : Stage → Prop
  | streaming (.derivative s) => s.previous = none
  | streaming (.constant _) | window _ => True

theorem StageChain.isFresh_of_freshStages {templates : List StageTemplate} {stages : List Stage}
    (h : freshStages templates = .ok stages) : ∀ s ∈ stages, s.IsFresh := by
  intro s hs
  obtain ⟨t, -, ht⟩ := exists_template_of_mem h hs
  obtain ⟨op, c, -, rfl⟩ | ⟨-, rfl⟩ | ⟨f, arg, w, -, -, rfl⟩ := StageKind.fresh_cases ht
  · trivial
  · rfl
  · trivial

/-- Constants keep the times that they get. What any other fresh stage gives is apart in time. -/
theorem Stage.constant_or_run_inStrictTimeOrder {s : Stage} (fresh : s.IsFresh) {points : List Point}
    (h : InTimeOrder points) (fits : s.StartsFit points) :
    (∃ c, s = streaming (.constant c)) ∨ InStrictTimeOrder (s.run points).2 := by
  match s with
  | streaming (.constant c) => exact .inl ⟨c, rfl⟩
  | streaming (.derivative d) =>
    have hnone : d.previous = none := fresh
    exact .inr (DerivativeStage.run_inStrictTimeOrder h (by simp [hnone])).1
  | window w => exact .inr (WindowStage.apply_inStrictTimeOrder fits)

theorem Stage.run_inTimeOrder {s : Stage} (fresh : s.IsFresh) {points : List Point}
    (h : InTimeOrder points) (fits : s.StartsFit points) : InTimeOrder (s.run points).2 := by
  obtain ⟨c, rfl⟩ | hstrict := constant_or_run_inStrictTimeOrder fresh h fits
  · rw [run, StreamStage.run_constant]
    exact ConstantStage.inTimeOrder_map h
  · exact hstrict.inTimeOrder

/-- Fresh stages in a row keep the order of time. -/
theorem runBuffered_inTimeOrder {stages : List Stage} (fresh : ∀ s ∈ stages, s.IsFresh)
    {points : List Point} (h : InTimeOrder points) (fits : StartsFitAlong stages points) :
    InTimeOrder (runBuffered stages points) := by
  induction stages generalizing points with
  | nil => exact h
  | cons s rest ih =>
    obtain ⟨hs, hrest⟩ := List.forall_mem_cons.1 fresh
    exact ih hrest (Stage.run_inTimeOrder hs h fits.1) fits.2

end SeriesQuery
