import SeriesQuery.Proofs.Stage.Streaming
import SeriesQuery.Proofs.Stage.TimeOrder

/-! # Rates between times

Of points in the order of time come the rates between each of their times and the next one, however many points
share a time: a rate is taken from the last point at the earlier time to the first point at the later one. It makes
no difference into how many batches the points are cut. The induction is on the points behind the one that is
remembered, which counts as the first point of them all.
-/

namespace SeriesQuery

/-- What comes of batches of points, fed one after the other. -/
def Stage.runBatches : Stage → List (List Point) → List (List Point)
  | _, [] => []
  | s, batch :: rest => (s.run batch).2 :: (s.run batch).1.runBatches rest

namespace StreamStage

theorem run_append (s : StreamStage) (front back : List Point) :
    s.run (front ++ back) = (((s.run front).1.run back).1, (s.run front).2 ++ ((s.run front).1.run back).2) := by
  induction front generalizing s with
  | nil => rfl
  | cons p rest ih => simp [run, ih]

theorem flatten_runBatches (s : StreamStage) (batches : List (List Point)) :
    ((Stage.streaming s).runBatches batches).flatten = (s.run batches.flatten).2 := by
  induction batches generalizing s with
  | nil => rfl
  | cons batch rest ih => simp [Stage.runBatches, Stage.run, run_append, ih]

end StreamStage

/-- The times of points, each once and the earliest first. -/
structure AreTimesOf (times : List Int64) (points : List Point) : Prop where
  ascending : times.Pairwise (· < ·)
  mem_iff {time : Int64} : time ∈ times ↔ ∃ p ∈ points, p.time = time

namespace AreTimesOf

variable {times : List Int64} {p q : Point} {points : List Point}

/-- A point at the time of the one behind it adds no time. -/
theorem of_cons_eq (h : AreTimesOf times (p :: q :: points)) (same : p.time = q.time) :
    AreTimesOf times (q :: points) where
  ascending := h.ascending
  mem_iff := by simp [h.mem_iff, same]

theorem exists_eq_cons (h : AreTimesOf times (p :: points)) (earliest : ∀ q ∈ points, p.time ≤ q.time) :
    ∃ rest, times = p.time :: rest := by
  have hp : p.time ∈ times := h.mem_iff.2 ⟨p, List.mem_cons_self, rfl⟩
  cases times with
  | nil => cases hp
  | cons time rest =>
    refine ⟨rest, ?_⟩
    rcases List.mem_cons.1 hp with heq | hrest
    · rw [heq]
    · obtain ⟨q, hq, rfl⟩ := h.mem_iff.1 List.mem_cons_self
      have hlt : q.time < p.time := (List.pairwise_cons.1 h.ascending).1 _ hrest
      rcases List.mem_cons.1 hq with rfl | hq
      · rfl
      · exact absurd (earliest q hq) (Int64.not_le.2 hlt)

/-- The times of the points behind one that is earlier than all of them. -/
theorem of_cons_lt (h : AreTimesOf (p.time :: times) (p :: points))
    (before : ∀ q ∈ points, p.time < q.time) : AreTimesOf times points where
  ascending := (List.pairwise_cons.1 h.ascending).2
  mem_iff {time} := by
    have hlater := (List.pairwise_cons.1 h.ascending).1
    constructor
    · intro htime
      obtain ⟨q, hq, rfl⟩ := h.mem_iff.1 (List.mem_cons_of_mem _ htime)
      rcases List.mem_cons.1 hq with rfl | hq
      · exact (Int64.lt_irrefl (hlater _ htime)).elim
      · exact ⟨q, hq, rfl⟩
    · rintro ⟨q, hq, rfl⟩
      rcases List.mem_cons.1 (h.mem_iff.2 ⟨q, List.mem_cons_of_mem p hq, rfl⟩) with heq | htime
      · exact (Int64.lt_irrefl (heq ▸ before q hq)).elim
      · exact htime

end AreTimesOf

/-- The floating point at the later of two times with the change per second to the first point there from the last
point at the earlier time. -/
def IsRateOf (points : List Point) (earlier later : Int64) (q : Point) : Prop :=
  ∃ before behind, (points.filter fun p => p.time = earlier).getLast? = some before ∧
    (points.filter fun p => p.time = later).head? = some behind ∧
    q = .ofDouble later ((behind.toDouble.sub before.toDouble).div
      ((Double.ofInt (later.toInt - earlier.toInt)).div (Double.ofInt 1000)))

/-- A rate for each time but the first. -/
inductive AreRatesOf (points : List Point) : List Int64 → List Point → Prop where
  | nil : AreRatesOf points [] []
  | single (time : Int64) : AreRatesOf points [time] []
  | cons {earlier later : Int64} {times : List Int64} {q : Point} {output : List Point}
      (rate : IsRateOf points earlier later q) (others : AreRatesOf points (later :: times) output) :
      AreRatesOf points (earlier :: later :: times) (q :: output)

variable {p q r : Point} {points output : List Point} {times : List Int64}

theorem IsRateOf.cons {earlier later : Int64} (h : IsRateOf points earlier later r) (hp : p.time < later) :
    IsRateOf (p :: points) earlier later r := by
  obtain ⟨before, behind, hbefore, hbehind, rfl⟩ := h
  refine ⟨before, behind, ?_, ?_, rfl⟩
  · by_cases htime : p.time = earlier
    · rw [List.filter_cons_of_pos (by simpa using htime), List.getLast?_cons, hbefore]
      rfl
    · rwa [List.filter_cons_of_neg (by simpa using htime)]
  · have htime : p.time ≠ later := fun h => Int64.lt_irrefl (h ▸ hp)
    rwa [List.filter_cons_of_neg (by simpa using htime)]

namespace AreRatesOf

theorem map_time (h : AreRatesOf points times output) : output.map Point.time = times.tail := by
  induction h with
  | nil => rfl
  | single time => rfl
  | cons rate _ ih =>
    obtain ⟨_, _, -, -, rfl⟩ := rate
    simp [ih, Point.ofDouble]

theorem floating (h : AreRatesOf points times output) : ∀ q ∈ output, q.floating = true := by
  induction h with
  | nil => simp
  | single time => simp
  | cons rate _ ih =>
    obtain ⟨_, _, -, -, rfl⟩ := rate
    exact List.forall_mem_cons.2 ⟨rfl, ih⟩

/-- A point that is not later than any of the times has no part in the rates, unless it is the last one at the
first time. -/
theorem of_point_before (h : AreRatesOf points times output) (ascending : times.Pairwise (· < ·))
    (hp : ∀ time ∈ times, p.time ≤ time) : AreRatesOf (p :: points) times output := by
  induction h with
  | nil => exact .nil
  | single time => exact .single time
  | cons rate _ ih =>
    obtain ⟨hlater, hrest⟩ := List.pairwise_cons.1 ascending
    obtain ⟨hfirst, hp⟩ := List.forall_mem_cons.1 hp
    have hlt := Int64.lt_of_le_of_lt hfirst (hlater _ List.mem_cons_self)
    exact .cons (rate.cons hlt) (ih hrest hp)

end AreRatesOf

namespace DerivativeStage

theorem between?_of_lt (h : p.time < q.time) :
    between? p q = some (.ofDouble q.time (rate p q (q.time.toInt - p.time.toInt))) := by
  rw [Int64.lt_iff_toInt_lt] at h
  exact if_neg (by omega)

theorem between?_of_le (h : q.time ≤ p.time) : between? p q = none := by
  rw [Int64.le_iff_toInt_le] at h
  exact if_pos (by omega)

/-- Where 64 bits hold the difference of the times, it can be taken in 64 bits. -/
theorem between?_eq_of_fits (low : Int64.minValue.toInt ≤ q.time.toInt - p.time.toInt)
    (high : q.time.toInt - p.time.toInt ≤ Int64.maxValue.toInt) :
    between? p q = if q.time - p.time ≤ 0 then none
      else some (.ofDouble q.time (rate p q (q.time - p.time).toInt)) := by
  have helapsed : (q.time - p.time).toInt = q.time.toInt - p.time.toInt := by
    rw [← Int64.ofInt_toInt q.time, ← Int64.ofInt_toInt p.time, ← Int64.ofInt_sub, Int64.ofInt_toInt,
      Int64.ofInt_toInt]
    exact Int64.toInt_ofInt_of_le low (Int.lt_add_one_of_le high)
  simp only [between?, Int64.le_iff_toInt_le, helapsed, Int64.toInt_zero]

/-- The points behind the one remembered yield the rates of them all. -/
theorem areRatesOf_run (order : InTimeOrder (p :: points)) (distinct : AreTimesOf times (p :: points)) :
    AreRatesOf (p :: points) times ((StreamStage.derivative ⟨some p⟩).run points).2 := by
  induction points generalizing p times with
  | nil =>
    obtain ⟨rest, rfl⟩ := distinct.exists_eq_cons (by simp)
    cases rest with
    | nil => exact .single p.time
    | cons time rest => simpa using (distinct.of_cons_lt (by simp)).mem_iff.1 List.mem_cons_self
  | cons q points ih =>
    obtain ⟨hp, hpoints⟩ := List.pairwise_cons.1 order
    have hq := (List.pairwise_cons.1 hpoints).1
    rw [StreamStage.run_derivative_cons, Option.bind_some]
    rcases Int64.lt_or_eq_of_le (hp q List.mem_cons_self) with hlt | heq
    · have hbefore : ∀ r ∈ q :: points, p.time < r.time :=
        List.forall_mem_cons.2 ⟨hlt, fun r hr => Int64.lt_of_lt_of_le hlt (hq r hr)⟩
      obtain ⟨rest, rfl⟩ := distinct.exists_eq_cons hp
      have hrest := distinct.of_cons_lt hbefore
      obtain ⟨times, rfl⟩ := hrest.exists_eq_cons hq
      rw [between?_of_lt hlt, Option.toList_some, List.singleton_append]
      refine .cons ⟨p, q, ?_, ?_, rfl⟩ ((ih hpoints hrest).of_point_before hrest.ascending fun time htime => ?_)
      · have hnone : ((q :: points).filter fun r => r.time = p.time) = [] := by
          rw [List.filter_eq_nil_iff]
          intro r hr htime
          exact Int64.lt_irrefl (of_decide_eq_true htime ▸ hbefore r hr)
        simp [List.filter_cons_of_pos, hnone]
      · have hne : p.time ≠ q.time := fun h => Int64.lt_irrefl (h ▸ hlt)
        simp [hne]
      · obtain ⟨r, hr, rfl⟩ := hrest.mem_iff.1 htime
        exact hp r hr
    · rw [between?_of_le (Int64.le_of_eq heq.symm), Option.toList_none, List.nil_append]
      have hdistinct := distinct.of_cons_eq heq
      refine (ih hpoints hdistinct).of_point_before distinct.ascending fun time htime => ?_
      obtain ⟨r, hr, rfl⟩ := hdistinct.mem_iff.1 htime
      exact hp r hr

theorem areRatesOf_run_fresh (order : InTimeOrder points) (distinct : AreTimesOf times points) :
    AreRatesOf points times ((StreamStage.derivative .fresh).run points).2 := by
  cases points with
  | nil =>
    cases times with
    | nil => exact .nil
    | cons time rest => simpa using distinct.mem_iff.1 List.mem_cons_self
  | cons p points => exact areRatesOf_run order distinct

/-- Of points in the order of time come the floating rates between their times, one for each time but the first
and at that time, whether the points are fed in one batch, in several or one by one, or streamed. -/
theorem rates_of_inTimeOrder (order : InTimeOrder points) (distinct : AreTimesOf times points) :
    ∃ output, AreRatesOf points times output ∧
      output.length = times.length - 1 ∧ output.map Point.time = times.tail ∧ (∀ q ∈ output, q.floating = true) ∧
      (∀ batches, batches.flatten = points →
        ((Stage.streaming (.derivative .fresh)).runBatches batches).flatten = output) ∧
      (Stream.ofSource points [.derivative .fresh]).Yields output := by
  have h := areRatesOf_run_fresh order distinct
  refine ⟨_, h, ?_, h.map_time, h.floating, ?_, ?_⟩
  · rw [← List.length_map Point.time, h.map_time, List.length_tail]
  · rintro batches rfl
    exact StreamStage.flatten_runBatches _ batches
  · rw [Stream.yields_iff, Stream.points_cons, Stream.points_no_stages]

/-- Integers and doubles at three times, two points at each of the first two. -/
def paired : List Point :=
  [.ofInt (-500) 1, .ofInt (-500) 4, .ofDouble 500 ⟨0x4010000000000000⟩, .ofInt 500 3, .ofInt 2500 (-1)]

theorem rates_paired :
    InTimeOrder paired ∧ AreTimesOf [-500, 500, 2500] paired ∧
      AreRatesOf paired [-500, 500, 2500] [.ofDouble 500 .zero, .ofDouble 2500 ⟨0xC000000000000000⟩] ∧
      ((Stage.streaming (.derivative .fresh)).runBatches [paired.take 3, [], paired.drop 3]).flatten =
        [.ofDouble 500 .zero, .ofDouble 2500 ⟨0xC000000000000000⟩] := by
  have order : InTimeOrder paired := by decide
  have distinct : AreTimesOf [-500, 500, 2500] paired := by
    refine ⟨by decide, fun {time} => ?_⟩
    simp [paired, Point.ofInt, Point.ofDouble, eq_comm]
  obtain ⟨output, rates, -, -, -, batched, -⟩ := rates_of_inTimeOrder order distinct
  have hwhole : ((Stage.streaming (.derivative .fresh)).runBatches [paired]).flatten =
      [.ofDouble 500 .zero, .ofDouble 2500 ⟨0xC000000000000000⟩] := by decide +kernel
  have houtput := (batched [paired] (by simp)).symm.trans hwhole
  rw [houtput] at rates
  exact ⟨order, distinct, rates, (batched _ (by decide)).trans houtput⟩

end DerivativeStage
end SeriesQuery
