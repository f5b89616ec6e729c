import SeriesQuery.Proofs.Stage.RollUp

/-! # Windows of reordered points

Which points a window holds does not depend on the order in which they come, and counts do not look at
anything else. Sums and extremes of integers do not depend on the order either; those of doubles may, because
sums are rounded on the way and signed zeros and NaNs are told apart. That a sum wraps around is no obstacle:
cutting to 64 bits can wait until everything is added up, so that the sums of all windows also make up the sum
of all points.
-/

namespace SeriesQuery

theorem allIntegers_iff_of_perm {points reordered : List Point} (perm : points.Perm reordered) :
    AllIntegers points ↔ AllIntegers reordered := by
  simp [AllIntegers, perm.mem_iff]

namespace Aggregation

/-- Whether the order of the points makes no difference to the aggregate. -/
def IgnoresOrder (points : List Point) : Aggregation → Prop
  | count => True
  | sum | min | max => AllIntegers points
  | mean | first | last => False

variable {f : Aggregation} {points reordered : List Point} {v : Value}

theorem IgnoresOrder.filter (h : f.IgnoresOrder points) (test : Point → Bool) :
    f.IgnoresOrder (points.filter test) := by
  cases f with
  | count => trivial
  | sum | min | max => exact fun p hp => h p (List.mem_of_mem_filter hp)
  | mean | first | last => exact h

theorem IgnoresOrder.staysInteger (h : f.IgnoresOrder points) : f.StaysInteger points := by
  cases f with
  | count => exact .inl rfl
  | sum | min | max => exact .inr ⟨by decide, h⟩
  | mean | first | last => exact h.elim

/-- Sums, extremes and counts of integers, whichever way they are ordered. -/
theorem ofIntegers_of_perm (h : f.IgnoresOrder points) {values others : List Int64} (perm : values.Perm others)
    {n : Int64} (hn : f.OfIntegers values n) : f.OfIntegers others n := by
  cases f with
  | count => simpa [OfIntegers, perm.length_eq] using hn
  | sum => simpa [OfIntegers, (perm.map Int64.toInt).sum_eq] using hn
  | min | max => simpa [OfIntegers, perm.mem_iff] using hn
  | mean | first | last => exact h.elim

theorem Result.of_perm (perm : points.Perm reordered) (h : f.IgnoresOrder points) (hv : f.Result points v) :
    f.Result reordered v := by
  have hstays : f.StaysInteger points ↔ f.StaysInteger reordered := by
    rw [StaysInteger, StaysInteger, allIntegers_iff_of_perm perm]
  cases v with
  | int n => exact ⟨hstays.1 hv.1, ofIntegers_of_perm h (perm.map Point.raw) hv.2⟩
  | float d => exact absurd h.staysInteger hv.1

end Aggregation

namespace WindowStage

variable {w : WindowStage} {points reordered output : List Point}

theorem Summarizes.of_perm (perm : points.Perm reordered) (ignores : w.aggregation.IgnoresOrder points)
    (h : w.Summarizes points output) : w.Summarizes reordered output where
  ascending := h.ascending
  aligned := h.aligned
  occurs start aligned := by
    rw [h.occurs start aligned]
    simp only [perm.mem_iff]
  result q hq := (h.result q hq).of_perm (perm.filter _) (ignores.filter _)

theorem apply_of_perm (pos : 0 < w.length) (fits : w.StartsFit points)
    (ignores : w.aggregation.IgnoresOrder points) (perm : points.Perm reordered) :
    w.apply reordered = w.apply points := by
  have fitsReordered : w.StartsFit reordered := fun p hp => fits p (perm.mem_iff.2 hp)
  apply (summarizes_apply pos fitsReordered).unique
  exact (summarizes_apply pos fits).of_perm perm ignores

namespace Summarizes

theorem allIntegers_output (h : w.Summarizes points output) (integers : AllIntegers points)
    (hmean : w.aggregation ≠ .mean) : AllIntegers output := by
  intro q hq
  rw [h.floating_eq_false_iff hq]
  exact .inr ⟨hmean, fun p hp => integers p (List.mem_of_mem_filter hp)⟩

theorem foldl_add_sums (pos : 0 < w.length) (h : w.Summarizes points output) (sum : w.aggregation = .sum)
    (integers : AllIntegers points) :
    (output.map Point.raw).foldl (· + ·) 0 = (points.map Point.raw).foldl (· + ·) 0 := by
  simp only [Aggregation.foldl_add_eq_ofInt_sum, Int64.toInt_zero, Int.zero_add, List.map_map]
  exact h.ofInt_sum_sums pos sum integers

end Summarizes

/-- The order of the points makes no difference to counts, nor, where all are integers, to sums and extremes. The
wrapping sums of all windows make up the wrapping sum of all points, and an extreme is the value of a point of its
window and bounds the values of all of them. -/
theorem apply_of_perm_and_sum_and_extremes {f : Aggregation} {arg : Argument} (h : make f arg = .ok w)
    (fits : w.StartsFit points) :
    (f.IgnoresOrder points → ∀ reordered, points.Perm reordered → w.apply reordered = w.apply points) ∧
      (AllIntegers points → f ≠ .mean → AllIntegers (w.apply points)) ∧
      (AllIntegers points → f = .sum →
        ((w.apply points).map Point.raw).foldl (· + ·) 0 = (points.map Point.raw).foldl (· + ·) 0) ∧
      (AllIntegers points → f = .min → ∀ q ∈ w.apply points,
        (∃ p ∈ w.members points q.time.toInt, p.raw = q.raw) ∧
          ∀ p ∈ w.members points q.time.toInt, q.raw ≤ p.raw) ∧
      (AllIntegers points → f = .max → ∀ q ∈ w.apply points,
        (∃ p ∈ w.members points q.time.toInt, p.raw = q.raw) ∧
          ∀ p ∈ w.members points q.time.toInt, p.raw ≤ q.raw) := by
  have pos := length_pos_of_make h
  have hsummary := summarizes_apply pos fits
  have haggregation : w.aggregation = f := by
    obtain ⟨n, -, -, -, rfl⟩ := make_eq_ok_iff.1 h
    rfl
  subst f
  have hraw (integers : AllIntegers points) (hmean : w.aggregation ≠ .mean) (q : Point) (hq : q ∈ w.apply points) :
      w.aggregation.OfIntegers ((w.members points q.time.toInt).map Point.raw) q.raw :=
    hsummary.ofIntegers_raw hq (hsummary.allIntegers_output integers hmean q hq)
  refine ⟨fun ignores reordered perm => apply_of_perm pos fits ignores perm, hsummary.allIntegers_output,
    fun integers sum => hsummary.foldl_add_sums pos sum integers, fun integers min q hq => ?_,
    fun integers max q hq => ?_⟩
  · have hq := hraw integers (by simp [min]) q hq
    simpa [min, Aggregation.OfIntegers] using hq
  · have hq := hraw integers (by simp [max]) q hq
    simpa [max, Aggregation.OfIntegers] using hq

/-- The last of these windows has a sum beyond 64 bits. -/
theorem apply_reverse_scattered :
    make .sum (.int 60) = .ok ⟨.sum, 60000⟩ ∧ WindowStage.StartsFit ⟨.sum, 60000⟩ Pipeline.scattered ∧
      Aggregation.sum.IgnoresOrder Pipeline.scattered ∧ Pipeline.scattered.Perm Pipeline.scattered.reverse ∧
      apply ⟨.sum, 60000⟩ Pipeline.scattered =
        [.ofInt (-60000) 12, .ofInt 0 (-2), .ofInt 60000 Int64.minValue] ∧
      apply ⟨.sum, 60000⟩ Pipeline.scattered.reverse = apply ⟨.sum, 60000⟩ Pipeline.scattered := by
  have hmake : make .sum (.int 60) = .ok ⟨.sum, 60000⟩ := by rfl
  have fits : WindowStage.StartsFit ⟨.sum, 60000⟩ Pipeline.scattered := by
    unfold StartsFit
    decide
  have ignores : Aggregation.sum.IgnoresOrder Pipeline.scattered := by
    change AllIntegers Pipeline.scattered
    decide
  have perm : Pipeline.scattered.Perm Pipeline.scattered.reverse := (List.reverse_perm _).symm
  have houtput : apply ⟨.sum, 60000⟩ Pipeline.scattered =
      [.ofInt (-60000) 12, .ofInt 0 (-2), .ofInt 60000 Int64.minValue] := by decide +kernel
  exact ⟨hmake, fits, ignores, perm, houtput,
    (apply_of_perm_and_sum_and_extremes hmake fits).1 ignores _ perm⟩

end WindowStage
end SeriesQuery
