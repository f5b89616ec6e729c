import SeriesQuery.Double.Shortest

/-! # The shortest digits of a double

The digits that are written for a double which is not zero are not zero either: each grid is tested against an
interval above zero, and where no grid meets it, the significand is written.
-/

namespace SeriesQuery.Double

theorem significand_ne_zero {d : Double} (h : d.isZero = false) : d.significand.1 ≠ 0 := by
  have hmagnitude : d.magnitude ≠ 0 := by simpa [isZero] using h
  have hpow : Nat.pow 2 52 = 4503599627370496 := rfl
  simp only [significand, hpow]
  split
  · rename_i hexponent
    simp only
    omega
  · simp only
    omega

/-- The interval of a double that is not zero lies above zero. -/
theorem low_interval_pos {d : Double} (h : d.isZero = false) : 0 < d.interval.low := by
  have hne := significand_ne_zero h
  simp only [interval]
  split <;> omega

theorem Interval.contains_zero {i : Interval} (h : 0 < i.low) (step : Int) : i.contains 0 step = false := by
  have hunit : 0 < if 0 ≤ i.unit then i.low * Nat.pow 2 i.unit.toNat else i.low := by
    split
    · exact Nat.mul_pos h (Nat.pow_pos (by decide))
    · exact h
  have hpoint : (onCommonScale i.low i.unit 0 step).2 < (onCommonScale i.low i.unit 0 step).1 := by
    unfold onCommonScale
    simp only [Nat.zero_mul, ite_self]
    split
    · exact hunit
    · exact Nat.mul_pos hunit (Nat.pow_pos (by decide))
  simp only [contains]
  split <;> simp <;> omega

theorem digits_candidate?_ne_zero {d : Double} (h : d.isZero = false) {tie : Tie} {count : Nat} {x : Decimal}
    (hx : candidate? tie d count = some x) : x.digits ≠ 0 := by
  simp only [candidate?] at hx
  split at hx
  · rename_i hfits
    cases hx
    intro hzero
    simp only at hzero
    rw [hzero, Interval.contains_zero (low_interval_pos h)] at hfits
    simp at hfits
  · split at hx
    · cases hx
      exact Nat.succ_ne_zero _
    · cases hx

theorem digits_searchFrom_ne_zero {d : Double} (h : d.isZero = false) (tie : Tie) (count fuel : Nat) :
    (searchFrom tie d count fuel).digits ≠ 0 := by
  induction fuel generalizing count with
  | zero =>
    rw [searchFrom.eq_def]
    cases hx : candidate? tie d count with
    | none => simpa only [hx, Option.getD_none] using significand_ne_zero h
    | some x => simpa only [hx, Option.getD_some] using digits_candidate?_ne_zero h hx
  | succ fuel ih =>
    rw [searchFrom.eq_def]
    cases hx : candidate? tie d count with
    | none => simpa only [hx] using ih (count + 1)
    | some x => simpa only [hx] using digits_candidate?_ne_zero h hx

theorem Decimal.digits_strip_ne_zero {x : Decimal} (h : x.digits ≠ 0) (fuel : Nat) : (strip fuel x).digits ≠ 0 := by
  induction fuel generalizing x with
  | zero => exact h
  | succ fuel ih =>
    rw [strip]
    split
    · exact ih (by simp only; omega)
    · exact h

theorem digits_shortest_ne_zero {d : Double} (h : d.isZero = false) (tie : Tie) : (d.shortest tie).digits ≠ 0 :=
  Decimal.digits_strip_ne_zero (digits_searchFrom_ne_zero h tie 1 16) 17

end SeriesQuery.Double
