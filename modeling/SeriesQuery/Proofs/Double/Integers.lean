import Mathlib.Algebra.Group.Int.Defs
import SeriesQuery.Proofs.Double.Rounding

/-! # Integers as doubles

A double has fifty-three significant bits, so that an integer goes to a double and back unchanged when its
bits from the first to the last one set are not more than that. Every other integer comes back as its nearest
neighbour with so many bits, cut to the 64-bit integers.
-/

namespace SeriesQuery.Double

/-- Whether the bits from the first to the last one set fit in a significand. -/
def FitsSignificand (n : Int) : Prop := ∃ m e : Nat, n.natAbs = m * 2 ^ e ∧ m < 2 ^ 53

/-- The integer that the double nearest to `n` is. -/
def nearestWhole (n : Nat) : Nat := roundHalfEven n (2 ^ (n.log2 - 52)) * 2 ^ (n.log2 - 52)

theorem lt_two_pow_mul_two_pow {n : Nat} : n < 2 ^ 53 * 2 ^ (n.log2 - 52) := by
  rw [← Nat.pow_add]
  exact Nat.lt_of_lt_of_le Nat.lt_log2_self (Nat.pow_le_pow_right (by decide) (by omega))

/-- An integer is its own nearest neighbour when its significant bits fit. -/
theorem nearestWhole_eq_self_iff (n : Nat) : nearestWhole n = n ↔ FitsSignificand n := by
  rw [nearestWhole, roundHalfEven_mul_eq_iff (Nat.two_pow_pos _), FitsSignificand, Int.natAbs_natCast]
  constructor
  · rintro ⟨m, hm⟩
    rw [Nat.mul_comm] at hm
    refine ⟨m, n.log2 - 52, hm, ?_⟩
    have hlt := lt_two_pow_mul_two_pow (n := n)
    generalize n.log2 - 52 = e at hm hlt
    subst hm
    exact Nat.lt_of_mul_lt_mul_right hlt
  · rintro ⟨m, e, hn, hm⟩
    by_cases hzero : n = 0
    · exact hzero ▸ Nat.dvd_zero _
    · have hlt : n < 2 ^ (53 + e) := by
        rw [hn, Nat.pow_add]
        exact Nat.mul_lt_mul_of_pos_right hm (Nat.two_pow_pos e)
      have hlog : n.log2 < 53 + e := (Nat.log2_lt hzero).2 hlt
      have hdvd : 2 ^ (n.log2 - 52) ∣ 2 ^ e := Nat.pow_dvd_pow 2 (by omega)
      exact hn ▸ Nat.dvd_mul_left_of_dvd hdvd m

theorem fitsSignificand_iff (n : Int) : FitsSignificand n ↔ nearestWhole n.natAbs = n.natAbs := by
  rw [nearestWhole_eq_self_iff, FitsSignificand, FitsSignificand, Int.natAbs_natCast]

theorem nearestWhole_of_lt {n : Nat} (small : n < 2 ^ 53) : nearestWhole n = n :=
  (nearestWhole_eq_self_iff n).2 ⟨n, 0, (Nat.mul_one n).symm, small⟩

theorem nearestWhole_pos {n : Nat} (hn : 0 < n) : 0 < nearestWhole n := by
  have hle : 1 * 2 ^ (n.log2 - 52) ≤ n := by
    rw [Nat.one_mul]
    exact Nat.le_trans (Nat.pow_le_pow_right (by decide) (Nat.sub_le _ _)) (Nat.log2_self_le (Nat.ne_of_gt hn))
  exact Nat.mul_pos (le_roundHalfEven (Nat.two_pow_pos _) hle) (Nat.two_pow_pos _)

theorem significand_snd_ge (d : Double) : -1074 ≤ d.significand.2 := by
  simp only [significand, Nat.pow_eq]
  split <;> dsimp only <;> omega

/-- A significand has its fifty-three digits, except with the least exponent. -/
theorem significand_fst_bounds (d : Double) :
    d.significand.1 < 2 ^ 53 ∧ (2 ^ 52 ≤ d.significand.1 ∨ d.significand.2 = -1074) := by
  simp only [significand, Nat.pow_eq]
  split <;> simp <;> omega

theorem isNaN_of_isFinite {d : Double} (h : d.isFinite = true) : d.isNaN = false := by
  rw [isFinite, decide_eq_true_eq] at h
  exact decide_eq_false (by omega)

/-- The integer part of a number, read off the multiple that it is. -/
theorem toInt64_of_isFinite {d : Double} (h : d.isFinite = true) :
    d.toInt64 = clampToInt64 (if d.isNegative then -(d.multiple / 2 ^ 1074 : Nat) else (d.multiple / 2 ^ 1074 : Nat)) := by
  have hge := significand_snd_ge d
  rw [multiple, toInt64, isNaN_of_isFinite h, h]
  generalize d.significand = parts at hge
  obtain ⟨m, q⟩ := parts
  simp only [Bool.false_eq_true, if_false, Bool.not_true, Nat.pow_eq] at hge ⊢
  generalize he : 1074 = e
  by_cases hq : 0 ≤ q
  · have hexponent : (q + 1074).toNat = q.toNat + e := by omega
    rw [if_pos hq, hexponent, Nat.pow_add, ← Nat.mul_assoc, Nat.mul_div_cancel _ (Nat.two_pow_pos _)]
  · have hexponent : e = (-q).toNat + (q + 1074).toNat := by omega
    rw [if_neg hq, hexponent, Nat.pow_add, Nat.mul_div_mul_right _ _ (Nat.two_pow_pos _)]

/-- A number that is whole becomes the integer. -/
theorem toInt64_of_multiple {d : Double} (h : d.isFinite = true) {n : Nat}
    (hn : d.multiple = n * 2 ^ 1074) : d.toInt64 = clampToInt64 (if d.isNegative then -n else n) := by
  rw [toInt64_of_isFinite h, hn]
  generalize 1074 = e
  rw [Nat.mul_div_cancel _ (Nat.two_pow_pos _)]

/-- The unit of an integer follows from its number of bits. -/
theorem unit_of_log2 {n k e : Nat} (pos : 0 < n) (low : k = 0 ∨ 2 ^ (52 + k) ≤ n * 2 ^ e)
    (high : n * 2 ^ e < 2 ^ (53 + k)) (he : 52 ≤ e) : k = n.log2 + e - 52 := by
  have hn : 2 ^ (n.log2 + e) ≤ n * 2 ^ e := by
    rw [Nat.pow_add]
    exact Nat.mul_le_mul_right _ (Nat.log2_self_le (Nat.ne_of_gt pos))
  have hn' : n * 2 ^ e < 2 ^ (n.log2 + 1 + e) := by
    rw [Nat.pow_add]
    exact Nat.mul_lt_mul_of_pos_right Nat.lt_log2_self (Nat.two_pow_pos e)
  have hle := (Nat.pow_lt_pow_iff_right (by decide)).1 (Nat.lt_of_le_of_lt hn high)
  rcases low with rfl | low
  · omega
  · have hge := (Nat.pow_lt_pow_iff_right (by decide)).1 (Nat.lt_of_le_of_lt low hn')
    omega

/-- Rounded in its unit an integer is its nearest neighbour with as many bits as a significand has. -/
theorem roundHalfEven_unit (n : Nat) {e : Nat} (he : 52 ≤ e) :
    roundHalfEven (n * 2 ^ e) (2 ^ (n.log2 + e - 52)) * 2 ^ (n.log2 + e - 52) = nearestWhole n * 2 ^ e := by
  rw [nearestWhole]
  by_cases hl : 52 ≤ n.log2
  · have hunit : n.log2 + e - 52 = n.log2 - 52 + e := by omega
    rw [hunit, Nat.pow_add, roundHalfEven_mul_mul (Nat.two_pow_pos e), Nat.mul_assoc]
  · have hunit : n.log2 - 52 = 0 := by omega
    have hdvd : 2 ^ (n.log2 + e - 52) ∣ n * 2 ^ e :=
      Nat.dvd_mul_left_of_dvd (Nat.pow_dvd_pow 2 (by omega)) n
    have hself : roundHalfEven n 1 * 1 = n := (roundHalfEven_mul_eq_iff Nat.one_pos).2 (Nat.one_dvd n)
    rw [hunit, (roundHalfEven_mul_eq_iff (Nat.two_pow_pos _)).2 hdvd, Nat.pow_zero, hself]

/-- The pattern of the double nearest to an integer is finite, and stands for the nearest neighbour. -/
theorem multipleOf_nearestMagnitude {n : Nat} (pos : 0 < n) (small : n.log2 ≤ 63) :
    nearestMagnitude n 1 < infinityMagnitude ∧ multipleOf (nearestMagnitude n 1) = nearestWhole n * 2 ^ 1074 := by
  obtain ⟨k, hmagnitude, low, high⟩ := exists_rounding n Nat.one_pos
  obtain ⟨hlow, hhigh⟩ := roundHalfEven_units Nat.one_pos low high
  rw [Nat.one_mul] at low high hlow hhigh hmagnitude
  have hk : k = n.log2 + 1074 - 52 := unit_of_log2 pos low high (by decide)
  have hvalue := roundHalfEven_unit n (show 52 ≤ 1074 by decide)
  rw [← hk] at hvalue
  have hfinite : k * 2 ^ 52 + roundHalfEven (n * 2 ^ 1074) (2 ^ k) < infinityMagnitude := by
    rw [infinityMagnitude]
    generalize roundHalfEven (n * 2 ^ 1074) (2 ^ k) = units at hhigh
    clear low high hvalue
    omega
  rw [hmagnitude, Nat.min_eq_left (Nat.le_of_lt hfinite), multipleOf_add hlow hhigh]
  exact ⟨hfinite, hvalue⟩

/-- The double nearest to an integer, in its parts. -/
theorem parts_ofInt {n : Int} (small : n.natAbs.log2 ≤ 63) :
    (ofInt n).isFinite = true ∧ (ofInt n).multiple = nearestWhole n.natAbs * 2 ^ 1074 ∧
      (ofInt n).isNegative = decide (n < 0) := by
  by_cases hzero : n = 0
  · subst hzero
    decide +kernel
  · obtain ⟨hfinite, hmultiple⟩ := multipleOf_nearestMagnitude (Int.natAbs_pos.2 hzero) small
    have hword := Nat.lt_trans hfinite (show infinityMagnitude < 2 ^ 63 by decide)
    rw [ofInt, ofRatio, multiple_eq_multipleOf, magnitude_ofParts _ hword]
    exact ⟨isFinite_ofParts _ hfinite, hmultiple, isNegative_ofParts _ hword⟩

/-- An integer goes to a double and back as its nearest neighbour among the doubles, cut to 64 bits. -/
theorem toInt64_ofInt {n : Int} (small : n.natAbs.log2 ≤ 63) :
    (ofInt n).toInt64 = clampToInt64 (if n < 0 then -(nearestWhole n.natAbs) else nearestWhole n.natAbs) := by
  obtain ⟨hfinite, hmultiple, hnegative⟩ := parts_ofInt small
  rw [toInt64_of_multiple hfinite hmultiple, hnegative]
  simp only [decide_eq_true_eq]

theorem toInt_clampToInt64 (n : Int) : (clampToInt64 n).toInt = max (-2 ^ 63) (min n (2 ^ 63 - 1)) := by
  have hmin : Int64.minValue.toInt = -2 ^ 63 := by decide
  have hmax : Int64.maxValue.toInt = 2 ^ 63 - 1 := by decide
  rw [clampToInt64, hmin, hmax]
  apply Int64.toInt_ofInt_of_le <;> omega

theorem log2_le_of_lt {n : Nat} (h : n < 2 ^ 64) : n.log2 ≤ 63 := by
  by_cases hzero : n = 0
  · rw [hzero]
    decide
  · exact Nat.le_of_lt_succ ((Nat.log2_lt hzero).2 h)

theorem log2_natAbs_toInt_le (c : Int64) : c.toInt.natAbs.log2 ≤ 63 := by
  have hlow := c.le_toInt
  have hhigh := c.toInt_lt
  exact log2_le_of_lt (by omega)

theorem toInt_toInt64_ofInt (c : Int64) :
    (ofInt c.toInt).toInt64.toInt = if c.toInt < 0 then max (-2 ^ 63) (-(nearestWhole c.toInt.natAbs : Int))
      else min (nearestWhole c.toInt.natAbs) (2 ^ 63 - 1) := by
  have hlow := c.le_toInt
  have hhigh := c.toInt_lt
  rw [toInt64_ofInt (log2_natAbs_toInt_le c), toInt_clampToInt64]
  split <;> omega

/-- The 64-bit integers that a double holds, and the largest one, to which its rounding upwards is cut. -/
theorem toInt64_ofInt_eq_self_iff (c : Int64) :
    (ofInt c.toInt).toInt64 = c ↔ FitsSignificand c.toInt ∨ c = Int64.maxValue := by
  have hlow := c.le_toInt
  have hhigh := c.toInt_lt
  have hmax : Int64.maxValue.toInt = 2 ^ 63 - 1 := by decide
  rw [← Int64.toInt_inj, ← Int64.toInt_inj, toInt_toInt64_ofInt, fitsSignificand_iff, hmax]
  constructor
  · intro h
    by_cases hleast : c.toInt = -2 ^ 63
    · left
      rw [hleast]
      decide +kernel
    · split at h <;> omega
  · rintro (h | h)
    · split <;> omega
    · have hnearest : nearestWhole (2 ^ 63 - 1 : Int).natAbs = 2 ^ 63 := by decide +kernel
      rw [h, hnearest]
      decide

theorem toInt64_ofInt_ne_zero {c : Int64} (h : c ≠ 0) : (ofInt c.toInt).toInt64 ≠ 0 := by
  rw [Ne, ← Int64.toInt_inj, Int64.toInt_zero] at h ⊢
  have hpos := nearestWhole_pos (Int.natAbs_pos.2 h)
  rw [toInt_toInt64_ofInt]
  split <;> omega

theorem multiple_of_isZero {d : Double} (h : d.isZero = true) : d.multiple = 0 := by
  rw [isZero, beq_iff_eq] at h
  rw [multiple, significand, h]
  exact Nat.zero_mul _

theorem isZero_of_multiple {d : Double} {n : Nat} (pos : 0 < n) (h : d.multiple = n * 2 ^ 1074) : d.isZero = false := by
  generalize 1074 = e at h
  refine Bool.eq_false_iff.2 fun hzero => ?_
  rw [multiple_of_isZero hzero] at h
  exact Nat.ne_of_gt (Nat.mul_pos pos (Nat.two_pow_pos e)) h.symm

theorem toInt64_of_isZero {d : Double} (h : d.isZero = true) : d.toInt64 = 0 := by
  have hfinite : d.isFinite = true := by
    rw [isZero, beq_iff_eq] at h
    rw [isFinite, h]
    rfl
  rw [toInt64_of_multiple hfinite ((multiple_of_isZero h).trans (Nat.zero_mul _).symm)]
  split <;> rfl

end SeriesQuery.Double
