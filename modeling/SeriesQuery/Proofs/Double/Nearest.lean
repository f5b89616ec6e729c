import Mathlib.Tactic.Linarith
import Mathlib.Tactic.Positivity
import SeriesQuery.Proofs.Double.Extremes
import SeriesQuery.Proofs.Double.Number
import SeriesQuery.Proofs.Double.Rounding

/-! # The double nearest to a quotient

A quotient from zero on becomes the double such that no other is nearer to it, and of two that are as near the one
whose last bit is zero; from half a unit above the largest double on it becomes infinity. Neighbouring magnitudes are
never both even, so that there is only one such double.
-/

namespace SeriesQuery.Double

/-- A finite number as a multiple of the smallest double above zero. -/
def signedMultiple (d : Double) : Int := if d.isNegative then -(d.multiple : Int) else d.multiple

/-- Of the multiples of `2 ^ k` one is at least as near as any double. -/
theorem exists_multiple_as_near {num den k : Nat} (hden : 0 < den) (low : k = 0 ∨ den * 2 ^ (52 + k) ≤ num)
    (d : Double) :
    ∃ v : Int, (v * (den * 2 ^ k : Nat) - num).natAbs ≤ (d.signedMultiple * den - num).natAbs ∧
      ((v * (den * 2 ^ k : Nat) - num).natAbs = (d.signedMultiple * den - num).natAbs →
        d.signedMultiple = v * (2 ^ k : Nat)) := by
  rw [signedMultiple, multiple_eq_multipleOf]
  generalize d.magnitude = m
  cases d.isNegative with
  | true =>
    -- Zero is nearer than what is below it.
    refine ⟨0, ?_⟩
    simp only [if_true, Int.neg_mul, Int.zero_mul]
    by_cases hzero : multipleOf m = 0
    · simp [hzero]
    · have hpos : 0 < (multipleOf m : Int) * den := by exact_mod_cast Nat.mul_pos (Nat.pos_of_ne_zero hzero) hden
      omega
  | false =>
    simp only [Bool.false_eq_true, if_false]
    by_cases hdvd : 2 ^ k ∣ multipleOf m
    · obtain ⟨v, hv⟩ := hdvd
      have hself : (v : Int) * (den * 2 ^ k : Nat) = (multipleOf m : Int) * den := by
        rw [hv]
        push_cast
        ring
      refine ⟨v, by rw [hself], fun _ => ?_⟩
      rw [hv, Int.natCast_mul, Int.mul_comm]
    · -- What is no multiple is less than the first of those with all digits.
      have hlt : multipleOf m < 2 ^ (52 + k) := by
        by_contra h
        exact hdvd (dvd_multipleOf (Nat.not_lt.1 h))
      have hk : k ≠ 0 := by
        rintro rfl
        exact hdvd (Nat.one_dvd _)
      have hfirst : den * 2 ^ (52 + k) ≤ num := low.resolve_left hk
      have hnearer : multipleOf m * den < den * 2 ^ (52 + k) := by
        rw [Nat.mul_comm]
        exact Nat.mul_lt_mul_of_pos_left hlt hden
      have hunit : (2 : Int) ^ 52 * (den * 2 ^ k : Nat) = (den * 2 ^ (52 + k) : Nat) := by
        push_cast
        ring
      refine ⟨2 ^ 52, ?_⟩
      rw [hunit, ← Int.natCast_mul]
      omega

/-- No double is nearer than the multiple to which is rounded. -/
theorem roundHalfEven_as_near {num den k : Nat} (hden : 0 < den) (low : k = 0 ∨ den * 2 ^ (52 + k) ≤ num)
    (d : Double) :
    (roundHalfEven num (den * 2 ^ k) * (den * 2 ^ k : Nat) - num : Int).natAbs ≤
        (d.signedMultiple * den - num).natAbs ∧
      ((roundHalfEven num (den * 2 ^ k) * (den * 2 ^ k : Nat) - num : Int).natAbs =
          (d.signedMultiple * den - num).natAbs →
        d.signedMultiple = roundHalfEven num (den * 2 ^ k) * (2 ^ k : Nat) ∨
          roundHalfEven num (den * 2 ^ k) % 2 = 0) := by
  obtain ⟨v, hnear, hsame⟩ := exists_multiple_as_near hden low d
  obtain ⟨hround, htie⟩ := roundHalfEven_nearest num (Nat.mul_pos hden (Nat.two_pow_pos k)) v
  refine ⟨Nat.le_trans hround hnear, fun hequal => ?_⟩
  have hmiddle := Nat.le_antisymm hround (Nat.le_trans hnear (Nat.le_of_eq hequal.symm))
  rcases htie hmiddle with hv | heven
  · left
    rw [hsame (hmiddle.symm.trans hequal), hv]
  · exact .inr heven

/-- Half a unit above the largest finite double. -/
def overflow : ℚ := (2 ^ 54 - 1) * 2 ^ 970

/-- What a number from zero on is rounded to: infinity from the overflow on, and else a double such that no other
is nearer, and with zero as its last bit where one is as near. -/
structure IsNearest (x : ℚ) (d : Double) : Prop where
  positive : d.isNegative = false
  infinite : overflow ≤ x → d = infinity
  nearest : x < overflow → ∃ q, d.number = .finite q ∧ ∀ e r, number e = .finite r →
    |q - x| ≤ |r - x| ∧ (|q - x| = |r - x| → r = q ∨ d.magnitude % 2 = 0)

theorem number_eq_finite_iff {d : Double} {q : ℚ} :
    d.number = .finite q ↔ d.isFinite = true ∧ q = d.signedMultiple / 2 ^ 1074 := by
  rw [number, signedMultiple]
  generalize 1074 = e
  by_cases hfinite : d.isFinite = true
  · rw [isNaN_of_isFinite hfinite, hfinite]
    cases d.isNegative <;> simp [eq_comm]
  · simp only [hfinite]
    split <;> simp

theorem abs_sub_ratio (z : Int) (num : Nat) {den : Nat} (hden : 0 < den) (e : Nat) :
    |(z : ℚ) / 2 ^ e - num / den| = ((z * den - (num * 2 ^ e : Nat)).natAbs : ℚ) / (2 ^ e * den) := by
  have hpower : (0 : ℚ) < 2 ^ e := by positivity
  have hden' : (0 : ℚ) < den := by exact_mod_cast hden
  rw [div_sub_div _ _ hpower.ne' hden'.ne', abs_div, abs_of_pos (mul_pos hpower hden'), Nat.cast_natAbs]
  push_cast
  rw [mul_comm (num : ℚ)]

theorem lt_overflow_iff (num : Nat) {den : Nat} (hden : 0 < den) :
    (num : ℚ) / den < overflow ↔ num * 2 ^ 1074 < (2 ^ 54 - 1) * (den * 2 ^ 2044) := by
  have hden' : (0 : ℚ) < den := by exact_mod_cast hden
  have hpower : 2 ^ 2044 = 2 ^ 970 * 2 ^ 1074 := by rw [← Nat.pow_add]
  have hcast : (2 : ℚ) ^ 54 - 1 = (2 ^ 54 - 1 : Nat) := by norm_num
  rw [overflow, div_lt_iff₀ hden', hcast, hpower]
  generalize 1074 = e
  generalize 970 = f
  have hassoc : (2 ^ 54 - 1) * (den * (2 ^ f * 2 ^ e)) = (2 ^ 54 - 1) * 2 ^ f * den * 2 ^ e := by ring
  rw [hassoc, Nat.mul_lt_mul_right (Nat.two_pow_pos e)]
  exact_mod_cast Iff.rfl

theorem isNearest_ofRatio (num : Nat) {den : Nat} (hden : 0 < den) :
    (ofRatio false num den).IsNearest (num / den) := by
  obtain ⟨k, hmagnitude, low, high⟩ := exists_rounding num hden
  have hlast (units : Nat) : (k * 2 ^ 52 + units) % 2 = units % 2 := by
    clear low high hmagnitude
    omega
  obtain ⟨hlow, hhigh⟩ := roundHalfEven_units hden low high
  have hbound := lt_infinityMagnitude_iff hden low high
  rw [← lt_overflow_iff num hden] at hbound
  have hnearest := roundHalfEven_as_near hden low
  generalize roundHalfEven (num * 2 ^ 1074) (den * 2 ^ k) = units at *
  rw [ofRatio, hmagnitude]
  by_cases hx : (num : ℚ) / den < overflow
  · have hfinite := hbound.2 hx
    have hword : k * 2 ^ 52 + units < 2 ^ 63 := Nat.lt_trans hfinite (by decide)
    rw [Nat.min_eq_left (Nat.le_of_lt hfinite)]
    have hpositive := isNegative_ofParts false hword
    refine ⟨hpositive, fun h => absurd hx (not_lt.2 h), fun _ => ?_⟩
    have hself : (ofParts false (k * 2 ^ 52 + units)).signedMultiple = units * (2 ^ k : Nat) := by
      rw [signedMultiple, hpositive, multiple_eq_multipleOf, magnitude_ofParts _ hword, multipleOf_add hlow hhigh]
      exact Int.natCast_mul _ _
    refine ⟨_, number_eq_finite_iff.2 ⟨isFinite_ofParts _ hfinite, rfl⟩, fun e r he => ?_⟩
    obtain ⟨-, rfl⟩ := number_eq_finite_iff.1 he
    obtain ⟨hnear, htie⟩ := hnearest e
    have hscale : (0 : ℚ) < 2 ^ 1074 * den := mul_pos (pow_pos two_pos _) (by exact_mod_cast hden)
    have hunits : (units : Int) * (2 ^ k : Nat) * den = units * (den * 2 ^ k : Nat) := by
      push_cast
      ring
    rw [abs_sub_ratio _ num hden, abs_sub_ratio _ num hden, div_le_div_iff_of_pos_right hscale,
      div_left_inj' hscale.ne', Nat.cast_le, Nat.cast_inj, magnitude_ofParts _ hword, hself, hunits, hlast]
    refine ⟨hnear, fun hequal => (htie hequal).imp_left fun hsame => ?_⟩
    rw [hsame]
  · have hinfinite := not_lt.1 (mt hbound.1 hx)
    rw [Nat.min_eq_right hinfinite]
    exact ⟨by decide, fun _ => by decide, fun h => absurd h hx⟩

theorem eq_multipleOf_of_positive {d : Double} (hd : d.isNegative = false) {q : ℚ} (hq : d.number = .finite q) :
    q = multipleOf d.magnitude / 2 ^ 1074 := by
  obtain ⟨-, rfl⟩ := number_eq_finite_iff.1 hq
  rw [signedMultiple, hd, multiple_eq_multipleOf]
  rfl

/-- Of two doubles that a number is rounded to none is greater: both would be even, and the double between them
would be nearer. -/
theorem IsNearest.magnitude_le {x : ℚ} {d e : Double} (hd : d.IsNearest x) (he : e.IsNearest x) (hx : x < overflow) :
    e.magnitude ≤ d.magnitude := by
  obtain ⟨q, hq, hnear⟩ := hd.nearest hx
  obtain ⟨r, hr, hnear'⟩ := he.nearest hx
  by_contra hlt
  rw [Nat.not_le] at hlt
  have hincreases {m n : Nat} (h : m < n) : (multipleOf m : ℚ) / 2 ^ 1074 < multipleOf n / 2 ^ 1074 :=
    div_lt_div_of_pos_right (by exact_mod_cast multipleOf_strictMono h) (pow_pos two_pos _)
  have hqr : q < r := by
    rw [eq_multipleOf_of_positive hd.positive hq, eq_multipleOf_of_positive he.positive hr]
    exact hincreases hlt
  have hequal : |q - x| = |r - x| := le_antisymm (hnear e r hr).1 (hnear' d q hq).1
  have hdEven := ((hnear e r hr).2 hequal).resolve_left hqr.ne'
  have heEven := ((hnear' d q hq).2 hequal.symm).resolve_left hqr.ne
  have heFinite := (number_eq_finite_iff.1 hr).1
  rw [isFinite, decide_eq_true_eq] at heFinite
  have hfinite : d.magnitude + 1 < infinityMagnitude := by omega
  have hword : d.magnitude + 1 < 2 ^ 63 := Nat.lt_trans hfinite (by decide)
  obtain ⟨s, hs⟩ : ∃ s, (ofParts false (d.magnitude + 1)).number = .finite s :=
    ⟨_, number_eq_finite_iff.2 ⟨isFinite_ofParts _ hfinite, rfl⟩⟩
  have hbetween : q < s ∧ s < r := by
    have hvalue := eq_multipleOf_of_positive (isNegative_ofParts false hword) hs
    rw [magnitude_ofParts _ hword] at hvalue
    rw [hvalue, eq_multipleOf_of_positive hd.positive hq, eq_multipleOf_of_positive he.positive hr]
    exact ⟨hincreases (Nat.lt_succ_self _), hincreases (by omega)⟩
  have hmiddle : q - x = -(r - x) := (abs_eq_abs.1 hequal).resolve_left fun h => hqr.ne (sub_left_injective h)
  have hinside : |s - x| < |q - x| := by
    have hleft : q - x < 0 := by linarith
    rw [abs_of_neg hleft, abs_lt]
    constructor <;> linarith [hbetween.1, hbetween.2]
  exact absurd (hnear _ s hs).1 (not_le.2 hinside)

theorem IsNearest.unique {x : ℚ} {d e : Double} (hd : d.IsNearest x) (he : e.IsNearest x) : d = e := by
  by_cases hx : x < overflow
  · apply eq_of_isNegative_of_magnitude (hd.positive.trans he.positive.symm)
    exact Nat.le_antisymm (he.magnitude_le hd hx) (hd.magnitude_le he hx)
  · exact (hd.infinite (not_lt.1 hx)).trans (he.infinite (not_lt.1 hx)).symm

/-- The double of a quotient is the one that the quotient is rounded to. -/
theorem isNearest_iff (num : Nat) {den : Nat} (hden : 0 < den) (d : Double) :
    d.IsNearest (num / den) ↔ d = ofRatio false num den :=
  ⟨fun h => h.unique (isNearest_ofRatio num hden), fun h => h ▸ isNearest_ofRatio num hden⟩

end SeriesQuery.Double
