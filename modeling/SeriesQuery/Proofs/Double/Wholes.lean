import SeriesQuery.Double.Text
import SeriesQuery.Proofs.Double.Integers
import SeriesQuery.Proofs.Double.Shortest

/-! # The digits of whole numbers

Below `2 ^ 53` a whole number is in its own interval and no other one is, so that a grid of whole numbers meets the
interval exactly where the number is on it. The search ends with such a grid, because at the latest the one that has
all whole numbers does; where it ends and how many zeros are cut off does not matter to what is written, which is the
integer and a fraction of zero.
-/

namespace SeriesQuery.Double

/-- The significand of a whole number that is less than `2 ^ 53`: the number itself, shifted until it is full. -/
structure IsWhole (d : Double) (n shift : Nat) : Prop where
  significand : d.significand = (n * 2 ^ shift, -(shift : Int))
  full : (n * 2 ^ shift).log2 = 52

/-- A full significand that stands for a small number has been shifted to be full. -/
theorem exists_shift {m n k e : Nat} (full : 2 ^ 52 ≤ m ∨ k = 0) (high : m < 2 ^ 53) (pos : 0 < n) (small : n < 2 ^ 53)
    (he : 53 ≤ e) (h : m * 2 ^ k = n * 2 ^ e) : ∃ shift, e = shift + k ∧ m = n * 2 ^ shift ∧ 2 ^ 52 ≤ m := by
  have hfull : 2 ^ 52 ≤ m := by
    refine full.resolve_right fun hzero => ?_
    have hpower : 2 ^ 53 ≤ 2 ^ e := Nat.pow_le_pow_right (by decide) he
    have hle : 1 * 2 ^ e ≤ n * 2 ^ e := Nat.mul_le_mul_right _ pos
    rw [hzero, Nat.pow_zero, Nat.mul_one] at h
    omega
  have hk : k ≤ e := by
    by_contra hlt
    have hlarge : 2 ^ 52 * 2 ^ (e + 1) ≤ m * 2 ^ k :=
      Nat.mul_le_mul hfull (Nat.pow_le_pow_right (by decide) (Nat.not_le.1 hlt))
    have hless : n * 2 ^ e < 2 ^ 53 * 2 ^ e := Nat.mul_lt_mul_of_pos_right small (Nat.two_pow_pos e)
    rw [Nat.pow_succ] at hlarge
    omega
  obtain ⟨shift, rfl⟩ := Nat.exists_eq_add_of_le' hk
  rw [Nat.pow_add, ← Nat.mul_assoc] at h
  exact ⟨shift, rfl, Nat.eq_of_mul_eq_mul_right (Nat.two_pow_pos k) h, hfull⟩

theorem exists_isWhole {d : Double} {n : Nat} (pos : 0 < n) (small : n < 2 ^ 53) (h : d.multiple = n * 2 ^ 1074) :
    ∃ shift, d.IsWhole n shift := by
  obtain ⟨high, full⟩ := significand_fst_bounds d
  have hlow := significand_snd_ge d
  obtain ⟨shift, hshift, hself, hfull⟩ := exists_shift (full.imp_right fun hq => by omega) high pos small (by decide) h
  refine ⟨shift, Prod.ext hself ?_, ?_⟩
  · simp only
    omega
  · rw [← hself]
    exact (Nat.log2_eq_iff (by omega)).2 ⟨hfull, high⟩

/-- Both sides of the common scale for a grid of whole numbers. -/
theorem onCommonScale_grid (value grid shift k : Nat) :
    onCommonScale value (-((shift + 2 : Nat) : Int)) grid k = (value, grid * 10 ^ k * 2 ^ shift * 4) := by
  have hscale : grid * 10 ^ k * 2 ^ shift * 4 = grid * 2 ^ (shift + 2) * 10 ^ k := by
    rw [Nat.pow_add]
    ring
  have hnegative : ¬ 0 ≤ -((shift + 2 : Nat) : Int) := by omega
  rw [hscale]
  simp only [onCommonScale, hnegative, if_false, Int.neg_neg, Int.toNat_natCast, Int.natCast_nonneg, if_true,
    Nat.pow_eq]

namespace IsWhole

variable {d : Double} {n shift : Nat} (h : d.IsWhole n shift)

include h

theorem pos : 0 < n * 2 ^ shift := by
  refine Nat.pos_of_ne_zero fun hzero => ?_
  have hfull := h.full
  rw [hzero] at hfull
  cases hfull

theorem shift_le : shift ≤ 52 := by
  rw [← h.full, Nat.le_log2 (Nat.ne_of_gt h.pos)]
  exact Nat.le_mul_of_pos_left _ (Nat.pos_of_mul_pos_right h.pos)

theorem unit_interval : d.interval.unit = -((shift + 2 : Nat) : Int) := by
  rw [interval, h.significand]
  simp only
  omega

/-- On a grid of whole numbers nothing is in the interval but the number itself. -/
theorem contains_iff (grid k : Nat) : d.interval.contains grid k = true ↔ grid * 10 ^ k = n := by
  have hpos := h.pos
  rw [← Nat.mul_left_inj (Nat.ne_of_gt (Nat.two_pow_pos shift)), Interval.contains, h.unit_interval]
  simp only [onCommonScale_grid, interval, h.significand]
  generalize grid * 10 ^ k * 2 ^ shift = point
  split <;> split <;> simp only [decide_eq_true_eq] <;> omega

theorem candidate?_eq (tie : Tie) {count k : Nat} (hstep : d.pointPosition - count = k) :
    candidate? tie d count = if 10 ^ k ∣ n then some ⟨n / 10 ^ k, k⟩ else none := by
  have hbelow : d.interval.middle / (1 * 10 ^ k * 2 ^ shift * 4) = n / 10 ^ k := by
    have hmiddle : d.interval.middle = n * (2 ^ shift * 4) := by
      rw [interval, h.significand]
      ring
    rw [hmiddle, Nat.one_mul, Nat.mul_assoc, Nat.mul_div_mul_right _ _ (Nat.mul_pos (Nat.two_pow_pos _) (by decide))]
  have habove : d.interval.contains (n / 10 ^ k + 1) k = false := by
    rw [Bool.eq_false_iff, Ne, h.contains_iff]
    exact Nat.ne_of_gt (Nat.lt_mul_of_div_lt (Nat.lt_succ_self _) (Nat.pow_pos (by decide)))
  have hfits : d.interval.contains (n / 10 ^ k) k = decide (10 ^ k ∣ n) := by
    rw [Bool.eq_iff_iff, h.contains_iff, decide_eq_true_eq]
    exact ⟨fun hn => ⟨_, by rw [Nat.mul_comm]; exact hn.symm⟩, Nat.div_mul_cancel⟩
  simp only [candidate?, hstep, h.unit_interval, onCommonScale_grid, hbelow, hfits, habove]
  by_cases hdvd : 10 ^ k ∣ n <;> simp [hdvd]

theorem pointPosition_bounds : 1 ≤ d.pointPosition ∧ d.pointPosition ≤ 17 := by
  have hle := h.shift_le
  have hestimate : 0 ≤ Int.fdiv (((52 : Nat) + -(shift : Int)) * 30103) 100000 ∧
      Int.fdiv (((52 : Nat) + -(shift : Int)) * 30103) 100000 ≤ 15 := by
    rw [Int.fdiv_eq_ediv_of_nonneg _ (by decide)]
    omega
  rw [pointPosition, h.significand]
  simp only [h.full]
  split <;> omega

end IsWhole

/-- A decimal without a fraction. -/
def Decimal.IsWhole (x : Decimal) (n : Nat) : Prop := ∃ k : Nat, x.exponent = k ∧ x.digits * 10 ^ k = n

theorem Decimal.IsWhole.strip {x : Decimal} {n : Nat} (h : x.IsWhole n) (fuel : Nat) : (x.strip fuel).IsWhole n := by
  induction fuel generalizing x with
  | zero => exact h
  | succ fuel ih =>
    rw [Decimal.strip]
    split
    · rename_i htens
      obtain ⟨k, hexponent, hdigits⟩ := h
      refine ih ⟨k + 1, congrArg (· + 1) hexponent, ?_⟩
      rw [← hdigits, Nat.pow_succ', ← Nat.mul_assoc]
      congr 1
      exact Nat.div_mul_cancel (Nat.dvd_of_mod_eq_zero htens.2)
    · exact h

/-- The search ends with the number itself, at the latest on the grid of all whole numbers. -/
theorem isWhole_searchFrom {d : Double} {n shift : Nat} (h : d.IsWhole n shift) (tie : Tie) {count fuel : Nat}
    (hlow : count ≤ d.pointPosition) (hhigh : d.pointPosition ≤ count + fuel) :
    (searchFrom tie d count fuel).IsWhole n := by
  obtain ⟨k, hk⟩ := Int.eq_ofNat_of_zero_le (show 0 ≤ d.pointPosition - count by omega)
  have hfound {k : Nat} (hdvd : 10 ^ k ∣ n) : (⟨n / 10 ^ k, k⟩ : Decimal).IsWhole n := ⟨k, rfl, Nat.div_mul_cancel hdvd⟩
  induction fuel generalizing count k with
  | zero =>
    obtain rfl : k = 0 := by omega
    have hdvd : 10 ^ 0 ∣ n := Nat.one_dvd n
    rw [searchFrom.eq_def]
    simp only [h.candidate?_eq tie hk, if_pos hdvd, Option.getD_some]
    exact hfound hdvd
  | succ fuel ih =>
    rw [searchFrom.eq_def]
    simp only [h.candidate?_eq tie hk]
    by_cases hdvd : 10 ^ k ∣ n
    · simp only [if_pos hdvd]
      exact hfound hdvd
    · -- The next grid is ten times as fine, and the finest one that is needed has not been reached.
      have hpos : k ≠ 0 := fun hzero => hdvd (hzero ▸ Nat.one_dvd n)
      simp only [if_neg hdvd]
      exact ih (by omega) (by omega) (k - 1) (by omega)

theorem isWhole_shortest {d : Double} {n shift : Nat} (h : d.IsWhole n shift) (tie : Tie) :
    (d.shortest tie).IsWhole n := by
  obtain ⟨hlow, hhigh⟩ := h.pointPosition_bounds
  have hfound : (searchFrom tie d 1 16).IsWhole n := isWhole_searchFrom h tie hlow hhigh
  exact hfound.strip 17

/-! ## Text -/

/-- A power of ten puts zeros behind the digits. -/
theorem toDigits_mul_pow {m : Nat} (pos : 0 < m) (k : Nat) :
    Nat.toDigits 10 (m * 10 ^ k) = Nat.toDigits 10 m ++ zeros k := by
  induction k with
  | zero => simp [zeros]
  | succ k ih =>
    have hscaled : m * 10 ^ (k + 1) = 10 * (m * 10 ^ k) := by rw [Nat.pow_succ', Nat.mul_left_comm]
    have hlarge : 10 ≤ 10 * (m * 10 ^ k) := Nat.le_mul_of_pos_right 10 (Nat.mul_pos pos (Nat.pow_pos (by decide)))
    rw [hscaled, Nat.toDigits_of_base_le (by decide) hlarge, Nat.mul_div_cancel_left _ (by decide), Nat.mul_mod_right,
      ih, List.append_assoc]
    exact congrArg _ List.replicate_succ'.symm

/-- A whole number with at most sixteen digits is placed as it is. -/
theorem Decimal.IsWhole.place {x : Decimal} {n : Nat} (h : x.IsWhole n) (pos : 0 < n) (small : n < 10 ^ 16) :
    let digits := (toString x.digits).toList
    let point := (digits.length : Int) + x.exponent
    Layout.json.positional point = true ∧ Layout.json.place digits point = Nat.toDigits 10 n ++ ['.', '0'] := by
  obtain ⟨k, hexponent, rfl⟩ := h
  have hdigits : (toString x.digits).toList = Nat.toDigits 10 x.digits := Nat.toList_repr
  have hlength := (Nat.length_toDigits_le_iff (by decide) (by decide)).2 small
  have htext := toDigits_mul_pow (Nat.pos_of_mul_pos_right pos) k
  have hpos : 0 < (Nat.toDigits 10 x.digits).length := Nat.length_toDigits_pos
  rw [htext, zeros, List.length_append, List.length_replicate] at hlength
  simp only [hdigits, hexponent, htext]
  constructor
  · exact decide_eq_true (by omega)
  · have hwhole : ((Nat.toDigits 10 x.digits).length + (k : Int)).toNat = (Nat.toDigits 10 x.digits).length + k := by
      omega
    rw [Layout.place, if_neg (by omega)]
    simp only [hwhole, Nat.le_add_right, if_true, Nat.add_sub_cancel_left]
    rfl

/-- A whole number of less than `2 ^ 53` is written like the integer, with a fraction of zero. -/
theorem chars_ofInt {n : Int} (small : n.natAbs < 2 ^ 53) :
    Layout.json.chars (ofInt n) =
      if n < 0 then '-' :: (Nat.toDigits 10 n.natAbs ++ ['.', '0']) else Nat.toDigits 10 n.natAbs ++ ['.', '0'] := by
  by_cases hzero : n = 0
  · subst hzero
    decide +kernel
  · have hpos : 0 < n.natAbs := Int.natAbs_pos.2 hzero
    obtain ⟨-, hmultiple, hnegative⟩ := parts_ofInt (log2_le_of_lt (show n.natAbs < 2 ^ 64 by omega))
    rw [nearestWhole_of_lt small] at hmultiple
    obtain ⟨shift, hwhole⟩ := exists_isWhole hpos small hmultiple
    obtain ⟨hpositional, hplace⟩ := (isWhole_shortest hwhole Layout.json.tie).place hpos (by omega)
    unfold Layout.chars
    simp only [isZero_of_multiple hpos hmultiple, Bool.false_eq_true, if_false, hpositional, if_true, hplace, hnegative,
      decide_eq_true_eq]

end SeriesQuery.Double
