import Mathlib.Algebra.GroupWithZero.Nat
import Mathlib.Order.Monotone.Basic
import Mathlib.Tactic.Ring
import SeriesQuery.Double.Rounding

/-! # Rounding a quotient to a magnitude

A quotient is rounded to a multiple of a power of two, half-way to the even one: of the power in which it has
fifty-three digits, or of the smallest there is. Magnitudes grow with the multiples that they stand for, and from some
size on all of these are multiples of one power of two, so that no other magnitude comes between the quotient and the
multiple that it is rounded to.
-/

namespace SeriesQuery.Double

/-! ## Parts -/

section Parts

variable (negative : Bool) {m : Nat}

theorem toNat_bits_ofParts (h : m < 2 ^ 63) :
    (ofParts negative m).bits.toNat = (if negative then 2 ^ 63 + m else m) := by
  rw [ofParts]
  simp only [Nat.pow_eq]
  rw [UInt64.toNat_ofNat']
  apply Nat.mod_eq_of_lt
  split <;> omega

theorem magnitude_ofParts (h : m < 2 ^ 63) : (ofParts negative m).magnitude = m := by
  rw [magnitude, toNat_bits_ofParts _ h, Nat.pow_eq]
  split <;> omega

theorem isNegative_ofParts (h : m < 2 ^ 63) : (ofParts negative m).isNegative = negative := by
  rw [isNegative, toNat_bits_ofParts _ h, Nat.pow_eq]
  cases negative with
  | false => simpa using h
  | true => simp

theorem isFinite_ofParts (h : m < infinityMagnitude) : (ofParts negative m).isFinite = true := by
  rw [isFinite, magnitude_ofParts _ (Nat.lt_trans h (by decide))]
  exact decide_eq_true h

end Parts

/-! ## Magnitudes as multiples -/

/-- The absolute value of a finite number as a multiple of the smallest one above zero. -/
def multiple (d : Double) : Nat := d.significand.1 * 2 ^ (d.significand.2 + 1074).toNat

/-- The number of a finite magnitude as a multiple of the smallest above zero. -/
def multipleOf (magnitude : Nat) : Nat :=
  if magnitude / 2 ^ 52 = 0 then magnitude % 2 ^ 52
  else (2 ^ 52 + magnitude % 2 ^ 52) * 2 ^ (magnitude / 2 ^ 52 - 1)

theorem multiple_eq_multipleOf (d : Double) : d.multiple = multipleOf d.magnitude := by
  rw [multiple, significand, multipleOf]
  simp only [Nat.pow_eq]
  generalize d.magnitude = m
  split
  · simp
  · have hpower : ((m / 2 ^ 52 : Nat) - 1075 + 1074 : Int).toNat = m / 2 ^ 52 - 1 := by omega
    rw [hpower]

/-- Neighbouring doubles have neighbouring patterns, also where a significand is full. -/
theorem multipleOf_add {k units : Nat} (low : k = 0 ∨ 2 ^ 52 ≤ units) (high : units ≤ 2 ^ 53) :
    multipleOf (k * 2 ^ 52 + units) = units * 2 ^ k := by
  rw [multipleOf]
  by_cases hsmall : units < 2 ^ 52
  · obtain rfl : k = 0 := by omega
    rw [if_pos (by omega), Nat.zero_mul, Nat.zero_add, Nat.pow_zero, Nat.mul_one, Nat.mod_eq_of_lt hsmall]
  rw [if_neg (by omega)]
  by_cases hfull : units = 2 ^ 53
  · have hfraction : (k * 2 ^ 52 + units) % 2 ^ 52 = 0 := by omega
    have hpower : (k * 2 ^ 52 + units) / 2 ^ 52 - 1 = k + 1 := by omega
    rw [hfraction, hpower, hfull, Nat.pow_succ 2 k]
    omega
  · have hfraction : (k * 2 ^ 52 + units) % 2 ^ 52 = units - 2 ^ 52 := by omega
    have hpower : (k * 2 ^ 52 + units) / 2 ^ 52 - 1 = k := by omega
    rw [hfraction, hpower, Nat.add_sub_cancel' (by omega)]

theorem exists_units (m : Nat) :
    ∃ k units, m = k * 2 ^ 52 + units ∧ (k = 0 ∨ 2 ^ 52 ≤ units) ∧ units < 2 ^ 53 := by
  by_cases hsmall : m < 2 ^ 52
  · exact ⟨0, m, by omega, .inl rfl, by omega⟩
  · exact ⟨m / 2 ^ 52 - 1, 2 ^ 52 + m % 2 ^ 52, by omega, .inr (by omega), by omega⟩

theorem multipleOf_strictMono : StrictMono multipleOf := by
  refine strictMono_nat_of_lt_succ fun m => ?_
  obtain ⟨k, units, rfl, low, high⟩ := exists_units m
  rw [Nat.add_assoc, multipleOf_add low (by omega), multipleOf_add (low.imp_right (by omega)) high]
  exact Nat.mul_lt_mul_of_pos_right (Nat.lt_succ_self units) (Nat.two_pow_pos k)

/-- From `2 ^ (52 + k)` on every number is a multiple of `2 ^ k`. -/
theorem dvd_multipleOf {m k : Nat} (h : 2 ^ (52 + k) ≤ multipleOf m) : 2 ^ k ∣ multipleOf m := by
  obtain ⟨j, units, rfl, low, high⟩ := exists_units m
  rw [multipleOf_add low (Nat.le_of_lt high)] at h ⊢
  have hlt : 2 ^ (52 + k) < 2 ^ (53 + j) := by
    rw [Nat.pow_add 2 53 j]
    exact Nat.lt_of_le_of_lt h (Nat.mul_lt_mul_of_pos_right high (Nat.two_pow_pos j))
  have hle := (Nat.pow_lt_pow_iff_right (by decide)).1 hlt
  exact Nat.dvd_mul_left_of_dvd (Nat.pow_dvd_pow 2 (by omega)) units

/-! ## Rounding to integers -/

/-- Rounding goes down or up to the nearer side, and from the middle to the even one. -/
theorem roundHalfEven_cases (num den : Nat) :
    roundHalfEven num den = num / den ∧ 2 * (num % den) ≤ den ∧
        (2 * (num % den) = den → roundHalfEven num den % 2 = 0) ∨
      roundHalfEven num den = num / den + 1 ∧ den ≤ 2 * (num % den) ∧
        (den = 2 * (num % den) → roundHalfEven num den % 2 = 0) := by
  unfold roundHalfEven
  grind

theorem roundHalfEven_mul_eq_iff {num den : Nat} (pos : 0 < den) :
    roundHalfEven num den * den = num ↔ den ∣ num := by
  constructor
  · intro h
    exact ⟨_, by rw [Nat.mul_comm, h]⟩
  · intro h
    have hmod : num % den = 0 := Nat.mod_eq_zero_of_dvd h
    rcases roundHalfEven_cases num den with ⟨hround, -⟩ | ⟨-, hle⟩
    · rw [hround, Nat.div_mul_cancel h]
    · omega

theorem le_roundHalfEven {num den m : Nat} (pos : 0 < den) (h : m * den ≤ num) : m ≤ roundHalfEven num den := by
  have hle : m ≤ num / den := (Nat.le_div_iff_mul_le pos).2 h
  rcases roundHalfEven_cases num den with ⟨hround, -⟩ | ⟨hround, -⟩ <;> omega

theorem roundHalfEven_le {num den m : Nat} (pos : 0 < den) (h : num < m * den) : roundHalfEven num den ≤ m := by
  have hlt : num / den < m := (Nat.div_lt_iff_lt_mul pos).2 h
  rcases roundHalfEven_cases num den with ⟨hround, -⟩ | ⟨hround, -⟩ <;> omega

theorem roundHalfEven_mul_mul {c : Nat} (pos : 0 < c) (num den : Nat) :
    roundHalfEven (num * c) (den * c) = roundHalfEven num den := by
  have hmod : 2 * (num % den * c) = 2 * (num % den) * c := (Nat.mul_assoc _ _ _).symm
  simp only [roundHalfEven, Nat.mul_div_mul_right num den pos, Nat.mul_mod_mul_right, hmod,
    Nat.mul_lt_mul_right pos]

/-- No integer is nearer, and one that is as near leaves the even one. -/
theorem roundHalfEven_nearest (num : Nat) {den : Nat} (pos : 0 < den) (v : Int) :
    (roundHalfEven num den * den - num : Int).natAbs ≤ (v * den - num).natAbs ∧
      ((roundHalfEven num den * den - num : Int).natAbs = (v * den - num).natAbs →
        v = roundHalfEven num den ∨ roundHalfEven num den % 2 = 0) := by
  have hdiv : (num / den : Nat) * (den : Int) + (num % den : Nat) = num := by exact_mod_cast Nat.div_add_mod' num den
  have hmod := Nat.mod_lt num pos
  have hplaces : v * den + den ≤ (num / den : Nat) * (den : Int) ∨ v = (num / den : Nat) ∨
      v = (num / den : Nat) + 1 ∨ (num / den : Nat) * (den : Int) + 2 * den ≤ v * den := by
    generalize num / den = quotient
    rcases Int.lt_trichotomy v quotient with hlt | heq | hgt
    · left
      have hle := Int.mul_le_mul_of_nonneg_right (show v + 1 ≤ quotient from hlt) (Int.natCast_nonneg den)
      rwa [Int.add_mul, Int.one_mul] at hle
    · exact .inr (.inl heq)
    · by_cases hnext : v = quotient + 1
      · exact .inr (.inr (.inl hnext))
      · right; right; right
        have hle := Int.mul_le_mul_of_nonneg_right (show (quotient : Int) + 2 ≤ v by omega) (Int.natCast_nonneg den)
        rwa [Int.add_mul] at hle
  have hnext : ((num / den : Nat) + 1 : Int) * den = (num / den : Nat) * (den : Int) + den := by
    rw [Int.add_mul, Int.one_mul]
  have hcases := roundHalfEven_cases num den
  generalize roundHalfEven num den = rounded at *
  generalize num / den = quotient at *
  generalize num % den = remainder at *
  rcases hcases with ⟨rfl, hhalf, heven⟩ | ⟨rfl, hhalf, heven⟩ <;> push_cast
  · rcases hplaces with hplace | rfl | rfl | hplace <;> omega
  · rcases hplaces with hplace | rfl | rfl | hplace <;> omega

/-- Numbers are rounded below an even integer exactly if they lie below the middle before it. -/
theorem roundHalfEven_lt_iff {num half m : Nat} (pos : 0 < half) (hm : 0 < m) (even : m % 2 = 0) :
    roundHalfEven num (2 * half) < m ↔ num < (2 * m - 1) * half := by
  have hdiv : num / (2 * half) * (2 * half) + num % (2 * half) = num := Nat.div_add_mod' num _
  have hmod := Nat.mod_lt num (show 0 < 2 * half by omega)
  have hmiddle : (2 * m - 1) * half + half = m * (2 * half) := by
    rw [← Nat.succ_mul, Nat.succ_eq_add_one, Nat.sub_add_cancel (by omega)]
    ring
  have hcases := roundHalfEven_cases num (2 * half)
  generalize roundHalfEven num (2 * half) = rounded at *
  generalize num / (2 * half) = quotient at *
  rcases Nat.lt_trichotomy (quotient + 1) m with hlt | rfl | hgt
  · have hle := Nat.mul_le_mul_right (2 * half) (show quotient + 2 ≤ m from hlt)
    rw [Nat.add_mul] at hle
    omega
  · rw [Nat.add_mul] at hmiddle
    omega
  · have hle := Nat.mul_le_mul_right (2 * half) (show m ≤ quotient by omega)
    omega

/-! ## The unit of a quotient -/

/-- The integer part of the logarithm, said without negative exponents. -/
theorem floorLog2_spec {num den : Nat} (hnum : 0 < num) (hden : 0 < den) :
    (∀ s t : Nat, (t : Int) ≤ floorLog2 num den + s → den * 2 ^ t ≤ num * 2 ^ s) ∧
      ∀ s t : Nat, floorLog2 num den + s < t → num * 2 ^ s < den * 2 ^ t := by
  have numLow : 2 ^ num.log2 ≤ num := Nat.log2_self_le (Nat.ne_of_gt hnum)
  have numHigh : num < 2 ^ (num.log2 + 1) := Nat.lt_log2_self
  have denLow : 2 ^ den.log2 ≤ den := Nat.log2_self_le (Nat.ne_of_gt hden)
  have denHigh : den < 2 ^ (den.log2 + 1) := Nat.lt_log2_self
  have widen {n s t : Nat} (h : s ≤ t) : n * 2 ^ s ≤ n * 2 ^ t :=
    Nat.mul_le_mul_left n (Nat.pow_le_pow_right (by decide) h)
  have below {s t : Nat} (h : t + den.log2 + 1 ≤ num.log2 + s) : den * 2 ^ t ≤ num * 2 ^ s :=
    calc den * 2 ^ t ≤ 2 ^ (den.log2 + 1) * 2 ^ t := Nat.mul_le_mul_right _ (Nat.le_of_lt denHigh)
      _ = 2 ^ (den.log2 + 1 + t) := (Nat.pow_add 2 _ _).symm
      _ ≤ 2 ^ (num.log2 + s) := Nat.pow_le_pow_right (by decide) (by omega)
      _ = 2 ^ num.log2 * 2 ^ s := Nat.pow_add 2 _ _
      _ ≤ num * 2 ^ s := Nat.mul_le_mul_right _ numLow
  have above {s t : Nat} (h : num.log2 + 1 + s ≤ den.log2 + t) : num * 2 ^ s < den * 2 ^ t :=
    calc num * 2 ^ s < 2 ^ (num.log2 + 1) * 2 ^ s := Nat.mul_lt_mul_of_pos_right numHigh (Nat.two_pow_pos s)
      _ = 2 ^ (num.log2 + 1 + s) := (Nat.pow_add 2 _ _).symm
      _ ≤ 2 ^ (den.log2 + t) := Nat.pow_le_pow_right (by decide) h
      _ = 2 ^ den.log2 * 2 ^ t := Nat.pow_add 2 _ _
      _ ≤ den * 2 ^ t := Nat.mul_le_mul_right _ denLow
  rw [floorLog2]
  simp only [Nat.pow_eq]
  generalize hestimate : (num.log2 : Int) - den.log2 = estimate
  by_cases hsign : 0 ≤ estimate
  · obtain ⟨e, rfl⟩ := Int.eq_ofNat_of_zero_le hsign
    simp only [hsign, if_true, Int.toNat_natCast, decide_eq_true_eq]
    split
    · rename_i hreached
      refine ⟨fun s t h => ?_, fun s t h => above (by omega)⟩
      calc den * 2 ^ t ≤ den * 2 ^ (e + s) := widen (by omega)
        _ = den * 2 ^ e * 2 ^ s := by rw [Nat.pow_add, Nat.mul_assoc]
        _ ≤ num * 2 ^ s := Nat.mul_le_mul_right _ hreached
    · rename_i hreached
      refine ⟨fun s t h => below (by omega), fun s t h => ?_⟩
      calc num * 2 ^ s < den * 2 ^ e * 2 ^ s :=
            Nat.mul_lt_mul_of_pos_right (Nat.not_le.1 hreached) (Nat.two_pow_pos s)
        _ = den * 2 ^ (e + s) := by rw [Nat.pow_add, Nat.mul_assoc]
        _ ≤ den * 2 ^ t := widen (by omega)
  · simp only [hsign, if_false, decide_eq_true_eq]
    split
    · rename_i hreached
      refine ⟨fun s t h => ?_, fun s t h => above (by omega)⟩
      calc den * 2 ^ t ≤ num * 2 ^ (-estimate).toNat * 2 ^ t := Nat.mul_le_mul_right _ hreached
        _ = num * 2 ^ ((-estimate).toNat + t) := by rw [Nat.pow_add, Nat.mul_assoc]
        _ ≤ num * 2 ^ s := widen (by omega)
    · rename_i hreached
      refine ⟨fun s t h => below (by omega), fun s t h => ?_⟩
      calc num * 2 ^ s ≤ num * 2 ^ ((-estimate).toNat + t) := widen (by omega)
        _ = num * 2 ^ (-estimate).toNat * 2 ^ t := by rw [Nat.pow_add, Nat.mul_assoc]
        _ < den * 2 ^ t := Nat.mul_lt_mul_of_pos_right (Nat.not_le.1 hreached) (Nat.two_pow_pos t)

/-- The quotient is rounded to a multiple of `2 ^ k` times the smallest double, where it has fifty-three digits in
this unit, or fewer in the smallest one. -/
theorem exists_rounding (num : Nat) {den : Nat} (hden : 0 < den) :
    ∃ k, nearestMagnitude num den =
        min (k * 2 ^ 52 + roundHalfEven (num * 2 ^ 1074) (den * 2 ^ k)) infinityMagnitude ∧
      (k = 0 ∨ den * 2 ^ (52 + k) ≤ num * 2 ^ 1074) ∧ num * 2 ^ 1074 < den * 2 ^ (53 + k) := by
  by_cases hnum : num = 0
  · subst hnum
    refine ⟨0, ?_, .inl rfl, ?_⟩
    · have hzero : roundHalfEven 0 (den * 2 ^ 0) = 0 := by simp [roundHalfEven]
      rw [nearestMagnitude, if_pos rfl, Nat.zero_mul, Nat.zero_mul, hzero]
      rfl
    · rw [Nat.zero_mul]
      exact Nat.mul_pos hden (Nat.two_pow_pos _)
  obtain ⟨low, high⟩ := floorLog2_spec (Nat.pos_of_ne_zero hnum) hden
  rw [nearestMagnitude, if_neg hnum]
  simp only [Nat.pow_eq]
  generalize floorLog2 num den = l at low high ⊢
  refine ⟨(max (l - 52) (-1074) + 1074).toNat, ?_, ?_, high _ _ (by omega)⟩
  · generalize hq : max (l - 52) (-1074) = q
    congr 2
    by_cases hsign : 0 ≤ q
    · have hpower : (q + 1074).toNat = q.toNat + 1074 := by omega
      rw [if_pos hsign, hpower]
      generalize 1074 = e
      rw [Nat.pow_add, ← Nat.mul_assoc]
      exact (roundHalfEven_mul_mul (Nat.two_pow_pos e) _ _).symm
    · have hpower : (-q).toNat + (q + 1074).toNat = 1074 := by omega
      rw [if_neg hsign]
      generalize (q + 1074).toNat = k at hpower ⊢
      rw [← hpower, Nat.pow_add, ← Nat.mul_assoc]
      exact (roundHalfEven_mul_mul (Nat.two_pow_pos k) _ _).symm
  · by_cases hk : (max (l - 52) (-1074) + 1074).toNat = 0
    · exact .inl hk
    · exact .inr (low _ _ (by omega))

/-- There is only one such unit. -/
theorem nearestMagnitude_of_unit {num den k : Nat} (hden : 0 < den)
    (low : k = 0 ∨ den * 2 ^ (52 + k) ≤ num * 2 ^ 1074) (high : num * 2 ^ 1074 < den * 2 ^ (53 + k)) :
    nearestMagnitude num den = min (k * 2 ^ 52 + roundHalfEven (num * 2 ^ 1074) (den * 2 ^ k)) infinityMagnitude := by
  obtain ⟨j, hmagnitude, low', high'⟩ := exists_rounding num hden
  have hle {i l : Nat} (h : den * 2 ^ (52 + i) < den * 2 ^ (53 + l)) : i ≤ l := by
    have := (Nat.pow_lt_pow_iff_right (by decide)).1 (Nat.lt_of_mul_lt_mul_left h)
    omega
  have hsame : j = k := by
    apply Nat.le_antisymm
    · rcases low' with rfl | low'
      · exact Nat.zero_le k
      · exact hle (Nat.lt_of_le_of_lt low' high)
    · rcases low with rfl | low
      · exact Nat.zero_le j
      · exact hle (Nat.lt_of_le_of_lt low high')
  rw [hmagnitude, hsame]

theorem nearestMagnitude_le (num : Nat) {den : Nat} (hden : 0 < den) :
    nearestMagnitude num den ≤ infinityMagnitude := by
  obtain ⟨k, hmagnitude, -⟩ := exists_rounding num hden
  rw [hmagnitude]
  exact Nat.min_le_right _ _

/-- What is rounded depends on the quotient alone. -/
theorem nearestMagnitude_mul_mul (num : Nat) {den c : Nat} (hden : 0 < den) (hc : 0 < c) :
    nearestMagnitude (num * c) (den * c) = nearestMagnitude num den := by
  obtain ⟨k, hmagnitude, low, high⟩ := exists_rounding num hden
  have hswap (m e : Nat) : m * c * 2 ^ e = m * 2 ^ e * c := Nat.mul_right_comm _ _ _
  rw [hmagnitude, nearestMagnitude_of_unit (Nat.mul_pos hden hc) (k := k), hswap, hswap, roundHalfEven_mul_mul hc]
  · rw [hswap, hswap]
    exact low.imp_right (Nat.mul_le_mul_right c)
  · rw [hswap, hswap]
    exact Nat.mul_lt_mul_of_pos_right high hc

section Units

variable {num den k : Nat}

theorem roundHalfEven_units (hden : 0 < den) (low : k = 0 ∨ den * 2 ^ (52 + k) ≤ num) (high : num < den * 2 ^ (53 + k)) :
    (k = 0 ∨ 2 ^ 52 ≤ roundHalfEven num (den * 2 ^ k)) ∧ roundHalfEven num (den * 2 ^ k) ≤ 2 ^ 53 := by
  have hpos : 0 < den * 2 ^ k := Nat.mul_pos hden (Nat.two_pow_pos k)
  have hunit (e : Nat) : den * 2 ^ (e + k) = 2 ^ e * (den * 2 ^ k) := by rw [Nat.pow_add, Nat.mul_left_comm]
  rw [hunit] at low high
  exact ⟨low.imp_right (le_roundHalfEven hpos), roundHalfEven_le hpos high⟩

/-- What is rounded to infinity begins half a unit above the largest double. -/
theorem lt_infinityMagnitude_iff (hden : 0 < den) (low : k = 0 ∨ den * 2 ^ (52 + k) ≤ num)
    (high : num < den * 2 ^ (53 + k)) :
    k * 2 ^ 52 + roundHalfEven num (den * 2 ^ k) < infinityMagnitude ↔ num < (2 ^ 54 - 1) * (den * 2 ^ 2044) := by
  obtain ⟨hlow, hhigh⟩ := roundHalfEven_units hden low high
  have hinfinity : infinityMagnitude = (2044 + 3) * 2 ^ 52 := by decide
  rw [hinfinity]
  generalize 2044 = e
  have hpos : 0 < den * 2 ^ e := Nat.mul_pos hden (Nat.two_pow_pos e)
  have scale {a : Nat} (h : a ≤ 53 + e) : den * 2 ^ a ≤ 2 ^ 53 * (den * 2 ^ e) := by
    rw [Nat.mul_left_comm, ← Nat.pow_add]
    exact Nat.mul_le_mul_left den (Nat.pow_le_pow_right (by decide) h)
  rcases Nat.lt_trichotomy k (e + 1) with hk | rfl | hk
  · have hnum := scale (show 53 + k ≤ 53 + e by omega)
    omega
  · have hunit : den * 2 ^ (e + 1) = 2 * (den * 2 ^ e) := by rw [Nat.pow_succ, ← Nat.mul_assoc, Nat.mul_comm 2]
    rw [hunit] at hlow hhigh ⊢
    have hfull : roundHalfEven num (2 * (den * 2 ^ e)) < 2 ^ 53 ↔ num < (2 ^ 54 - 1) * (den * 2 ^ e) :=
      roundHalfEven_lt_iff hpos (by decide) (by decide)
    omega
  · have hnum : den * 2 ^ (52 + k) ≤ num := low.resolve_left (by omega)
    have hlarge : 2 ^ 54 * (den * 2 ^ e) ≤ den * 2 ^ (52 + k) := by
      rw [Nat.mul_left_comm, ← Nat.pow_add]
      exact Nat.mul_le_mul_left den (Nat.pow_le_pow_right (by decide) (by omega))
    omega

end Units

end SeriesQuery.Double
