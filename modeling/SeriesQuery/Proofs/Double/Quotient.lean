import Mathlib
import SeriesQuery.Proofs.Double.Integers
import SeriesQuery.Proofs.Double.Shortest

/-! # Quotients of doubles

The division of finite doubles cuts the quotient of the significands off behind enough digits, keeps in two bits what
the rest says about rounding, shifts what it has into the unit of the result, and rounds there. Nothing is lost on the
way: the result is the double nearest to the exact quotient, as it is for integers and decimals.
-/

namespace SeriesQuery.Double

open Float.Model Float.Model.UnpackedFloat

/-! ## Mantissas with a rest -/

/-- The mantissa of a quotient, with what the two bits behind it tell about the rest. -/
def extended (num den : Nat) : ExtendedMantissa where
  mantissa := num / den
  roundBit := decide (den ≤ 2 * (num % den))
  stickyBit := decide (2 * (num % den) ≠ 0 ∧ 2 * (num % den) ≠ den)

theorem roundedMantissa_extended (num : Nat) {den : Nat} (hden : 0 < den) :
    (extended num den).roundedMantissa = roundHalfEven num den := by
  unfold extended ExtendedMantissa.roundedMantissa ExtendedMantissa.accuracy roundHalfEven
  grind [Accuracy.roundToNearestEven]

theorem ofMantissaAndAccuracy_quotient (num : Nat) {den : Nat} (hden : 0 < den) :
    ExtendedMantissa.ofMantissaAndAccuracy (num / den) (accuracyOfFraction (num % den) den) = extended num den := by
  unfold accuracyOfFraction ExtendedMantissa.ofMantissaAndAccuracy extended
  by_cases hzero : num % den = 0
  · simp [hzero]
    omega
  · rw [if_neg hzero]
    rcases Nat.lt_trichotomy (2 * (num % den)) den with hlt | heq | hgt
    · simp [Nat.compare_eq_lt.2 hlt, hzero]; omega
    · simp [heq]
    · simp [Nat.compare_eq_gt.2 hgt, hzero]; omega

theorem shiftRightOne_extended (num : Nat) {den : Nat} (hden : 0 < den) :
    (extended num den).shiftRightOne = extended num (den * 2) := by
  have hlt := Nat.mod_lt num hden
  have hmod : num % (den * 2) = num % den + den * (num / den % 2) := Nat.mod_mul
  unfold extended ExtendedMantissa.shiftRightOne
  rw [hmod, Nat.div_div_eq_div_mul]
  congr 1
  · rcases Nat.mod_two_eq_zero_or_one (num / den) with hbit | hbit <;> simp [hbit] <;> omega
  · rcases Nat.mod_two_eq_zero_or_one (num / den) with hbit | hbit <;> simp [hbit] <;> grind

/-- A shift of the mantissa with its rest is the quotient in a larger unit. -/
theorem shiftRight_extended (num : Nat) {den : Nat} (hden : 0 < den) (count : Nat) :
    extended num den >>> count = extended num (den * 2 ^ count) := by
  induction count with
  | zero =>
    rw [Nat.pow_zero, Nat.mul_one]
    rfl
  | succ count ih =>
    rw [Nat.pow_succ, ← Nat.mul_assoc, ← shiftRightOne_extended _ (Nat.mul_pos hden (Nat.two_pow_pos _)), ← ih]
    rfl

/-! ## Bits and parts -/

def signOf (negative : Bool) : Sign := if negative then .negative else .positive

theorem toNat_packComponents (negative : Bool) (exponent : BitVec 11) (fraction : BitVec 52) :
    (packComponents Format.binary64 (signOf negative) exponent fraction).toNat =
      (if negative then 2 ^ 63 else 0) + exponent.toNat * 2 ^ 52 + fraction.toNat := by
  have hsign : (signOf negative).toBitVec.toNat = if negative then 1 else 0 := by cases negative <;> rfl
  have hexponent := exponent.isLt
  have hfraction := fraction.isLt
  rw [packComponents, BitVec.toNat_append, BitVec.toNat_append, hsign, ← Nat.shiftLeft_add_eq_or_of_lt hexponent,
    ← Nat.shiftLeft_add_eq_or_of_lt hfraction, Nat.shiftLeft_eq, Nat.shiftLeft_eq]
  cases negative with
  | false => simp
  | true => simp; omega

/-- The bits of a number with a full significand, or with the least exponent. -/
theorem pack_finite (negative : Bool) {m : Nat} {e : Int} (pos : 0 < m) (high : m < 2 ^ 53) (low : -1074 ≤ e)
    (canonical : 2 ^ 52 ≤ m ∨ e = -1074) :
    UInt64.ofBitVec (UnpackedFloat.pack Format.binary64 (.finite (signOf negative) m e pos)) =
      (ofParts negative (min ((e + 1074).toNat * 2 ^ 52 + m) infinityMagnitude)).bits := by
  have hlog : m.log2 + 1 = Format.binary64.mantissaBits ↔ 2 ^ 52 ≤ m := by
    rw [show Format.binary64.mantissaBits = 52 + 1 from rfl, Nat.add_right_cancel_iff,
      Nat.log2_eq_iff (Nat.ne_of_gt pos)]
    exact and_iff_left high
  have hinfinity : infinityMagnitude = 2047 * 2 ^ 52 := by decide
  have hbiased : (e + Format.binary64.exponentBias + Format.binary64.mantissaBitsWithoutImplicit).toNat =
      (e + 1075).toNat := congrArg Int.toNat (Int.add_assoc e 1023 52)
  have hparts (m : Nat) : (if negative then 2 ^ 63 + m else m) = (if negative then 2 ^ 63 else 0) + m := by
    split <;> omega
  rw [← UInt64.toNat_inj, toNat_bits_ofParts negative (Nat.lt_of_le_of_lt (Nat.min_le_right _ _) (by decide)), hparts,
    hinfinity]
  change (UnpackedFloat.pack Format.binary64 (.finite (signOf negative) m e pos)).toNat = _
  simp only [UnpackedFloat.pack, hbiased]
  by_cases hover : 2 ^ 11 ≤ (e + 1075).toNat + 1
  · rw [if_pos hover, packedInfinity, toNat_packComponents]
    simp
    omega
  · rw [if_neg hover]
    by_cases hfull : 2 ^ 52 ≤ m
    · rw [if_pos (hlog.2 hfull), toNat_packComponents]
      simp
      omega
    · rw [if_neg (mt hlog.1 hfull), toNat_packComponents]
      simp
      omega

theorem toNat_unpackMantissa (d : Double) :
    (@unpackMantissa Format.binary64 d.bits.toBitVec).toNat = d.magnitude % 2 ^ 52 := by
  rw [unpackMantissa, BitVec.toNat_cast, BitVec.extractLsb_toNat, Nat.shiftRight_zero, magnitude, Nat.pow_eq,
    Nat.mod_mod_of_dvd _ (Nat.pow_dvd_pow 2 (by decide))]
  rfl

theorem toNat_unpackExponent (d : Double) :
    (@unpackExponent Format.binary64 d.bits.toBitVec).toNat = d.magnitude / 2 ^ 52 := by
  have hbits : d.bits.toBitVec.toNat = d.bits.toNat := rfl
  rw [unpackExponent, BitVec.toNat_cast, BitVec.extractLsb_toNat, Nat.shiftRight_eq_div_pow, magnitude, Nat.pow_eq,
    hbits]
  simp
  omega

theorem ofBitVec_unpackSign (d : Double) :
    Sign.ofBitVec (@unpackSign Format.binary64 d.bits.toBitVec) = signOf d.isNegative := by
  have hbits : d.bits.toBitVec.toNat = d.bits.toNat := rfl
  have hlt := d.bits.toNat_lt
  have hsign : (@unpackSign Format.binary64 d.bits.toBitVec).toNat = d.bits.toNat / 2 ^ 63 := by
    rw [unpackSign, BitVec.toNat_cast, BitVec.extractLsb_toNat, Nat.shiftRight_eq_div_pow, hbits]
    simp
    omega
  have hzero : @unpackSign Format.binary64 d.bits.toBitVec = 0#1 ↔ ¬ 2 ^ 63 ≤ d.bits.toNat := by
    rw [← BitVec.toNat_inj, hsign]
    simp
  simp only [Sign.ofBitVec, hzero, signOf, isNegative, Nat.pow_eq]
  split <;> simp_all

theorem unpackExponent_ne {d : Double} (hfinite : d.isFinite = true) :
    @unpackExponent Format.binary64 d.bits.toBitVec ≠ -1#_ := by
  have hmagnitude : d.magnitude < infinityMagnitude := by simpa [isFinite] using hfinite
  have hinfinity : infinityMagnitude = 2047 * 2 ^ 52 := by decide
  have hexponent := toNat_unpackExponent d
  intro h
  rw [h] at hexponent
  simp at hexponent
  omega

/-- A finite number that is not zero, taken apart. -/
theorem unpack_bits {d : Double} (hfinite : d.isFinite = true) (hzero : d.isZero = false) : ∃ pos,
    UnpackedFloat.unpack Format.binary64 d.bits.toBitVec =
      .finite (signOf d.isNegative) d.significand.1 d.significand.2 pos := by
  have hexponent := toNat_unpackExponent d
  have hmantissa := toNat_unpackMantissa d
  have hpos := Nat.pos_of_ne_zero (significand_ne_zero hzero)
  refine ⟨hpos, ?_⟩
  have hfraction : (1#1 ++ @unpackMantissa Format.binary64 d.bits.toBitVec).toNat =
      2 ^ 52 + d.magnitude % 2 ^ 52 := by
    rw [BitVec.toNat_append, hmantissa, ← Nat.shiftLeft_add_eq_or_of_lt (Nat.mod_lt _ (by decide))]
    rfl
  simp only [UnpackedFloat.unpack, if_neg (unpackExponent_ne hfinite), ofBitVec_unpackSign]
  by_cases hsubnormal : d.magnitude / 2 ^ 52 = 0
  · have hexponentZero : @unpackExponent Format.binary64 d.bits.toBitVec = 0#_ := by
      rw [← BitVec.toNat_inj, hexponent, hsubnormal]
      rfl
    have hmantissaZero : @unpackMantissa Format.binary64 d.bits.toBitVec ≠ 0#_ := by
      rw [Ne, ← BitVec.toNat_inj, hmantissa]
      intro hfractionZero
      rw [BitVec.toNat_ofNat, Nat.zero_mod] at hfractionZero
      have hmagnitude : d.magnitude = 0 := by omega
      simp [isZero, hmagnitude] at hzero
    rw [if_pos hexponentZero, dif_neg hmantissaZero]
    simp only [significand, Nat.pow_eq, hsubnormal, if_true, hmantissa, UnpackedFloat.finite.injEq, true_and,
      hexponentZero]
    rfl
  · have hexponentZero : @unpackExponent Format.binary64 d.bits.toBitVec ≠ 0#_ := by
      rw [Ne, ← BitVec.toNat_inj, hexponent]
      exact hsubnormal
    rw [if_neg hexponentZero]
    simp only [significand, Nat.pow_eq, hsubnormal, if_false, hfraction, UnpackedFloat.finite.injEq, true_and,
      hexponent]
    rfl

theorem unpack_toFloat {d : Double} (hfinite : d.isFinite = true) (hzero : d.isZero = false) : ∃ pos,
    d.toFloat.toModel.unpack = .finite (signOf d.isNegative) d.significand.1 d.significand.2 pos := by
  obtain ⟨pos, hunpack⟩ := unpack_bits hfinite hzero
  have hbits : d.toFloat.toModel.toBits = d.bits := by
    change UInt64.ofBitVec (UnpackedFloat.pack Format.binary64
      (UnpackedFloat.unpack Format.binary64 d.bits.toBitVec)) = _
    rw [pack_unpack, isNaNBits, if_neg fun h => unpackExponent_ne hfinite (of_decide_eq_true h).1]
  refine ⟨pos, ?_⟩
  rw [Float.Model.unpack, hbits, hunpack]

/-! ## Rounding in the unit of the result -/

theorem targetExponent_totalExponent (m : Nat) (e : Int) :
    Format.binary64.targetExponent (totalExponent m e) = max (m.log2 + e - 52) (-1074) := by
  simp only [Format.targetExponent, totalExponent, Format.mantissaBits, Format.minExponent]
  omega

theorem shiftToTargetExponent_of_lt {m : Nat} {e : Int} (high : m < 2 ^ 53) (low : -1074 ≤ e) :
    shiftToTargetExponent Format.binary64 m e .exact = (⟨m, false, false⟩, e) := by
  have hlog : m.log2 ≤ 52 := by
    by_cases hm : m = 0
    · simp [hm]
    · exact Nat.le_of_lt_succ ((Nat.log2_lt hm).2 high)
  have hshift : (max ((m.log2 : Int) + e - 52) (-1074) - e).toNat = 0 := by omega
  rw [shiftToTargetExponent, targetExponent_totalExponent, shiftToExponent, hshift, Int.natCast_zero, Int.add_zero]
  rfl

theorem shiftToTargetExponent_full {e : Int} (low : -1074 ≤ e) :
    shiftToTargetExponent Format.binary64 (2 ^ 53) e .exact = (⟨2 ^ 52, false, false⟩, e + 1) := by
  have hshift : (max (((2 ^ 53).log2 : Int) + e - 52) (-1074) - e).toNat = 1 := by
    rw [Nat.log2_two_pow]
    omega
  rw [shiftToTargetExponent, targetExponent_totalExponent, shiftToExponent, hshift]
  rfl

/-- The last shift only matters where rounding has gone up to a power of two. -/
theorem pack_shiftToTargetExponent (negative : Bool) {r : Nat} {e : Int} (high : r ≤ 2 ^ 53) (low : -1074 ≤ e)
    (canonical : 2 ^ 52 ≤ r ∨ e = -1074) :
    UInt64.ofBitVec (UnpackedFloat.pack Format.binary64
      (if h : (shiftToTargetExponent Format.binary64 r e .exact).1.mantissa = 0 then .zero (signOf negative)
        else .finite (signOf negative) (shiftToTargetExponent Format.binary64 r e .exact).1.mantissa
          (shiftToTargetExponent Format.binary64 r e .exact).2 (Nat.pos_of_ne_zero h))) =
      (ofParts negative (min ((e + 1074).toNat * 2 ^ 52 + r) infinityMagnitude)).bits := by
  rcases Nat.lt_or_eq_of_le high with hlt | rfl
  · rw [shiftToTargetExponent_of_lt hlt low]
    by_cases hzero : r = 0
    · obtain rfl : e = -1074 := canonical.resolve_left (by omega)
      subst hzero
      rw [dif_pos rfl]
      cases negative <;> rfl
    · rw [dif_neg hzero]
      exact pack_finite negative (Nat.pos_of_ne_zero hzero) hlt low canonical
  · have hmagnitude : (e + 1 + 1074).toNat * 2 ^ 52 + 2 ^ 52 = (e + 1074).toNat * 2 ^ 52 + 2 ^ 53 := by omega
    have hpos : 0 < 2 ^ 52 := by decide
    rw [shiftToTargetExponent_full low, dif_neg (Nat.ne_of_gt hpos), ← hmagnitude]
    exact pack_finite negative hpos (Nat.pow_lt_pow_right (by decide) (by decide)) (by omega) (.inl (Nat.le_refl _))

/-- Where a quotient stands in the unit that it is rounded to. -/
theorem bounds_of_unit {num den : Nat} (hden : 0 < den) {e t : Int}
    (ht : t = max ((num / den).log2 + e - 52) (-1074)) (hle : e ≤ t) :
    (t = -1074 ∨ den * 2 ^ (52 + (t - e).toNat) ≤ num) ∧ num < den * 2 ^ (53 + (t - e).toNat) := by
  constructor
  · by_cases hleast : t = -1074
    · exact .inl hleast
    · have hlog : (num / den).log2 = 52 + (t - e).toNat := by omega
      have hne : num / den ≠ 0 := fun h => by simp [h] at hlog; omega
      rw [← hlog, Nat.mul_comm]
      exact .inr ((Nat.le_div_iff_mul_le hden).1 (Nat.log2_self_le hne))
  · have hlog : (num / den).log2 + 1 ≤ 53 + (t - e).toNat := by omega
    rw [Nat.mul_comm, ← Nat.div_lt_iff_lt_mul hden]
    exact Nat.lt_of_lt_of_le Nat.lt_log2_self (Nat.pow_le_pow_right (by decide) hlog)

/-- A quotient with an accurate rest is rounded in the unit that it belongs to, and only there. -/
theorem pack_roundWithAccuracy (negative : Bool) {num den : Nat} (hden : 0 < den) {e t : Int}
    (ht : t = max ((num / den).log2 + e - 52) (-1074)) (hle : e ≤ t) :
    UInt64.ofBitVec (UnpackedFloat.pack Format.binary64
      (roundWithAccuracy Format.binary64 (signOf negative) (num / den) e (accuracyOfFraction (num % den) den))) =
      (ofParts negative (min ((t + 1074).toNat * 2 ^ 52 + roundHalfEven num (den * 2 ^ (t - e).toNat))
        infinityMagnitude)).bits := by
  have hscaled : 0 < den * 2 ^ (t - e).toNat := Nat.mul_pos hden (Nat.two_pow_pos _)
  have hunit (c : Nat) : den * 2 ^ (c + (t - e).toNat) = 2 ^ c * (den * 2 ^ (t - e).toNat) := by
    rw [Nat.pow_add, Nat.mul_left_comm]
  obtain ⟨low, high⟩ := bounds_of_unit hden ht hle
  rw [hunit] at low high
  have hfirst : shiftToTargetExponent Format.binary64 (num / den) e (accuracyOfFraction (num % den) den) =
      (extended num (den * 2 ^ (t - e).toNat), t) := by
    have hreached : e + (t - e).toNat = t := by omega
    rw [shiftToTargetExponent, targetExponent_totalExponent, ← ht, shiftToExponent,
      ofMantissaAndAccuracy_quotient num hden, shiftRight_extended num hden, hreached]
  rw [roundWithAccuracy, hfirst]
  simp only [roundedMantissa_extended num hscaled]
  exact pack_shiftToTargetExponent negative (roundHalfEven_le hscaled high) (by omega)
    (low.symm.imp_left (le_roundHalfEven hscaled))

/-! ## Division -/

/-- Enough digits are taken of a quotient, unless the least exponent is reached. -/
theorem enough_digits {m₁ m₂ shift : Nat} (h₁ : 0 < m₁) (h₂ : 0 < m₂) (h : m₂.log2 + 53 ≤ m₁.log2 + shift) :
    2 ^ 52 ≤ m₁ * 2 ^ shift / m₂ := by
  rw [Nat.le_div_iff_mul_le h₂]
  calc 2 ^ 52 * m₂ ≤ 2 ^ 52 * 2 ^ (m₂.log2 + 1) := Nat.mul_le_mul_left _ (Nat.le_of_lt Nat.lt_log2_self)
    _ = 2 ^ (m₂.log2 + 53) := by rw [← Nat.pow_add]; congr 1; omega
    _ ≤ 2 ^ (m₁.log2 + shift) := Nat.pow_le_pow_right (by decide) h
    _ = 2 ^ m₁.log2 * 2 ^ shift := Nat.pow_add 2 _ _
    _ ≤ m₁ * 2 ^ shift := Nat.mul_le_mul_right _ (Nat.log2_self_le (Nat.ne_of_gt h₁))

/-- A quotient of significands in a unit is the quotient of the multiples in the unit of the least exponent. -/
theorem nearestMagnitude_multiples {m₁ m₂ : Nat} (h₂ : 0 < m₂) {q₁ q₂ e t : Int} (low₁ : -1074 ≤ q₁)
    (low₂ : -1074 ≤ q₂) (hexact : e ≤ q₁ - q₂) (hscale : 0 ≤ 2148 + q₂ + e) (hle : e ≤ t)
    (ht : t = max ((m₁ * 2 ^ (q₁ - q₂ - e).toNat / m₂).log2 + e - 52) (-1074)) :
    nearestMagnitude (m₁ * 2 ^ (q₁ + 1074).toNat) (m₂ * 2 ^ (q₂ + 1074).toNat) =
      min ((t + 1074).toNat * 2 ^ 52 + roundHalfEven (m₁ * 2 ^ (q₁ - q₂ - e).toNat) (m₂ * 2 ^ (t - e).toNat))
        infinityMagnitude := by
  obtain ⟨c, hc⟩ := Int.eq_ofNat_of_zero_le hscale
  have hnum : m₁ * 2 ^ (q₁ + 1074).toNat * 2 ^ 1074 = m₁ * 2 ^ (q₁ - q₂ - e).toNat * 2 ^ c := by
    have hpower : (q₁ + 1074).toNat + 1074 = (q₁ - q₂ - e).toNat + c := by omega
    rw [Nat.mul_assoc, Nat.mul_assoc, ← Nat.pow_add, ← Nat.pow_add, hpower]
  have hden (i : Nat) : m₂ * 2 ^ (q₂ + 1074).toNat * 2 ^ (i + (t + 1074).toNat) =
      m₂ * 2 ^ (i + (t - e).toNat) * 2 ^ c := by
    have hpower : (q₂ + 1074).toNat + (i + (t + 1074).toNat) = i + (t - e).toNat + c := by omega
    rw [Nat.mul_assoc, Nat.mul_assoc, ← Nat.pow_add, ← Nat.pow_add, hpower]
  obtain ⟨low, high⟩ := bounds_of_unit h₂ ht hle
  have hpos : 0 < m₂ * 2 ^ (q₂ + 1074).toNat := Nat.mul_pos h₂ (Nat.two_pow_pos _)
  have hunits := @nearestMagnitude_of_unit (m₁ * 2 ^ (q₁ + 1074).toNat) _ (t + 1074).toNat hpos
  have hunit := hden 0
  rw [Nat.zero_add, Nat.zero_add] at hunit
  rw [hnum, hden, hden, hunit, roundHalfEven_mul_mul (Nat.two_pow_pos c)] at hunits
  apply hunits
  · rcases low with rfl | low
    · exact .inl rfl
    · exact .inr (Nat.mul_le_mul_right _ low)
  · exact Nat.mul_lt_mul_of_pos_right high (Nat.two_pow_pos c)

/-- A quotient of finite numbers other than zero is the double nearest to the exact one. -/
theorem div_eq_ofRatio {a b : Double} (ha : a.isFinite = true) (ha' : a.isZero = false) (hb : b.isFinite = true)
    (hb' : b.isZero = false) : a.div b = ofRatio (a.isNegative != b.isNegative) a.multiple b.multiple := by
  obtain ⟨hposA, hunpackA⟩ := unpack_toFloat ha ha'
  obtain ⟨hposB, hunpackB⟩ := unpack_toFloat hb hb'
  have hlowA := significand_snd_ge a
  have hlowB := significand_snd_ge b
  have hsign : signOf a.isNegative / signOf b.isNegative = signOf (a.isNegative != b.isNegative) := by
    cases a.isNegative <;> cases b.isNegative <;> rfl
  have hbits : (a.div b).bits = UInt64.ofBitVec (UnpackedFloat.pack Format.binary64
      (UnpackedFloat.div Format.binary64 a.toFloat.toModel.unpack b.toFloat.toModel.unpack)) := rfl
  rw [hunpackA, hunpackB, UnpackedFloat.div, hsign, divCore] at hbits
  rw [multiple, multiple]
  generalize a.significand = p at *
  generalize b.significand = q at *
  obtain ⟨m₁, q₁⟩ := p
  obtain ⟨m₂, q₂⟩ := q
  dsimp only at hposA hposB hlowA hlowB hbits ⊢
  have htarget : Format.binary64.targetExponent (totalExponent m₁ q₁ - totalExponent m₂ q₂) =
      max (m₁.log2 + q₁ - (m₂.log2 + q₂) - 53) (-1074) := by
    simp only [Format.targetExponent, totalExponent, Format.mantissaBits, Format.minExponent]
    omega
  rw [htarget, Nat.shiftLeft_eq] at hbits
  generalize he : min (q₁ - q₂) (max (m₁.log2 + q₁ - (m₂.log2 + q₂) - 53) (-1074)) = e at hbits
  generalize ht : max ((m₁ * 2 ^ (q₁ - q₂ - e).toNat / m₂).log2 + e - 52) (-1074) = t
  -- The quotient is cut off behind the last digit that the result has, so that it is shifted down from there.
  have hle : e ≤ t := by
    by_cases hleast : e ≤ -1074
    · omega
    · have henough : 2 ^ 52 ≤ m₁ * 2 ^ (q₁ - q₂ - e).toNat / m₂ := enough_digits hposA hposB (by omega)
      have hlog := (Nat.le_log2 (by omega)).2 henough
      omega
  rw [pack_roundWithAccuracy _ hposB ht.symm hle,
    ← nearestMagnitude_multiples hposB hlowA hlowB (by omega) (by omega) hle ht.symm] at hbits
  exact congrArg Double.mk hbits

/-- Of whole numbers the quotient is the one of what they have been rounded to themselves. -/
theorem div_ofInt {m n : Nat} (hm : 0 < m) (hn : 0 < n) (hm' : m < 2 ^ 64) (hn' : n < 2 ^ 64) :
    (ofInt m).div (ofInt n) = ofRatio false (nearestWhole m) (nearestWhole n) := by
  have hparts {n : Nat} (pos : 0 < n) (small : n < 2 ^ 64) :
      (ofInt n).isFinite = true ∧ (ofInt n).isZero = false ∧ (ofInt n).isNegative = false ∧
        (ofInt n).multiple = nearestWhole n * 2 ^ 1074 := by
    obtain ⟨hfinite, hmultiple, hnegative⟩ := parts_ofInt (show (n : Int).natAbs.log2 ≤ 63 from log2_le_of_lt small)
    exact ⟨hfinite, isZero_of_multiple (nearestWhole_pos pos) hmultiple,
      hnegative.trans (decide_eq_false (Int.not_lt.2 (Int.natCast_nonneg n))), hmultiple⟩
  obtain ⟨hfinite₁, hzero₁, hnegative₁, hmultiple₁⟩ := hparts hm hm'
  obtain ⟨hfinite₂, hzero₂, hnegative₂, hmultiple₂⟩ := hparts hn hn'
  rw [div_eq_ofRatio hfinite₁ hzero₁ hfinite₂ hzero₂, hnegative₁, hnegative₂, hmultiple₁, hmultiple₂, ofRatio, ofRatio,
    nearestMagnitude_mul_mul _ (nearestWhole_pos hn) (Nat.two_pow_pos _)]
  rfl

end SeriesQuery.Double
