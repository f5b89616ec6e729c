import Mathlib.Algebra.Field.Rat
import Mathlib.Tactic.Positivity
import SeriesQuery.Point
import SeriesQuery.Proofs.Double.Integers

/-! # Values as numbers

A double stands for an exact number, for one of two infinities or for no number, and an integer for itself. The
double nearest to a 64-bit integer is the same number when the integer's significant bits fit, and only then.
-/

namespace SeriesQuery

/-- A number, exactly. The two zeros are one number. -/
inductive Number where
  | nan
  | infinite (negative : Bool)
  | finite (q : ℚ)

/-- The order of numbers, with the infinities at its ends. What is no number has no place in it. -/
def Number.Less : Number → Number → Prop
  | nan, _ | _, nan => False
  | finite p, finite q => p < q
  | finite _, infinite negative => negative = false
  | infinite negative, finite _ => negative = true
  | infinite left, infinite right => left = true ∧ right = false

namespace Double

/-- What a double stands for. A finite one is a multiple of the smallest above zero. -/
def number (d : Double) : Number :=
  if d.isNaN then .nan
  else if d.isFinite then .finite ((if d.isNegative then -(d.multiple : ℚ) else d.multiple) / 2 ^ 1074)
  else .infinite d.isNegative

@[simp] theorem number_eq_nan_iff {d : Double} : d.number = .nan ↔ d.isNaN = true := by
  rw [number]
  split
  · simp [*]
  · split <;> simp [*]

theorem rank_lt_iff {a b : Double} : a.rank < b.rank ↔
    (if a.isNegative then -(a.multiple : Int) else a.multiple) <
      if b.isNegative then -(b.multiple : Int) else b.multiple := by
  have hzero : multipleOf 0 = 0 := by decide
  have hab := multipleOf_strictMono.lt_iff_lt (a := a.magnitude) (b := b.magnitude)
  have hba := multipleOf_strictMono.lt_iff_lt (a := b.magnitude) (b := a.magnitude)
  have ha := multipleOf_strictMono.lt_iff_lt (a := 0) (b := a.magnitude)
  have hb := multipleOf_strictMono.lt_iff_lt (a := 0) (b := b.magnitude)
  rw [rank, rank, multiple_eq_multipleOf, multiple_eq_multipleOf]
  generalize multipleOf a.magnitude = m at *
  generalize multipleOf b.magnitude = n at *
  split <;> split <;> omega

theorem magnitude_lt_infinityMagnitude {d : Double} (h : d.isFinite = true) : d.magnitude < infinityMagnitude := by
  simpa [isFinite] using h

theorem magnitude_eq_infinityMagnitude {d : Double} (hnumber : d.isNaN = false) (h : d.isFinite = false) :
    d.magnitude = infinityMagnitude := by
  simp only [isNaN, isFinite, decide_eq_false_iff_not] at hnumber h
  omega

/-- The order of the bits is the order of what they stand for. -/
theorem lt_iff_less {a b : Double} : a.lt b = true ↔ a.number.Less b.number := by
  cases ha : a.isNaN with
  | true => simp [lt, number, ha, Number.Less]
  | false =>
    cases hb : b.isNaN with
    | true =>
      rw [lt, number_eq_nan_iff.2 hb, hb]
      cases a.number <;> simp [Number.Less]
    | false =>
      have hlt : a.lt b = true ↔ a.rank < b.rank := by simp [lt, ha, hb]
      rw [hlt, number, number, ha, hb]
      cases hfa : a.isFinite with
      | true =>
        cases hfb : b.isFinite with
        | true =>
          have hpower : (0 : ℚ) < 2 ^ 1074 := by positivity
          rw [rank_lt_iff]
          generalize 1074 = e at hpower ⊢
          simp only [Bool.false_eq_true, if_false, if_true, Number.Less, div_lt_div_iff_of_pos_right hpower]
          split <;> split <;> norm_cast
        | false =>
          have hma := magnitude_lt_infinityMagnitude hfa
          have hmb := magnitude_eq_infinityMagnitude hb hfb
          simp only [Bool.false_eq_true, if_false, if_true, Number.Less, rank]
          cases a.isNegative <;> cases b.isNegative <;> simp <;> omega
      | false =>
        have hma := magnitude_eq_infinityMagnitude ha hfa
        cases hfb : b.isFinite with
        | true =>
          have hmb := magnitude_lt_infinityMagnitude hfb
          simp only [Bool.false_eq_true, if_false, if_true, Number.Less, rank]
          cases a.isNegative <;> cases b.isNegative <;> simp <;> omega
        | false =>
          have hmb := magnitude_eq_infinityMagnitude hb hfb
          have hpositive : 0 < infinityMagnitude := by decide
          simp only [Bool.false_eq_true, if_false, Number.Less, rank, hma, hmb]
          cases a.isNegative <;> cases b.isNegative <;> simp [hpositive]

theorem isNaN_ofInt (n : Int64) : (ofInt n.toInt).isNaN = false :=
  isNaN_of_isFinite (parts_ofInt (log2_natAbs_toInt_le n)).1

theorem number_ofInt (n : Int64) : (ofInt n.toInt).number =
    .finite (if n.toInt < 0 then -(nearestWhole n.toInt.natAbs : ℚ) else nearestWhole n.toInt.natAbs) := by
  obtain ⟨hfinite, hmultiple, hnegative⟩ := parts_ofInt (log2_natAbs_toInt_le n)
  rw [number, isNaN_ofInt, hfinite, hmultiple, hnegative]
  have hne : (2 : ℚ) ^ 1074 ≠ 0 := pow_ne_zero _ (by decide)
  generalize 1074 = e at hne ⊢
  by_cases h : n.toInt < 0
  · simp [h, neg_div, hne]
  · simp [h, hne]

/-- The nearest double is the integer itself just when the significant bits of the integer fit. -/
theorem number_ofInt_eq_iff (n : Int64) : (ofInt n.toInt).number = .finite n.toInt ↔ FitsSignificand n.toInt := by
  rw [number_ofInt, fitsSignificand_iff, Number.finite.injEq]
  split
  · rw [neg_eq_iff_eq_neg]
    norm_cast
    omega
  · norm_cast
    omega

end Double

def Value.number : Value → Number
  | .int n => .finite n.toInt
  | .float d => d.number

end SeriesQuery
