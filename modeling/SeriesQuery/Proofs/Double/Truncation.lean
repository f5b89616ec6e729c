import Mathlib.Data.Rat.Floor
import SeriesQuery.Proofs.Double.Number

/-! # Doubles cut to integers

The 64-bit integer of a double in exact arithmetic: the number without its fraction, moved into the range where it
lies outside. It is zero for the numbers strictly between -1 and 1, and for what is no number.
-/

namespace SeriesQuery

namespace Number

def integerPart (q : ℚ) : Int := if q < 0 then ⌈q⌉ else ⌊q⌋

/-- The number without its fraction, moved into the 64-bit integers; what is no number counts as zero. -/
def truncated : Number → Int64
  | nan => 0
  | infinite negative => if negative then Int64.minValue else Int64.maxValue
  | finite q => Double.clampToInt64 (integerPart q)

/-- No integer but zero is left of it: it is less than one in absolute value, or no number. -/
def IsFraction (n : Number) : Prop := n = nan ∨ ∃ q, n = finite q ∧ |q| < 1

theorem integerPart_div (negative : Bool) (m k : Nat) :
    integerPart ((if negative then -(m : ℚ) else m) / k) =
      if negative then -((m / k : Nat) : Int) else (m / k : Nat) := by
  have hfloor : ⌊(m : ℚ) / k⌋ = (m / k : Nat) := Rat.floor_natCast_div_natCast m k
  have hnonneg : 0 ≤ (m : ℚ) / k := by positivity
  cases negative with
  | false => simp [integerPart, hfloor, hnonneg.not_gt]
  | true =>
    simp only [integerPart, if_true, neg_div]
    split
    · rw [Int.ceil_neg, hfloor]
    · rename_i h
      have hzero : (m : ℚ) / k = 0 := by linarith
      rw [hzero, Int.floor_zero] at hfloor
      rw [hzero, neg_zero, Int.floor_zero, ← hfloor, neg_zero]

theorem integerPart_eq_zero_iff (q : ℚ) : integerPart q = 0 ↔ |q| < 1 := by
  rw [integerPart, abs_lt]
  split
  · rw [Int.ceil_eq_zero_iff, Set.mem_Ioc]
    constructor <;> rintro ⟨hlow, hhigh⟩ <;> constructor <;> linarith
  · rw [Int.floor_eq_zero_iff, Set.mem_Ico]
    constructor <;> rintro ⟨hlow, hhigh⟩ <;> constructor <;> linarith

end Number

theorem Double.clampToInt64_eq_zero_iff (n : Int) : clampToInt64 n = 0 ↔ n = 0 := by
  rw [← Int64.toInt_inj, toInt_clampToInt64, Int64.toInt_zero]
  omega

/-- The integer of a double is that of the number that it stands for. -/
theorem Double.toInt64_eq_truncated (d : Double) : d.toInt64 = d.number.truncated := by
  rw [number]
  split
  · rename_i hnan
    simp [toInt64, hnan, Number.truncated]
  split
  · rename_i hfinite
    have hpart := Number.integerPart_div d.isNegative d.multiple (2 ^ 1074)
    rw [toInt64_of_isFinite hfinite, Number.truncated, ← hpart]
    generalize 1074 = e
    push_cast
    rfl
  · rename_i hnan hfinite
    simp [toInt64, hnan, hfinite, Number.truncated]

theorem Number.truncated_eq_zero_iff (n : Number) : n.truncated = 0 ↔ n.IsFraction := by
  cases n with
  | nan => simp [truncated, IsFraction]
  | infinite negative =>
    apply iff_of_false
    · cases negative <;> decide
    · simp [IsFraction]
  | finite q => simp [truncated, Double.clampToInt64_eq_zero_iff, integerPart_eq_zero_iff, IsFraction]

end SeriesQuery
