import SeriesQuery.Proofs.Double.Quotient
import SeriesQuery.Proofs.Double.Wholes
import SeriesQuery.Proofs.Json.Numbers

/-! # Whole doubles in JSON

A whole double is written with a fraction of zero, and this zero is read as a digit like the others: the reader has
ten times the number, rounds it to a double, and divides by ten. That is the number again as long as ten times the
number fits the significand.
-/

namespace SeriesQuery.Json

open Double

namespace Number

theorem le_foldl_digits (read : Nat) (digits : List Nat) : read ≤ digits.foldl (fun n d => 10 * n + d) read := by
  induction digits generalizing read with
  | nil => exact Nat.le_refl read
  | cons d digits ih => exact Nat.le_trans (by omega) (ih (10 * read + d))

/-- Digits whose value fits 64 bits are all taken. -/
theorem takeDigits_eq {read : Nat} {digits : List Nat}
    (small : digits.foldl (fun n d => 10 * n + d) read < 2 ^ 64) :
    takeDigits read digits = (digits.foldl (fun n d => 10 * n + d) read, 0) := by
  induction digits generalizing read with
  | nil => rfl
  | cons d digits ih =>
    have hfits : read * 10 + d < Nat.pow 2 64 := by
      rw [Nat.mul_comm]
      exact Nat.lt_of_le_of_lt (le_foldl_digits _ digits) small
    rw [takeDigits, if_pos hfits, Nat.mul_comm]
    exact ih small

theorem toDouble?_whole (negative : Bool) {digits : List Nat} (small : 10 * digitsValue digits < 2 ^ 64) :
    toDouble? ⟨negative, digits, some [0], none⟩ =
      some (.ofParts negative ((Double.ofInt (10 * digitsValue digits : Nat)).div (powerOfTen 1)).magnitude) := by
  have hwhole : takeDigits 0 digits = (digitsValue digits, 0) :=
    takeDigits_eq (Nat.lt_of_le_of_lt (Nat.le_mul_of_pos_left _ (by decide)) small)
  have hfraction : takeDigits (digitsValue digits) [0] = (10 * digitsValue digits, 0) := takeDigits_eq small
  simp only [toDouble?, hwhole, Option.getD_some, hfraction]
  rfl

end Number

theorem WrittenNumber.text_ofWhole {n : Int} (small : n.natAbs < 2 ^ 53) :
    (ofWhole n).text = Layout.json.chars (.ofInt n) := by
  rw [chars_ofInt small]
  refine (WrittenNumber.text_eq rfl (WrittenNumber.body_ofFraction ..)).trans ?_
  simp only [ofFraction, decide_eq_true_eq]

/-- Ten times the number is what is divided by ten. -/
theorem WrittenNumber.toDouble?_ofWhole {n : Int} (small : n.natAbs < 2 ^ 53) :
    (ofWhole n).number.toDouble? = some (ofRatio (decide (n < 0)) (nearestWhole (10 * n.natAbs)) 10) := by
  have hvalue : Number.digitsValue (digitValues (ofWhole n).whole) = n.natAbs := by
    rw [digitsValue_digitValues]
    exact Nat.ofDigitChars_ten_toDigits
  have hread : (ofWhole n).number.toDouble? = _ := Number.toDouble?_whole (decide (n < 0)) (by rw [hvalue]; omega)
  rw [hvalue] at hread
  refine hread.trans (congrArg some ?_)
  by_cases hzero : n = 0
  · subst hzero
    decide +kernel
  · have hten : nearestWhole 10 = 10 := nearestWhole_of_lt (by decide)
    have hdivisor : Number.powerOfTen 1 = Double.ofInt (10 : Nat) := rfl
    rw [hdivisor, div_ofInt (by omega) (by decide) (by omega) (by decide), hten, ofRatio,
      magnitude_ofParts _ (Nat.lt_of_le_of_lt (nearestMagnitude_le _ (by decide)) (by decide))]
    rfl

end SeriesQuery.Json
