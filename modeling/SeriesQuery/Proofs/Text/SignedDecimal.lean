import SeriesQuery.Proofs.Stage.ArgumentForms
import SeriesQuery.Text.Integer

/-! # Integers as they are written

An integer of 64 bits is read from its digits one by one, and each digit is refused that would lead out of the
range. As the absolute value only grows, this refuses the same texts as a look at the whole number would: what is
read is exactly a sign, or none, and digits whose value with that sign is in the range.
-/

namespace SeriesQuery.Text

open Argument (IsDigits decimalValue)

def FitsInt64 (n : Int) : Prop := Int64.minValue.toInt ≤ n ∧ n ≤ Int64.maxValue.toInt

instance (n : Int) : Decidable (FitsInt64 n) :=
  inferInstanceAs (Decidable (Int64.minValue.toInt ≤ n ∧ n ≤ Int64.maxValue.toInt))

/-- Digits, with a sign in front of them or without one, write an integer. -/
inductive WritesInteger : List Char → Int → Prop where
  | unsigned {digits : List Char} (h : IsDigits digits) : WritesInteger digits (decimalValue digits)
  | plus {digits : List Char} (h : IsDigits digits) : WritesInteger ('+' :: digits) (decimalValue digits)
  | minus {digits : List Char} (h : IsDigits digits) : WritesInteger ('-' :: digits) (-decimalValue digits)

def signedValue (negative : Bool) (digits : List Char) : Int :=
  if negative then -decimalValue digits else decimalValue digits

theorem signedValue_concat (negative : Bool) (digits : List Char) (c : Char) :
    signedValue negative (digits ++ [c]) =
      if negative then 10 * signedValue negative digits - ((c.toNat - '0'.toNat : Nat) : Int)
      else 10 * signedValue negative digits + ((c.toNat - '0'.toNat : Nat) : Int) := by
  have hvalue : decimalValue (digits ++ [c]) = 10 * decimalValue digits + (c.toNat - '0'.toNat) := by
    rw [← Argument.digitsValue_eq_decimalValue, ← Argument.digitsValue_eq_decimalValue, Argument.digitsValue,
      List.foldl_concat, Argument.digitsValue]
  cases negative with
  | true =>
    simp only [signedValue, if_true, hvalue]
    omega
  | false => simp [signedValue, hvalue]

/-- More digits never lead back into the range. -/
theorem fitsInt64_of_append {negative : Bool} {front back : List Char}
    (h : FitsInt64 (signedValue negative (front ++ back))) : FitsInt64 (signedValue negative front) := by
  have hgrows : decimalValue front ≤ decimalValue (front ++ back) := by
    rw [Argument.decimalValue_append]
    exact (Nat.le_mul_of_pos_right _ (by positivity)).trans (Nat.le_add_right _ _)
  have hmin : Int64.minValue.toInt = -9223372036854775808 := rfl
  have hmax : Int64.maxValue.toInt = 9223372036854775807 := rfl
  cases negative <;> simp only [FitsInt64, signedValue, hmin, hmax, if_true, Bool.false_eq_true, if_false] at h ⊢ <;>
    omega

/-- A digit is read if it leaves the value in the range. -/
theorem readMore_cons_eq_ok_iff {negative : Bool} {before digits : List Char} {c : Char} {n : Int}
    (hc : c.isDigit = true) : readMore negative (signedValue negative before) (c :: digits) = .ok n ↔
      FitsInt64 (signedValue negative (before ++ [c])) ∧
        readMore negative (signedValue negative (before ++ [c])) digits = .ok n := by
  rw [readMore, if_pos hc]
  simp only [← signedValue_concat]
  split
  · rename_i hlow
    exact iff_of_false nofun fun h => Int.not_lt.2 h.1.1 hlow
  · rename_i hlow
    split
    · rename_i hhigh
      exact iff_of_false nofun fun h => Int.not_lt.2 h.1.2 hhigh
    · rename_i hhigh
      exact (and_iff_right ⟨Int.not_lt.1 hlow, Int.not_lt.1 hhigh⟩).symm

theorem readMore_signedValue_iff {negative : Bool} {before digits : List Char} {n : Int}
    (h : FitsInt64 (signedValue negative before)) :
    readMore negative (signedValue negative before) digits = .ok n ↔
      (∀ c ∈ digits, c.isDigit = true) ∧ FitsInt64 n ∧ n = signedValue negative (before ++ digits) := by
  induction digits generalizing before with
  | nil =>
    rw [readMore, List.append_nil]
    constructor
    · rintro ⟨⟩
      exact ⟨nofun, h, rfl⟩
    · rintro ⟨-, -, rfl⟩
      rfl
  | cons c digits ih =>
    by_cases hc : c.isDigit = true
    case neg => simp [readMore, hc]
    rw [readMore_cons_eq_ok_iff hc, List.forall_mem_cons, List.append_cons before c digits]
    constructor
    · rintro ⟨hfits, hread⟩
      obtain ⟨hdigits, hn, hvalue⟩ := (ih hfits).1 hread
      exact ⟨⟨hc, hdigits⟩, hn, hvalue⟩
    · rintro ⟨⟨-, hdigits⟩, hn, rfl⟩
      have hfits := fitsInt64_of_append hn
      exact ⟨hfits, (ih hfits).2 ⟨hdigits, hn, rfl⟩⟩

theorem readAll_eq_ok_iff {negative : Bool} {digits : List Char} {n : Int} :
    readAll negative digits = .ok n ↔ IsDigits digits ∧ FitsInt64 n ∧ n = signedValue negative digits := by
  have hzero : signedValue negative [] = 0 := by cases negative <;> rfl
  have hfits : FitsInt64 (signedValue negative []) := by
    rw [hzero]
    decide
  have hread := @readMore_signedValue_iff negative [] digits n hfits
  rw [hzero, List.nil_append] at hread
  cases digits with
  | nil => simp [readAll, IsDigits]
  | cons c digits => simp [readAll, hread, Argument.isDigits_iff]

theorem not_isDigits_cons {c : Char} {rest : List Char} (hc : c.isDigit = false) : ¬ IsDigits (c :: rest) := by
  simp [Argument.isDigits_iff, hc]

/-- An integer is read exactly from the texts that write it, if it is in the range. -/
theorem readInteger_eq_ok_iff {text : List Char} {n : Int} :
    readInteger text = .ok n ↔ WritesInteger text n ∧ FitsInt64 n := by
  unfold readInteger
  split
  · apply iff_of_false nofun
    rintro ⟨⟨h⟩, -⟩
    exact h.1 rfl
  · rename_i rest
    rw [readAll_eq_ok_iff]
    constructor
    · rintro ⟨hdigits, hn, rfl⟩
      exact ⟨.minus hdigits, hn⟩
    · rintro ⟨h | h | h, hn⟩
      · exact absurd h (not_isDigits_cons rfl)
      · exact ⟨h, hn, rfl⟩
  · rename_i rest
    rw [readAll_eq_ok_iff]
    constructor
    · rintro ⟨hdigits, hn, rfl⟩
      exact ⟨.plus hdigits, hn⟩
    · rintro ⟨h | h | h, hn⟩
      · exact absurd h (not_isDigits_cons rfl)
      · exact ⟨h, hn, rfl⟩
  · rename_i hminus hplus
    rw [readAll_eq_ok_iff]
    constructor
    · rintro ⟨hdigits, hn, rfl⟩
      exact ⟨.unsigned hdigits, hn⟩
    · rintro ⟨h | h | h, hn⟩
      · exact ⟨h, hn, rfl⟩
      · exact absurd rfl (hplus _)
      · exact absurd rfl (hminus _)

end SeriesQuery.Text
