import Mathlib.Data.List.TakeWhile
import Mathlib.Data.Nat.Digits.Defs
import SeriesQuery.Proofs.Double.Nearest
import SeriesQuery.Stage.Argument

/-! # What an argument is

Every text is exactly one of three arguments. Digits are the integer that they write, with any number of zeros in
front, as long as it is in the range of 64 bits; digits on both sides of one point are the double nearest to what they
write; every other text is itself, be it a sign, a blank, an exponent or a digit of another script that makes the
difference.
-/

namespace SeriesQuery.Argument

/-- At least one character, and all of them from `0` to `9`. -/
def IsDigits (text : List Char) : Prop := text ≠ [] ∧ ∀ c ∈ text, '0' ≤ c ∧ c ≤ '9'

/-- The number that digits write, each of them by its place. -/
def decimalValue (digits : List Char) : Nat :=
  Nat.ofDigits 10 (digits.reverse.map fun c => c.toNat - '0'.toNat)

/-- Digits, one point and digits. -/
structure IsDecimal (text whole fraction : List Char) : Prop where
  whole_digits : IsDigits whole
  fraction_digits : IsDigits fraction
  text_eq : text = whole ++ '.' :: fraction

theorem digitsValue_eq_decimalValue (digits : List Char) : digitsValue digits = decimalValue digits := by
  induction digits using List.reverseRecOn with
  | nil => rfl
  | append_singleton digits c ih =>
    rw [decimalValue, List.reverse_concat, List.map_cons, Nat.ofDigits_cons, ← decimalValue, ← ih, digitsValue,
      List.foldl_concat, digitsValue, Nat.add_comm]

theorem decimalValue_append (whole fraction : List Char) :
    decimalValue (whole ++ fraction) = decimalValue whole * 10 ^ fraction.length + decimalValue fraction := by
  simp only [decimalValue, List.reverse_append, List.map_append, Nat.ofDigits_append, List.length_map,
    List.length_reverse]
  rw [Nat.add_comm, Nat.mul_comm]

theorem isDigit_iff {c : Char} : c.isDigit = true ↔ '0' ≤ c ∧ c ≤ '9' := by
  simp [Char.isDigit, Char.le_def]

theorem isDigits_iff {text : List Char} : IsDigits text ↔ text ≠ [] ∧ ∀ c ∈ text, c.isDigit = true := by
  simp only [IsDigits, isDigit_iff]

/-! ## Forms -/

/-- The digits that a text starts with and what stands behind them. -/
theorem leading_digits {whole : List Char} (hwhole : ∀ c ∈ whole, c.isDigit = true) (rest : List Char)
    (hrest : ∀ c ∈ rest.head?, c.isDigit = false) :
    (whole ++ rest).takeWhile Char.isDigit = whole ∧ (whole ++ rest).dropWhile Char.isDigit = rest := by
  rw [List.takeWhile_append_of_pos hwhole, List.dropWhile_append_of_pos hwhole]
  cases rest with
  | nil => simp
  | cons c rest => simp [hrest c rfl]

theorem form_eq_whole_iff {text digits : List Char} :
    form text = .whole digits ↔ IsDigits text ∧ digits = text := by
  rw [isDigits_iff]
  constructor
  · intro h
    have hsplit : text.takeWhile Char.isDigit ++ text.dropWhile Char.isDigit = text := List.takeWhile_append_dropWhile
    rw [form] at h
    split at h
    · cases h
    · rename_i hrest hne
      rw [hrest, List.append_nil] at hsplit
      cases h
      refine ⟨⟨fun hnil => ?_, fun c hc => ?_⟩, hsplit⟩
      · exact hne (by rw [hsplit, hnil])
      · exact List.mem_takeWhile_imp (by rwa [hsplit])
    · split at h <;> cases h
    · cases h
  · rintro ⟨⟨hne, hdigits⟩, rfl⟩
    obtain ⟨htake, hdrop⟩ := leading_digits hdigits [] (by simp)
    rw [List.append_nil] at htake hdrop
    rw [form, htake, hdrop]
    cases digits with
    | nil => exact absurd rfl hne
    | cons c digits => rfl

theorem form_eq_decimal_iff {text whole fraction : List Char} :
    form text = .decimal whole fraction ↔ IsDecimal text whole fraction := by
  constructor
  · intro h
    have hsplit : text.takeWhile Char.isDigit ++ text.dropWhile Char.isDigit = text := List.takeWhile_append_dropWhile
    have hwhole : ∀ c ∈ text.takeWhile Char.isDigit, c.isDigit = true := fun c hc => List.mem_takeWhile_imp hc
    rw [form] at h
    split at h
    · cases h
    · cases h
    · rename_i hrest hne
      rw [hrest] at hsplit
      split at h
      · rename_i hfraction
        cases h
        rw [List.all_eq_true] at hfraction
        exact ⟨isDigits_iff.2 ⟨hne, hwhole⟩, isDigits_iff.2 hfraction, hsplit.symm⟩
      · cases h
    · cases h
  · rintro ⟨hwhole, hfraction, rfl⟩
    rw [isDigits_iff] at hwhole hfraction
    obtain ⟨htake, hdrop⟩ := leading_digits hwhole.2 ('.' :: fraction) (by simp)
    rw [form, htake, hdrop]
    cases whole with
    | nil => exact absurd rfl hwhole.1
    | cons c whole => exact if_pos ⟨hfraction.1, List.all_eq_true.2 hfraction.2⟩

/-! ## Arguments -/

theorem ofDecimal_neg_length (digits : Nat) (fraction : List Char) :
    Double.ofDecimal false digits (-(fraction.length : Int)) = .ofRatio false digits (10 ^ fraction.length) := by
  rw [Double.ofDecimal]
  cases fraction with
  | nil => simp
  | cons c fraction =>
    rw [if_neg (by rw [List.length_cons]; omega), Int.neg_neg]
    rfl

theorem isNearest_decimal_iff (whole fraction : List Char) (d : Double) :
    d.IsNearest (decimalValue whole + decimalValue fraction / 10 ^ fraction.length) ↔
      d = .ofDecimal false (digitsValue (whole ++ fraction)) (-(fraction.length : Int)) := by
  have hpower : (10 : ℚ) ^ fraction.length ≠ 0 := by positivity
  have hvalue : (decimalValue whole + decimalValue fraction / 10 ^ fraction.length : ℚ)
      = (decimalValue (whole ++ fraction) : ℚ) / (10 ^ fraction.length : Nat) := by
    rw [decimalValue_append]
    push_cast
    rw [add_div, mul_div_cancel_right₀ _ hpower]
  rw [hvalue, Double.isNearest_iff _ (by positivity), ofDecimal_neg_length, digitsValue_eq_decimalValue]

/-- The integers of 64 bits from zero on. -/
theorem eq_ofNat_iff {n : Int64} {v : Nat} (hv : v ≤ 9223372036854775807) :
    n = Int64.ofNat v ↔ n.toInt = v := by
  rw [← Int64.toInt_inj, Int64.toInt_ofNat_of_lt (by omega)]

/-- An argument is an integer exactly if digits write it and it is in the range, a double exactly if it is the one
nearest to digits on both sides of a point, and else the text itself. -/
theorem ofText_eq_iff (raw : String) :
    (∀ n, ofText raw = .int n ↔
      IsDigits raw.toList ∧ decimalValue raw.toList ≤ 9223372036854775807 ∧ n.toInt = decimalValue raw.toList) ∧
    (∀ d, ofText raw = .float d ↔ ∃ whole fraction, IsDecimal raw.toList whole fraction ∧
      d.IsNearest (decimalValue whole + decimalValue fraction / 10 ^ fraction.length)) ∧
    (∀ s, ofText raw = .text s ↔ s = raw ∧
      ¬ (IsDigits raw.toList ∧ decimalValue raw.toList ≤ 9223372036854775807) ∧
      ¬ ∃ whole fraction, IsDecimal raw.toList whole fraction) := by
  have isDigits_iff_form : IsDigits raw.toList ↔ form raw.toList = .whole raw.toList := by
    simp [form_eq_whole_iff]
  cases hform : form raw.toList with
  | whole digits =>
    obtain ⟨hdigits, rfl⟩ := form_eq_whole_iff.1 hform
    have hdecimal : ∀ whole fraction, ¬ IsDecimal raw.toList whole fraction := by
      simp [← form_eq_decimal_iff, hform]
    have hmax : Int64.maxValue.toInt.toNat = 9223372036854775807 := rfl
    simp only [ofText, hform, digitsValue_eq_decimalValue, hmax]
    by_cases hfits : decimalValue raw.toList ≤ 9223372036854775807
    · simp [hfits, hdigits, hdecimal, ← eq_ofNat_iff hfits, eq_comm]
    · simp [hfits, hdecimal, eq_comm]
  | decimal whole fraction =>
    have hdigits : ¬ IsDigits raw.toList := by simp [isDigits_iff_form, hform]
    simp [ofText, hform, hdigits, isNearest_decimal_iff, ← form_eq_decimal_iff, eq_comm]
  | other =>
    have hdigits : ¬ IsDigits raw.toList := by simp [isDigits_iff_form, hform]
    simp [ofText, hform, hdigits, ← form_eq_decimal_iff, eq_comm]

example : ofText "0009223372036854775807" = .int 9223372036854775807 ∧
    ofText "9223372036854775808" = .text "9223372036854775808" ∧ ofText "1.5e3" = .text "1.5e3" := by decide

end SeriesQuery.Argument
