import SeriesQuery.Duration
import SeriesQuery.Proofs.Text.SignedDecimal

/-! # Lengths of durations

A duration is a written integer of 64 bits with the letter of a unit behind it. Months and years are counted in
days first and the days in milliseconds then, and in 64 bits both products have to be checked. Nothing is lost by
looking at the whole product only, as is done here: a count that is too large stays so when it is multiplied on.
-/

namespace SeriesQuery.Duration

open Text (FitsInt64 WritesInteger)

def units : List (Char × Int) :=
  [('h', 3600000), ('d', 86400000), ('w', 604800000), ('m', 2592000000), ('y', 31536000000)]

/-- The text is a count, as it is written, and the letter of a unit. -/
def IsCountOf (text : List Char) (count unit : Int) : Prop :=
  ∃ number letter, text = number ++ [letter] ∧ (letter, unit) ∈ units ∧ WritesInteger number count

theorem unit?_eq_some_iff {letter : Char} {unit : Int} : unit? letter = some unit ↔ (letter, unit) ∈ units := by
  unfold unit? units
  split_ifs <;> simp_all [hour, eq_comm]

theorem IsCountOf.unit_pos {text : List Char} {count unit : Int} (h : IsCountOf text count unit) : 0 < unit := by
  obtain ⟨number, letter, -, hunit, -⟩ := h
  have hall : ∀ u ∈ units, 0 < u.2 := by decide
  exact hall _ hunit

/-- What a duration is and what it amounts to. -/
theorem parse_eq_ok_iff {text : String} {length : Int} : parse text = .ok length ↔
    ∃ count unit, IsCountOf (normalize text.toList) count unit ∧ FitsInt64 count ∧
      (count * unit).natAbs ≤ limit.natAbs ∧ length = count * unit := by
  rw [parse]
  simp only
  constructor
  · intro h
    split at h
    · cases h
    · rename_i unit hunit
      obtain ⟨letter, hletter, hunit⟩ := Option.bind_eq_some_iff.1 hunit
      obtain ⟨number, hnumber⟩ := List.getLast?_eq_some_iff.1 hletter
      rw [hnumber, List.dropLast_concat] at h
      split at h
      · cases h
      · rename_i count hcount
        obtain ⟨hwrites, hfits⟩ := Text.readInteger_eq_ok_iff.1 hcount
        split at h
        · rename_i hlimit
          cases h
          exact ⟨count, unit, ⟨number, letter, hnumber, unit?_eq_some_iff.1 hunit, hwrites⟩, hfits, hlimit, rfl⟩
        · cases h
  · rintro ⟨count, unit, ⟨number, letter, hnumber, hunit, hwrites⟩, hfits, hlimit, rfl⟩
    have hcount := Text.readInteger_eq_ok_iff.2 ⟨hwrites, hfits⟩
    simp [hnumber, unit?_eq_some_iff.2 hunit, hcount, hlimit]

/-! ## In 64 bits -/

def checkedProduct? (a b : Int64) : Option Int64 :=
  if FitsInt64 (a.toInt * b.toInt) then some (a * b) else none

theorem checkedProduct?_eq_some_iff {a b product : Int64} :
    checkedProduct? a b = some product ↔ product.toInt = a.toInt * b.toInt := by
  have hmin : Int64.minValue.toInt = -9223372036854775808 := rfl
  have hmax : Int64.maxValue.toInt = 9223372036854775807 := rfl
  rw [checkedProduct?]
  split
  · rename_i hfits
    have hexact : (a * b).toInt = a.toInt * b.toInt := by
      rw [Int64.toInt_mul]
      apply Int.bmod_eq_of_le
      · exact hmin ▸ hfits.1
      · exact Int.lt_add_one_iff.2 (hmax ▸ hfits.2)
    rw [Option.some.injEq, ← Int64.toInt_inj, hexact, eq_comm]
  · rename_i hfits
    apply iff_of_false nofun
    intro h
    exact hfits (h ▸ ⟨Int64.minValue_le_toInt product, Int64.toInt_le product⟩)

/-- The parts that a unit is counted in: how many there are in it, and the milliseconds of each. -/
def parts? (letter : Char) : Option (Int64 × Int64) :=
  if letter = 'h' then some (1, 3600000)
  else if letter = 'd' then some (1, 86400000)
  else if letter = 'w' then some (1, 604800000)
  else if letter = 'm' then some (30, 86400000)
  else if letter = 'y' then some (365, 86400000)
  else none

/-- The milliseconds of so many units, by way of their parts. The least integer has no counterpart with the other
sign and is no length. -/
def lengthByParts? (letter : Char) (count : Int64) : Option Int64 := do
  let (number, part) ← parts? letter
  let counted ← checkedProduct? count number
  let length ← checkedProduct? counted part
  if length = Int64.minValue then none else some length

theorem mem_units_iff {letter : Char} {unit : Int} : (letter, unit) ∈ units ↔
    ∃ number part, parts? letter = some (number, part) ∧ number.toInt * part.toInt = unit := by
  have hunit : unit? letter = (parts? letter).map fun p => p.1.toInt * p.2.toInt := by
    unfold unit? parts?
    split_ifs <;> rfl
  rw [← unit?_eq_some_iff, hunit]
  simp

theorem part_pos {letter : Char} {number part : Int64} (h : parts? letter = some (number, part)) :
    0 < part.toInt := by
  unfold parts? at h
  split_ifs at h <;> cases h <;> decide

theorem limit_eq : limit.natAbs = 9223372036854775807 := rfl

theorem ne_minValue_iff {n : Int64} : n ≠ Int64.minValue ↔ n.toInt.natAbs ≤ limit.natAbs := by
  have hmin := Int64.minValue_le_toInt n
  have hmax := Int64.toInt_le n
  have hne : n = Int64.minValue ↔ n.toInt = -9223372036854775808 := by
    rw [← Int64.toInt_inj]
    rfl
  rw [Ne, hne, limit_eq]
  change -9223372036854775808 ≤ n.toInt at hmin
  change n.toInt ≤ 9223372036854775807 at hmax
  omega

/-- A product in the limit has no factor beyond the integers of 64 bits. -/
theorem fitsInt64_of_mul {counted part : Int} (hpart : 0 < part)
    (h : (counted * part).natAbs ≤ limit.natAbs) : FitsInt64 counted := by
  have hle : counted.natAbs ≤ (counted * part).natAbs := by
    rw [Int.natAbs_mul]
    exact Nat.le_mul_of_pos_right _ (Int.natAbs_pos.2 hpart.ne')
  rw [limit_eq] at h
  change -9223372036854775808 ≤ counted ∧ counted ≤ 9223372036854775807
  omega

/-- No product wraps around: a length is the exact product of count and unit, wherever that is in the limit. -/
theorem lengthByParts?_eq_some_iff {letter : Char} {count length : Int64} :
    lengthByParts? letter count = some length ↔
      ∃ unit, (letter, unit) ∈ units ∧ (count.toInt * unit).natAbs ≤ limit.natAbs ∧
        length.toInt = count.toInt * unit := by
  simp only [lengthByParts?, bind, Option.bind_eq_some_iff, Prod.exists, checkedProduct?_eq_some_iff, mem_units_iff]
  constructor
  · rintro ⟨number, part, hparts, counted, hcounted, product, hproduct, hlength⟩
    split at hlength
    · cases hlength
    · rename_i hne
      cases hlength
      have hexact : length.toInt = count.toInt * (number.toInt * part.toInt) := by
        rw [hproduct, hcounted, Int.mul_assoc]
      exact ⟨_, ⟨number, part, hparts, rfl⟩, hexact ▸ ne_minValue_iff.1 hne, hexact⟩
  · rintro ⟨unit, ⟨number, part, hparts, rfl⟩, hlimit, hlength⟩
    rw [← Int.mul_assoc] at hlimit hlength
    have hfits := fitsInt64_of_mul (part_pos hparts) hlimit
    have hcounted : (Int64.ofInt (count.toInt * number.toInt)).toInt = count.toInt * number.toInt :=
      Int64.toInt_ofInt_of_le hfits.1 (Int.lt_add_one_iff.2 hfits.2)
    refine ⟨number, part, hparts, _, hcounted, length, by rw [hcounted, hlength], ?_⟩
    rw [if_neg (ne_minValue_iff.2 (hlength ▸ hlimit))]

/-- Reading a duration comes to the same when its length is computed in 64 bits. -/
theorem parse_eq_ok_iff_lengthByParts {text : String} {length : Int} : parse text = .ok length ↔
    ∃ number letter count product, normalize text.toList = number ++ [letter] ∧
      Text.readInteger number = .ok count.toInt ∧ lengthByParts? letter count = some product ∧
      product.toInt = length := by
  simp only [parse_eq_ok_iff, lengthByParts?_eq_some_iff, Text.readInteger_eq_ok_iff]
  constructor
  · rintro ⟨count, unit, ⟨number, letter, hnumber, hunit, hwrites⟩, hfits, hlimit, rfl⟩
    have hcount : (Int64.ofInt count).toInt = count :=
      Int64.toInt_ofInt_of_le hfits.1 (Int.lt_add_one_iff.2 hfits.2)
    have hproduct : (Int64.ofInt (count * unit)).toInt = count * unit := by
      have hsmall := hlimit
      rw [limit_eq] at hsmall
      apply Int64.toInt_ofInt_of_le <;> omega
    refine ⟨number, letter, .ofInt count, .ofInt (count * unit), hnumber, ?_, ⟨unit, hunit, ?_, ?_⟩, hproduct⟩
    · rw [hcount]
      exact ⟨hwrites, hfits⟩
    · rwa [hcount]
    · rw [hproduct, hcount]
  · rintro ⟨number, letter, count, product, hnumber, ⟨hwrites, hfits⟩, ⟨unit, hunit, hlimit, hproduct⟩, rfl⟩
    exact ⟨count.toInt, unit, ⟨number, letter, hnumber, hunit, hwrites⟩, hfits, hlimit, hproduct⟩

end SeriesQuery.Duration
