import SeriesQuery.Proofs.Double.Integers
import SeriesQuery.Stage.Constant

/-! # Integer constants

A stage keeps its constant as a double, and takes the integer part of it for an integer point. So the operation
is carried out with the integer that the constant goes to a double and back as, which is the constant itself
unless its bits do not fit in a significand.
-/

namespace SeriesQuery

namespace Arithmetic

/-- The operation on integers, before the result is cut to 64 bits. A quotient has no fraction. -/
def exactly : Arithmetic → Int → Int → Int
  | add, v, c => v + c
  | subtract, v, c => v - c
  | multiply, v, c => v * c
  | divide, v, c => v.tdiv c

/-- Two integers that are once in each other are equal. -/
theorem eq_of_tdiv_eq_one {a b : Int} (hab : a.tdiv b = 1) (hba : b.tdiv a = 1) : a = b := by
  have hle {x y : Int} (h : x.tdiv y = 1) : y.natAbs ≤ x.natAbs := by
    have hquotient : x.natAbs / y.natAbs = 1 := (Int.natAbs_tdiv x y).symm.trans (congrArg Int.natAbs h)
    by_cases hlt : x.natAbs < y.natAbs
    · rw [Nat.div_eq_of_lt hlt] at hquotient
      omega
    · exact Nat.not_lt.1 hlt
  rcases Int.natAbs_eq_natAbs_iff.1 (Nat.le_antisymm (hle hba) (hle hab)) with h | h
  · exact h
  · subst h
    rw [Int.neg_tdiv] at hab
    by_cases hzero : b = 0
    · subst hzero
      exact absurd hab (by decide)
    · rw [Int.tdiv_self hzero] at hab
      exact absurd hab (by decide)

theorem ofInt_tdiv_eq_one {a b : Int64} (h : Int64.ofInt (a.toInt.tdiv b.toInt) = 1) : a.toInt.tdiv b.toInt = 1 := by
  have hlow := a.le_toInt
  have hhigh := a.toInt_lt
  have hle : (a.toInt.tdiv b.toInt).natAbs ≤ a.toInt.natAbs := Int.natAbs_tdiv_le_natAbs _ _
  have hone : (a.toInt.tdiv b.toInt).bmod (2 ^ 64) = 1 := (Int64.ofInt_eq_iff_bmod_eq_toInt _ _).1 h
  rw [Int.bmod_def] at hone
  generalize a.toInt.tdiv b.toInt = q at hle hone
  split at hone <;> omega

/-- An operation with one constant is no operation with another one. -/
theorem eq_of_ofInt_exactly {op : Arithmetic} {c d : Int64} (hc : op = .divide → c ≠ 0) (hd : op = .divide → d ≠ 0)
    (h : ∀ v : Int64, Int64.ofInt (op.exactly v.toInt c.toInt) = .ofInt (op.exactly v.toInt d.toInt)) : c = d := by
  cases op with
  | add =>
    have hzero := h 0
    simpa [exactly] using hzero
  | subtract =>
    have hzero := h 0
    simpa [exactly] using hzero
  | multiply =>
    have hone := h 1
    simpa [exactly] using hone
  | divide =>
    have hself {x : Int64} (hx : x ≠ 0) : Int64.ofInt (x.toInt.tdiv x.toInt) = 1 := by
      have hne : x.toInt ≠ 0 := by rwa [Ne, ← Int64.toInt_zero, Int64.toInt_inj]
      rw [Int.tdiv_self hne]
      rfl
    have hcd := (h c).symm.trans (hself (hc rfl))
    have hdc := (h d).trans (hself (hd rfl))
    exact Int64.toInt_inj.1 (eq_of_tdiv_eq_one (ofInt_tdiv_eq_one hcd) (ofInt_tdiv_eq_one hdc))

end Arithmetic

namespace ConstantStage

theorem applyInt_of_ne_zero {s : ConstantStage} (h : s.op = .divide → s.constant.toInt64 ≠ 0) (v : Int64) :
    s.applyInt v = .int (.ofInt (s.op.exactly v.toInt s.constant.toInt64.toInt)) := by
  obtain ⟨op, constant⟩ := s
  cases op with
  | add => simp [applyInt, Arithmetic.exactly, Int64.ofInt_add]
  | subtract => simp [applyInt, Arithmetic.exactly, Int64.ofInt_sub]
  | multiply => simp [applyInt, Arithmetic.exactly, Int64.ofInt_mul]
  | divide =>
    have hquotient : v / constant.toInt64 = .ofInt (v.toInt.tdiv constant.toInt64.toInt) :=
      ((Int64.ofInt_eq_iff_bmod_eq_toInt _ _).2 (Int64.toInt_div _ _).symm).symm
    rw [applyInt, hquotient]
    exact if_neg (h rfl)

theorem make_int {op : Arithmetic} {c : Int64} (h : op = .divide → c ≠ 0) :
    make op (.int c) = .ok ⟨op, .ofInt c.toInt⟩ := by
  apply if_neg
  rintro ⟨hop, hzero⟩
  exact Double.toInt64_ofInt_ne_zero (h hop) (Double.toInt64_of_isZero hzero)

/-- A stage with an integer constant takes the integer that the constant is as a double; that is the constant
itself just when its bits fit in a significand, or when it is the largest integer. -/
theorem applies_exactly_iff {op : Arithmetic} {c : Int64} (h : op = .divide → c ≠ 0) :
    ∃ s, make op (.int c) = .ok s ∧
      (∀ p : Point, p.floating = false →
        s.apply p = p.withInt (.ofInt (op.exactly p.raw.toInt (Double.ofInt c.toInt).toInt64.toInt))) ∧
      ((∀ p : Point, p.floating = false → s.apply p = p.withInt (.ofInt (op.exactly p.raw.toInt c.toInt))) ↔
        Double.FitsSignificand c.toInt ∨ c = Int64.maxValue) := by
  have hkept : op = .divide → (Double.ofInt c.toInt).toInt64 ≠ 0 := fun hop => Double.toInt64_ofInt_ne_zero (h hop)
  have happly : ∀ p : Point, p.floating = false → apply ⟨op, .ofInt c.toInt⟩ p =
      p.withInt (.ofInt (op.exactly p.raw.toInt (Double.ofInt c.toInt).toInt64.toInt)) := by
    intro p hp
    have hint := applyInt_of_ne_zero (s := ⟨op, .ofInt c.toInt⟩) hkept p.raw
    simp only [apply, Point.value, hp, Bool.false_eq_true, if_false, hint]
    rfl
  refine ⟨_, make_int h, happly, ?_⟩
  rw [← Double.toInt64_ofInt_eq_self_iff]
  constructor
  · intro hexact
    apply Arithmetic.eq_of_ofInt_exactly hkept h
    intro v
    have hboth := (happly (.ofInt 0 v) rfl).symm.trans (hexact (.ofInt 0 v) rfl)
    exact congrArg Point.raw hboth
  · intro hsame p hp
    rw [happly p hp, hsame]

theorem appliesExactly_divideBySeven :
    (Arithmetic.divide = .divide → (7 : Int64) ≠ 0) ∧ Double.FitsSignificand (7 : Int64).toInt ∧
      ∃ s, make .divide (.int 7) = .ok s ∧ ∀ p : Point, p.floating = false →
        s.apply p = p.withInt (.ofInt (Arithmetic.divide.exactly p.raw.toInt (7 : Int64).toInt)) := by
  have hseven : Arithmetic.divide = .divide → (7 : Int64) ≠ 0 := by decide
  have fits : Double.FitsSignificand (7 : Int64).toInt := ⟨7, 0, by decide, by decide⟩
  obtain ⟨s, hs, -, hexact⟩ := applies_exactly_iff hseven
  exact ⟨hseven, fits, s, hs, hexact.2 (.inl fits)⟩

/-- The first integer that no double is, added to zero. -/
theorem addition_of_oddConstant :
    make .add (.int 9007199254740993) = .ok ⟨.add, .ofInt 9007199254740993⟩ ∧
      apply ⟨.add, .ofInt 9007199254740993⟩ (.ofInt 0 0) = .ofInt 0 9007199254740992 ∧
      (9007199254740992 : Int64) ≠ .ofInt (Arithmetic.add.exactly 0 9007199254740993) :=
  ⟨rfl, by decide +kernel, by decide⟩

end ConstantStage
end SeriesQuery
