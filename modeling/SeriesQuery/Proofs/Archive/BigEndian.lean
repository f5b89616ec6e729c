import Mathlib.Algebra.Group.Int.Defs
import Mathlib.Algebra.GroupWithZero.Nat
import Mathlib.Data.List.Induction
import SeriesQuery.Archive.Record

/-! # Numbers as bytes

Writing a number in a fixed count of bytes and reading bytes as a number undo each other, as long as the
number is small enough for the count. The lengths of payloads are written as naturals and read as signed
numbers, which agree below `2 ^ 31`.
-/

namespace SeriesQuery

@[simp] theorem length_bigEndian (count n : Nat) : (bigEndian count n).length = count := by
  induction count generalizing n with
  | zero => rfl
  | succ count ih => simp [bigEndian, ih]

theorem ofBigEndian_concat (bytes : List UInt8) (b : UInt8) :
    ofBigEndian (bytes ++ [b]) = 256 * ofBigEndian bytes + b.toNat := by
  simp [ofBigEndian]

theorem ofBigEndian_lt (bytes : List UInt8) : ofBigEndian bytes < 256 ^ bytes.length := by
  induction bytes using List.reverseRecOn with
  | nil => decide
  | append_singleton bytes b ih =>
    have hb := b.toNat_lt
    rw [ofBigEndian_concat, List.length_append, List.length_singleton, Nat.pow_succ]
    omega

theorem ofBigEndian_bigEndian {count n : Nat} (h : n < 256 ^ count) :
    ofBigEndian (bigEndian count n) = n := by
  induction count generalizing n with
  | zero =>
    have hn : n = 0 := by simpa using h
    subst n
    rfl
  | succ count ih =>
    have hq : n / 256 < 256 ^ count := by
      rw [Nat.pow_succ] at h
      omega
    rw [bigEndian, ofBigEndian_concat, ih hq, UInt8.toNat_ofNat']
    omega

theorem bigEndian_ofBigEndian (bytes : List UInt8) :
    bigEndian bytes.length (ofBigEndian bytes) = bytes := by
  induction bytes using List.reverseRecOn with
  | nil => rfl
  | append_singleton bytes b ih =>
    have hb := b.toNat_lt
    have hq : (256 * ofBigEndian bytes + b.toNat) / 256 = ofBigEndian bytes := by omega
    have hr : UInt8.ofNat (256 * ofBigEndian bytes + b.toNat) = b := by
      apply UInt8.toNat_inj.mp
      rw [UInt8.toNat_ofNat']
      omega
    rw [ofBigEndian_concat, List.length_append, List.length_singleton, bigEndian, hq, hr, ih]

@[simp] theorem length_int32Bytes (n : Int32) : (int32Bytes n).length = 4 := length_bigEndian 4 _

theorem int32OfBytes_int32Bytes (n : Int32) : int32OfBytes (int32Bytes n) = n := by
  have h : n.toUInt32.toNat < 256 ^ 4 := n.toUInt32.toNat_lt
  rw [int32OfBytes, int32Bytes, ofBigEndian_bigEndian h, UInt32.ofNat_toNat, Int32.toInt32_toUInt32]

theorem int32Bytes_int32OfBytes {bytes : List UInt8} (h : bytes.length = 4) :
    int32Bytes (int32OfBytes bytes) = bytes := by
  have hlt := ofBigEndian_lt bytes
  rw [h] at hlt
  have hn : (UInt32.ofNat (ofBigEndian bytes)).toNat = ofBigEndian bytes :=
    UInt32.toNat_ofNat_of_lt' hlt
  rw [int32Bytes, int32OfBytes, UInt32.toUInt32_toInt32, hn]
  conv_rhs => rw [← bigEndian_ofBigEndian bytes, h]

/-- Four bytes below `2 ^ 31` are the same number with and without a sign, and all others are negative. -/
theorem toInt_int32OfBytes {bytes : List UInt8} (h : bytes.length = 4) :
    (int32OfBytes bytes).toInt =
      if ofBigEndian bytes < 2 ^ 31 then (ofBigEndian bytes : Int) else ofBigEndian bytes - 2 ^ 32 := by
  have hlt := ofBigEndian_lt bytes
  rw [h] at hlt
  rw [int32OfBytes, UInt32.toInt32_ofNat', Int32.toInt_ofNat', Int.bmod_def]
  simp only [Int32.size]
  split <;> split <;> omega

end SeriesQuery
