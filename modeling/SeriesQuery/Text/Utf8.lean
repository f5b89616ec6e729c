/-! # UTF-8 bytes of texts

A text and its bytes, and where and how a byte sequence stops being UTF-8. Decoding accepts exactly
the encodings of texts; a refusal carries the position of the first byte that fits no text.
-/

namespace SeriesQuery.Utf8

def encode (s : String) : List UInt8 := s.toUTF8.data.toList

/-- Where bytes stop being UTF-8: the index of the first byte of the broken character, and how many
bytes are wrong, or `none` when the input ends inside a character that could still be completed. -/
structure Fault where
  index : Nat
  length : Option Nat
deriving DecidableEq, Repr

def Fault.message (f : Fault) : String :=
  match f.length with
  | some n => s!"invalid utf-8 sequence of {n} bytes from index {f.index}"
  | none => s!"incomplete utf-8 byte sequence from index {f.index}"

/-- A character under way: how many bytes it has so far and still needs, and the bounds of the next. -/
private structure Pending where
  seen : Nat
  needed : Nat
  low : Nat
  high : Nat

/-- What a first byte announces; `none` for a byte that starts no character. -/
private def Pending.ofLead (b : Nat) : Option Pending :=
  if b < 0x80 then some ⟨1, 0, 0x80, 0xBF⟩
  else if 0xC2 ≤ b ∧ b ≤ 0xDF then some ⟨1, 1, 0x80, 0xBF⟩
  else if b = 0xE0 then some ⟨1, 2, 0xA0, 0xBF⟩
  else if b = 0xED then some ⟨1, 2, 0x80, 0x9F⟩
  else if 0xE1 ≤ b ∧ b ≤ 0xEF then some ⟨1, 2, 0x80, 0xBF⟩
  else if b = 0xF0 then some ⟨1, 3, 0x90, 0xBF⟩
  else if 0xF1 ≤ b ∧ b ≤ 0xF3 then some ⟨1, 3, 0x80, 0xBF⟩
  else if b = 0xF4 then some ⟨1, 3, 0x80, 0x8F⟩
  else none

/-- The first fault of bytes whose current character starts at `index`. -/
private def faultFrom (index : Nat) (pending : Option Pending) : List UInt8 → Option Fault
  | [] => pending.map fun _ => ⟨index, none⟩
  | b :: rest =>
    match pending with
    | none =>
      match Pending.ofLead b.toNat with
      | none => some ⟨index, some 1⟩
      | some p => if p.needed = 0 then faultFrom (index + 1) none rest else faultFrom index (some p) rest
    | some p =>
      if p.low ≤ b.toNat ∧ b.toNat ≤ p.high then
        if p.needed = 1 then faultFrom (index + p.seen + 1) none rest
        else faultFrom index (some ⟨p.seen + 1, p.needed - 1, 0x80, 0xBF⟩) rest
      else some ⟨index, some p.seen⟩

/-- The first fault of a byte sequence; `none` on UTF-8. -/
def fault? (bytes : List UInt8) : Option Fault := faultFrom 0 none bytes

def decode (bytes : List UInt8) : Except Fault String :=
  match String.fromUTF8? ⟨bytes.toArray⟩ with
  | some s => .ok s
  | none => .error ((fault? bytes).getD ⟨0, none⟩)

theorem decode_encode (s : String) : decode (encode s) = .ok s := by
  have bytes : (⟨(encode s).toArray⟩ : ByteArray) = s.toByteArray := by simp [encode]
  have read : String.fromUTF8? s.toByteArray = some s := by
    simp [String.fromUTF8?, String.fromUTF8, s.isValidUTF8]
  simp only [decode, bytes, read]

theorem encode_of_decode {bytes : List UInt8} {s : String} (h : decode bytes = .ok s) :
    encode s = bytes := by
  unfold decode at h
  split at h
  · rename_i t ht
    cases h
    unfold String.fromUTF8? at ht
    split at ht
    · cases ht
      simp [encode, String.fromUTF8]
    · cases ht
  · cases h

end SeriesQuery.Utf8
