import Mathlib.Data.List.Basic
import Mathlib.Tactic.SplitIfs
import SeriesQuery.Json.Reader
import SeriesQuery.Json.Writer

/-! # Written strings

A text between quotes is read back as that text. Each of its characters comes as the bytes that encode it, as an
escape with one letter, or as an escape with a code unit; whichever it is, the pieces that are read are worth the
bytes of the character.
-/

namespace SeriesQuery

namespace Utf8

def bytesOf (text : List Char) : List UInt8 := text.flatMap String.utf8EncodeChar

@[simp] theorem bytesOf_nil : bytesOf [] = [] := rfl

@[simp] theorem bytesOf_append (front back : List Char) : bytesOf (front ++ back) = bytesOf front ++ bytesOf back :=
  List.flatMap_append

theorem bytesOf_cons (c : Char) (text : List Char) : bytesOf (c :: text) = String.utf8EncodeChar c ++ bytesOf text :=
  List.flatMap_cons

theorem encode_eq_bytesOf (s : String) : encode s = bytesOf s.toList := by
  have hbytes : s.toByteArray = s.toList.utf8Encode := by
    rw [← String.toByteArray_ofList, String.ofList_toList]
  simp [encode, bytesOf, hbytes, List.utf8Encode]

theorem utf8EncodeChar_of_lt {c : Char} (h : c.toNat < 0x80) : String.utf8EncodeChar c = [UInt8.ofNat c.toNat] := by
  have hval : c.val.toNat ≤ 0x7f := Nat.le_of_lt_succ h
  simp only [String.utf8EncodeChar, if_pos hval]
  rfl

theorem toNat_ofNat_of_lt {c : Char} (h : c.toNat < 0x80) : (UInt8.ofNat c.toNat).toNat = c.toNat := by
  rw [UInt8.toNat_ofNat']
  exact Nat.mod_eq_of_lt (by omega)

theorem bytesOf_cons_of_lt {c : Char} (h : c.toNat < 0x80) (text : List Char) :
    bytesOf (c :: text) = UInt8.ofNat c.toNat :: bytesOf text := by
  rw [bytesOf_cons, utf8EncodeChar_of_lt h, List.singleton_append]

/-- The bytes of a character outside ASCII are none of ASCII. -/
theorem le_of_mem_utf8EncodeChar {c : Char} (h : 0x80 ≤ c.toNat) {b : UInt8} (hb : b ∈ String.utf8EncodeChar c) :
    0x80 ≤ b.toNat := by
  have hval : ¬ c.val.toNat ≤ 0x7f := Nat.not_le_of_lt h
  simp only [String.utf8EncodeChar, if_neg hval] at hb
  split at hb
  · simp only [List.mem_cons, List.not_mem_nil, or_false] at hb
    rcases hb with rfl | rfl <;> simp only [UInt8.toNat_ofNat'] <;> omega
  · split at hb
    · simp only [List.mem_cons, List.not_mem_nil, or_false] at hb
      rcases hb with rfl | rfl | rfl <;> simp only [UInt8.toNat_ofNat'] <;> omega
    · simp only [List.mem_cons, List.not_mem_nil, or_false] at hb
      rcases hb with rfl | rfl | rfl | rfl <;> simp only [UInt8.toNat_ofNat'] <;> omega

end Utf8

namespace Json

open Utf8 (bytesOf)

theorem isAt_ofNat {c : Char} (h : c.toNat < 0x80) (d : Char) : isAt (UInt8.ofNat c.toNat) d = decide (c = d) := by
  rw [isAt, Utf8.toNat_ofNat_of_lt h, Bool.eq_iff_iff, beq_iff_eq, decide_eq_true_iff, Char.toNat_inj]

/-- What the written form of a character is read as. -/
def charPieces (c : Char) : List Piece :=
  if c.toNat < 0x20 ∧ c ∉ ['\x08', '\x0c', '\n', '\r', '\t'] then [.unit c.toNat]
  else (String.utf8EncodeChar c).map .byte

theorem charPieces_of_le {c : Char} (h : 0x20 ≤ c.toNat) : charPieces c = (String.utf8EncodeChar c).map .byte :=
  if_neg fun hc => Nat.not_lt.2 h hc.1

/-- Only quotes, backslashes and control characters are escaped. -/
theorem escapeChar_eq_self {c : Char} (hlow : 0x20 ≤ c.toNat) (hquote : c ≠ '"') (hslash : c ≠ '\\') :
    escapeChar c = [c] := by
  have hne (d : Char) (hd : d.toNat < 0x20) : c ≠ d := by
    rintro rfl
    exact Nat.not_lt.2 hlow hd
  simp [escapeChar, hquote, hslash, hne '\x08' (by decide), hne '\x0c' (by decide), hne '\n' (by decide),
    hne '\r' (by decide), hne '\t' (by decide), Nat.not_lt.2 hlow]

theorem pieceBytes_bytes (bytes : List UInt8) (rest : List Piece) :
    pieceBytes (bytes.map .byte ++ rest) = (pieceBytes rest).map (bytes ++ ·) := by
  induction bytes with
  | nil => simp
  | cons b bytes ih => simp [pieceBytes, ih, Function.comp_def]

theorem pieceBytes_charPieces (c : Char) (rest : List Piece) :
    pieceBytes (charPieces c ++ rest) = (pieceBytes rest).map (String.utf8EncodeChar c ++ ·) := by
  unfold charPieces
  split
  · rename_i h
    have hlow : ¬ (0xD800 ≤ c.toNat ∧ c.toNat ≤ 0xDBFF) := by omega
    have hhigh : ¬ (0xDC00 ≤ c.toNat ∧ c.toNat ≤ 0xDFFF) := by omega
    rw [List.singleton_append, pieceBytes.eq_def]
    simp only [hlow, hhigh, if_false, Char.ofNat_toNat]
  · exact pieceBytes_bytes _ rest

theorem pieceBytes_flatMap (text : List Char) : pieceBytes (text.flatMap charPieces) = some (bytesOf text) := by
  induction text with
  | nil => rfl
  | cons c text ih => simp [pieceBytes_charPieces, ih, Utf8.bytesOf_cons]

/-! ## Reading the pieces -/

/-- Bytes that neither end a string nor start an escape nor need one. -/
def IsPlainByte (b : UInt8) : Prop := isAt b '"' = false ∧ ¬ b < 0x20 ∧ isAt b '\\' = false

theorem readPieces_plain {bytes : List UInt8} (h : ∀ b ∈ bytes, IsPlainByte b) (fuel : Nat) (rest : List UInt8) :
    readPieces (fuel + bytes.length) (bytes ++ rest) =
      (readPieces fuel rest).map fun r => (bytes.map .byte ++ r.1, r.2) := by
  induction bytes with
  | nil => simp
  | cons b bytes ih =>
    rw [List.forall_mem_cons] at h
    obtain ⟨⟨hquote, hlow, hslash⟩, hbytes⟩ := h
    rw [List.length_cons, ← Nat.add_assoc, List.cons_append, readPieces.eq_def]
    simp only [hquote, hlow, hslash, Bool.false_eq_true, if_false, ih hbytes]
    cases readPieces fuel rest <;> rfl

theorem isPlainByte_of_mem {c : Char} (hlow : 0x20 ≤ c.toNat) (hquote : c ≠ '"') (hslash : c ≠ '\\') {b : UInt8}
    (hb : b ∈ String.utf8EncodeChar c) : IsPlainByte b := by
  by_cases hc : c.toNat < 0x80
  · rw [Utf8.utf8EncodeChar_of_lt hc, List.mem_singleton] at hb
    subst hb
    refine ⟨by simp [isAt_ofNat hc, hquote], ?_, by simp [isAt_ofNat hc, hslash]⟩
    rw [UInt8.lt_iff_toNat_lt, Utf8.toNat_ofNat_of_lt hc, show (0x20 : UInt8).toNat = 32 from rfl]
    omega
  · have hb' := Utf8.le_of_mem_utf8EncodeChar (Nat.not_lt.1 hc) hb
    refine ⟨beq_eq_false_iff_ne.2 ?_, ?_, beq_eq_false_iff_ne.2 ?_⟩
    · rw [show '"'.toNat = 34 from rfl]
      omega
    · rw [UInt8.lt_iff_toNat_lt, show (0x20 : UInt8).toNat = 32 from rfl]
      omega
    · rw [show '\\'.toNat = 92 from rfl]
      omega

theorem hexDigit?_digitChar : ∀ k < 16, hexDigit? (UInt8.ofNat (Nat.digitChar k).toNat) = some k := by decide

theorem toNat_digitChar_lt : ∀ k < 16, (Nat.digitChar k).toNat < 0x80 := by decide

/-- The digits of a control character are read as its code unit. -/
theorem readUnit_control {n : Nat} (h : n < 0x20) (rest : List UInt8) :
    readUnit (bytesOf ['0', '0', Nat.digitChar (n / 16), Nat.digitChar (n % 16)] ++ rest) = some (n, rest) := by
  have hhigh : n / 16 < 16 := by omega
  have hlow : n % 16 < 16 := by omega
  have hzero : hexDigit? (UInt8.ofNat '0'.toNat) = some 0 := rfl
  rw [Utf8.bytesOf_cons_of_lt (by decide), Utf8.bytesOf_cons_of_lt (by decide),
    Utf8.bytesOf_cons_of_lt (toNat_digitChar_lt _ hhigh), Utf8.bytesOf_cons_of_lt (toNat_digitChar_lt _ hlow),
    Utf8.bytesOf_nil]
  simp only [List.cons_append, List.nil_append, readUnit, hzero, hexDigit?_digitChar _ hhigh,
    hexDigit?_digitChar _ hlow]
  congr 2
  omega

theorem readPieces_unit {fuel n : Nat} {bytes rest : List UInt8} (h : readUnit bytes = some (n, rest)) :
    readPieces (fuel + 1) (UInt8.ofNat '\\'.toNat :: UInt8.ofNat 'u'.toNat :: bytes) =
      (readPieces fuel rest).map fun r => (.unit n :: r.1, r.2) := by
  have hquote : isAt (UInt8.ofNat '\\'.toNat) '"' = false := rfl
  have hlow : ¬ UInt8.ofNat '\\'.toNat < 0x20 := by decide
  have hslash : isAt (UInt8.ofNat '\\'.toNat) '\\' = true := rfl
  have hu : isAt (UInt8.ofNat 'u'.toNat) 'u' = true := rfl
  rw [readPieces]
  simp only [hquote, hlow, hslash, hu, Bool.false_eq_true, if_false, if_true, h]
  cases hr : readPieces fuel rest <;> simp [hr]

/-- The escapes with one letter. -/
theorem readPieces_letter {c letter : Char} (hletter : letter.toNat < 0x80) (hu : letter ≠ 'u')
    (hc : simpleEscape? (UInt8.ofNat letter.toNat) = some (UInt8.ofNat c.toNat)) (fuel : Nat) (rest : List UInt8) :
    readPieces (fuel + 1) (bytesOf ['\\', letter] ++ rest) =
      (readPieces fuel rest).map fun r => (.byte (UInt8.ofNat c.toNat) :: r.1, r.2) := by
  have hquote : isAt (UInt8.ofNat '\\'.toNat) '"' = false := rfl
  have hlow : ¬ UInt8.ofNat '\\'.toNat < 0x20 := by decide
  have hslash : isAt (UInt8.ofNat '\\'.toNat) '\\' = true := rfl
  have hnotu : isAt (UInt8.ofNat letter.toNat) 'u' = false := by simp [isAt_ofNat hletter, hu]
  rw [Utf8.bytesOf_cons_of_lt (by decide), Utf8.bytesOf_cons_of_lt hletter, Utf8.bytesOf_nil, List.cons_append,
    List.cons_append, List.nil_append, readPieces.eq_def]
  simp only [hquote, hlow, hslash, hnotu, Bool.false_eq_true, if_false, if_true, hc]
  cases readPieces fuel rest <;> simp

theorem readPieces_escapeChar (c : Char) (fuel : Nat) (rest : List UInt8) :
    readPieces (fuel + (charPieces c).length) (bytesOf (escapeChar c) ++ rest) =
      (readPieces fuel rest).map fun r => (charPieces c ++ r.1, r.2) := by
  by_cases hletter : c ∈ ['"', '\\', '\x08', '\x0c', '\n', '\r', '\t']
  · simp only [List.mem_cons, List.not_mem_nil, or_false] at hletter
    rcases hletter with rfl | rfl | rfl | rfl | rfl | rfl | rfl <;>
      exact readPieces_letter (by decide) (by decide) rfl fuel rest
  · simp only [List.mem_cons, List.not_mem_nil, or_false, not_or] at hletter
    obtain ⟨hquote, hslash, hb, hf, hn, hr, ht⟩ := hletter
    by_cases hlow : c.toNat < 0x20
    · have hpieces : charPieces c = [.unit c.toNat] := by simp [charPieces, hlow, hb, hf, hn, hr, ht]
      have hescape : escapeChar c =
          '\\' :: 'u' :: ['0', '0', Nat.digitChar (c.toNat / 16), Nat.digitChar (c.toNat % 16)] := by
        simp [escapeChar, hlow, hquote, hslash, hb, hf, hn, hr, ht]
      rw [hpieces, hescape, Utf8.bytesOf_cons_of_lt (by decide), Utf8.bytesOf_cons_of_lt (by decide), List.cons_append,
        List.cons_append]
      exact readPieces_unit (readUnit_control hlow rest)
    · have hle : 0x20 ≤ c.toNat := Nat.not_lt.1 hlow
      rw [charPieces_of_le hle, escapeChar_eq_self hle hquote hslash, Utf8.bytesOf_cons, Utf8.bytesOf_nil,
        List.append_nil, List.length_map]
      exact readPieces_plain (fun b hb => isPlainByte_of_mem hle hquote hslash hb) fuel rest

theorem readPieces_text (text : List Char) (fuel : Nat) (rest : List UInt8) :
    readPieces (fuel + 1 + (text.flatMap charPieces).length) (bytesOf (text.flatMap escapeChar ++ ['"']) ++ rest) =
      some (text.flatMap charPieces, rest) := by
  induction text with
  | nil => rfl
  | cons c text ih =>
    rw [List.flatMap_cons, List.flatMap_cons, List.length_append, List.append_assoc, Utf8.bytesOf_append,
      List.append_assoc, Nat.add_comm (charPieces c).length, ← Nat.add_assoc, readPieces_escapeChar, ih]
    rfl

/-- There are no more pieces than bytes to read them from. -/
theorem length_charPieces_le (c : Char) : (charPieces c).length ≤ (bytesOf (escapeChar c)).length := by
  by_cases hc : c.toNat < 0x80
  · have hpieces : (charPieces c).length = 1 := by
      unfold charPieces
      split <;> simp [Utf8.utf8EncodeChar_of_lt hc]
    have hescape : escapeChar c ≠ [] := by
      unfold escapeChar
      split_ifs <;> simp
    obtain ⟨d, more, hmore⟩ := List.exists_cons_of_ne_nil hescape
    have hbytes := List.length_pos_iff.2 (@String.utf8EncodeChar_ne_nil d)
    rw [hpieces, hmore, Utf8.bytesOf_cons, List.length_append]
    omega
  · have hquote : c ≠ '"' := fun h => hc (by rw [h]; decide)
    have hslash : c ≠ '\\' := fun h => hc (by rw [h]; decide)
    refine Nat.le_of_eq ?_
    rw [charPieces_of_le (by omega), escapeChar_eq_self (by omega) hquote hslash, Utf8.bytesOf_cons, Utf8.bytesOf_nil,
      List.append_nil, List.length_map]

theorem length_flatMap_charPieces_le (text : List Char) :
    (text.flatMap charPieces).length ≤ (bytesOf (text.flatMap escapeChar)).length := by
  induction text with
  | nil => exact Nat.le_refl 0
  | cons c text ih =>
    rw [List.flatMap_cons, List.flatMap_cons, Utf8.bytesOf_append, List.length_append, List.length_append]
    exact Nat.add_le_add (length_charPieces_le c) ih

/-- A text with its escapes is read back from behind its opening quote up to the closing one. -/
theorem readString_quoted {s : String} {fuel : Nat} (h : (bytesOf (s.toList.flatMap escapeChar)).length < fuel)
    (rest : List UInt8) :
    readString fuel (bytesOf (s.toList.flatMap escapeChar ++ ['"']) ++ rest) = some (some s, rest) := by
  have hpieces := length_flatMap_charPieces_le s.toList
  obtain ⟨spare, rfl⟩ := Nat.exists_eq_add_of_le (Nat.lt_of_le_of_lt hpieces h)
  have hread := readPieces_text s.toList spare rest
  have hfuel : spare + 1 + (s.toList.flatMap charPieces).length =
      (s.toList.flatMap charPieces).length.succ + spare := by omega
  have htext : (pieceBytes (s.toList.flatMap charPieces)).bind (fun bs => (Utf8.decode bs).toOption) = some s := by
    rw [pieceBytes_flatMap, ← Utf8.encode_eq_bytesOf, Option.bind_some, Utf8.decode_encode]
    rfl
  rw [hfuel] at hread
  simp only [readString, hread, Option.bind_eq_bind, Option.bind_some, htext]

end Json
end SeriesQuery
