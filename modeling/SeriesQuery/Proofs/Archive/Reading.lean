import SeriesQuery.Archive.Reader
import SeriesQuery.Proofs.Archive.Layout

/-! # Reading what was written

Each reader is described by the pieces that it takes and the value it makes of them: it stops right behind
its pieces, whatever follows, and on input that ends inside them it names the piece that misses bytes. This
description composes, so that of a whole record is put together from those of its fields.
-/

namespace SeriesQuery.RecordReader
open FieldPiece ArchiveRecord

variable {α β : Type}

theorem bind_apply (m : RecordReader α) (f : α → RecordReader β) (s : Source) :
    (m >>= f) s = match m s with
      | (.ok a, rest) => f a rest
      | (.error e, rest) => (.error e, rest) := by
  simp only [bind, ExceptT.bind, ExceptT.mk, StateT.bind, ExceptT.bindCont]
  cases m s with
  | mk result rest => cases result <;> rfl

theorem bind_of_ok {m : RecordReader α} {s rest : Source} {a : α} (h : m s = (.ok a, rest))
    (f : α → RecordReader β) : (m >>= f) s = f a rest := by
  rw [bind_apply, h]

theorem bind_of_error {m : RecordReader α} {s rest : Source} {e : ArchiveError}
    (h : m s = (.error e, rest)) (f : α → RecordReader β) : (m >>= f) s = (.error e, rest) := by
  rw [bind_apply, h]

/-- A fixed number of bytes is there or the source is read to its end. -/
theorem bytes_ofBytes (field : RecordField) (size : Nat) (input : List UInt8) :
    bytes field size (.ofBytes input) =
      if size ≤ input.length then (.ok (input.take size), .ofBytes (input.drop size))
      else (.error (.truncated field size input.length), .ofBytes []) := by
  rw [bytes, bind_apply]
  simp only [bytesUpTo, Source.read_ofBytes, List.length_take]
  by_cases h : size ≤ input.length
  · rw [if_neg (by omega), if_pos h]
    rfl
  · rw [if_pos (by omega), if_neg h, Nat.min_eq_right (by omega), List.drop_eq_nil_of_le (by omega)]
    rfl

/-- The reader takes the pieces as `a`: exactly them from longer input, and from input that ends inside
them nothing but the reason for the refusal. -/
structure Takes (m : RecordReader α) (ps : List FieldPiece) (a : α) : Prop where
  whole (rest : List UInt8) : m (.ofBytes (joined ps ++ rest)) = (.ok a, .ofBytes rest)
  cut {count : Nat} {e : ArchiveError} (h : missing? ps count = some e) :
    m (.ofBytes ((joined ps).take count)) = (.error e, .ofBytes [])

theorem Takes.pure (a : α) : Takes (pure a) [] a where
  whole _ := rfl
  cut h := by cases h

theorem Takes.bind {m : RecordReader α} {f : α → RecordReader β} {ps qs : List FieldPiece} {a : α} {b : β}
    (hm : Takes m ps a) (hf : Takes (f a) qs b) : Takes (m >>= f) (ps ++ qs) b where
  whole rest := by
    rw [joined_append, List.append_assoc, bind_of_ok (hm.whole _), hf.whole]
  cut {count e} h := by
    rw [joined_append, List.take_append]
    by_cases hc : count < (joined ps).length
    · rw [missing?_append_of_lt hc] at h
      rw [Nat.sub_eq_zero_of_le (Nat.le_of_lt hc), List.take_zero, List.append_nil, bind_of_error (hm.cut h)]
    · rw [Nat.not_lt] at hc
      rw [missing?_append_of_le hc] at h
      rw [List.take_of_length_le hc, bind_of_ok (hm.whole _), hf.cut h]

theorem takes_bytes (field : RecordField) (piece : List UInt8) :
    Takes (bytes field piece.length) [⟨field, piece⟩] piece where
  whole rest := by
    simp [bytes_ofBytes]
  cut {count e} h := by
    by_cases hc : count < piece.length
    · rw [missing?, if_pos hc] at h
      cases h
      have hlen : (piece.take count).length = count := List.length_take_of_le (Nat.le_of_lt hc)
      rw [joined_cons, joined_nil, List.append_nil, bytes_ofBytes, hlen, if_neg (by omega)]
    · rw [missing?, if_neg hc] at h
      cases h

theorem takes_textOfSize (field : RecordField) (s : String) :
    Takes (textOfSize field (Utf8.encode s).length) [⟨field, Utf8.encode s⟩] s := by
  refine (takes_bytes field (Utf8.encode s)).bind ?_
  rw [Utf8.decode_encode]
  exact .pure s

theorem takes_text {s : String} (h : s.utf8ByteSize ≤ textLimit) (field : RecordField) :
    Takes (text field) (textLayout field s) s := by
  have hsize : ofBigEndian (bigEndian 2 (Utf8.encode s).length) = (Utf8.encode s).length :=
    ofBigEndian_bigEndian (Nat.lt_succ_of_le h)
  have hlength := takes_bytes field (bigEndian 2 (Utf8.encode s).length)
  rw [length_bigEndian] at hlength
  refine hlength.bind ?_
  rw [hsize]
  exact takes_textOfSize field s

theorem takes_int32 (field : RecordField) {four : List UInt8} (h : four.length = 4) :
    Takes (int32 field) [⟨field, four⟩] (int32OfBytes four) := by
  have hfour := takes_bytes field four
  rw [h] at hfour
  exact hfour.bind (.pure _)

theorem takes_payload {contents : List UInt8} (h : contents.length ≤ payloadLimit) :
    Takes payload (payloadLayout contents) contents := by
  have hlimit : contents.length < 2 ^ 31 := Nat.lt_succ_of_le h
  have hsize : (int32OfBytes (bigEndian 4 contents.length)).toInt = contents.length := by
    rw [toInt_int32OfBytes (length_bigEndian 4 _), ofBigEndian_bigEndian (by omega), if_pos hlimit]
  have hsign : ¬ int32OfBytes (bigEndian 4 contents.length) < 0 := by
    rw [Int32.lt_iff_toInt_lt, hsize, Int32.toInt_zero]
    omega
  refine (takes_int32 .payloadLength (length_bigEndian 4 _)).bind ?_
  rw [if_neg hsign, hsize, Int.toNat_natCast]
  exact takes_bytes .payload contents

/-- A record that fits is taken behind the length of its first text. -/
theorem takes_recordOfSize {r : ArchiveRecord} (h : r.Fits) :
    Takes (bytes .database 2 >>= recordOfSize) r.layout r := by
  have hsize : ofBigEndian (bigEndian 2 (Utf8.encode r.database).length) =
      (Utf8.encode r.database).length := ofBigEndian_bigEndian (Nat.lt_succ_of_le h.database)
  have hlength := takes_bytes .database (bigEndian 2 (Utf8.encode r.database).length)
  rw [length_bigEndian] at hlength
  have hbucket := takes_int32 .bucket (length_int32Bytes r.bucket)
  rw [int32OfBytes_int32Bytes] at hbucket
  have hrest : Takes (recordOfSize (bigEndian 2 (Utf8.encode r.database).length))
      ([⟨.database, Utf8.encode r.database⟩] ++ (textLayout .measurement r.measurement ++
        (textLayout .seriesKey r.seriesKey ++ ([⟨.bucket, int32Bytes r.bucket⟩] ++
          (payloadLayout r.payload ++ []))))) r := by
    rw [recordOfSize, hsize]
    refine (takes_textOfSize .database r.database).bind ?_
    refine (takes_text h.measurement .measurement).bind ?_
    refine (takes_text h.seriesKey .seriesKey).bind ?_
    refine hbucket.bind ?_
    exact (takes_payload h.payload).bind (.pure r)
  exact hlength.bind hrest

/-- Once there is a byte, a record must follow. -/
theorem record?_of_ne_nil {input : List UInt8} (h : input ≠ []) :
    record? (.ofBytes input) =
      (bytes .database 2 >>= recordOfSize >>= fun r => pure (some r)) (.ofBytes input) := by
  have hsome : (input.take 2).isEmpty = false := by
    cases input with
    | nil => exact absurd rfl h
    | cons b rest => rfl
  have hupTo : bytesUpTo 2 (.ofBytes input) = (.ok (input.take 2), .ofBytes (input.drop 2)) := rfl
  rw [record?, bind_of_ok hupTo, hsome, bind_apply, bind_apply, bytes_ofBytes]
  by_cases hlen : 2 ≤ input.length
  · have htwo : ¬ (input.take 2).length < 2 := by
      rw [List.length_take_of_le hlen]
      omega
    rw [if_pos hlen, if_neg htwo, if_neg (by decide)]
    exact bind_apply _ _ _
  · have hone : (input.take 2).length < 2 := by
      rw [List.length_take]
      omega
    have hall : (input.take 2).length = input.length := by
      rw [List.length_take]
      omega
    rw [if_neg hlen, if_pos hone, hall, List.drop_eq_nil_of_le (by omega)]
    rfl

theorem laidOut_ne_nil (r : ArchiveRecord) : r.laidOut ≠ [] := by
  intro h
  have hlen := r.length_laidOut
  rw [h, encodedSize, List.length_nil] at hlen
  omega

/-- A record is read back from the bytes of its layout, whatever comes behind them. -/
theorem record?_laidOut_append {r : ArchiveRecord} (h : r.Fits) (rest : List UInt8) :
    record? (.ofBytes (r.laidOut ++ rest)) = (.ok (some r), .ofBytes rest) := by
  rw [record?_of_ne_nil (List.append_ne_nil_of_left_ne_nil (laidOut_ne_nil r) rest)]
  exact bind_of_ok ((takes_recordOfSize h).whole rest) _

/-- A record that is cut short is refused for the piece that misses bytes. -/
theorem record?_take_laidOut {r : ArchiveRecord} (h : r.Fits) {count : Nat} (pos : 0 < count)
    {e : ArchiveError} (he : missing? r.layout count = some e) :
    record? (.ofBytes (r.laidOut.take count)) = (.error e, .ofBytes []) := by
  have hsome : r.laidOut.take count ≠ [] := by
    rw [Ne, List.take_eq_nil_iff, not_or]
    exact ⟨by omega, laidOut_ne_nil r⟩
  rw [record?_of_ne_nil hsome]
  exact bind_of_error ((takes_recordOfSize h).cut he) _

/-- A record whose lengths can be written can be encoded, and reading its encoding gives the record back
and stops right behind it. -/
theorem record?_encode_append (r : ArchiveRecord) :
    (r.Fits ↔ ∃ encoded, r.encode = .ok encoded) ∧
      ∀ encoded, r.encode = .ok encoded → encoded.length = r.encodedSize ∧
        ∀ rest, record? (.ofBytes (encoded ++ rest)) = (.ok (some r), .ofBytes rest) := by
  constructor
  · constructor
    · exact fun h => ⟨r.laidOut, encode_eq_ok_iff.2 ⟨h, rfl⟩⟩
    · rintro ⟨encoded, h⟩
      exact (encode_eq_ok_iff.1 h).1
  · intro encoded h
    obtain ⟨hfits, rfl⟩ := encode_eq_ok_iff.1 h
    exact ⟨r.length_laidOut, record?_laidOut_append hfits⟩

/-- An empty text, texts of more than one byte a character, a negative bucket and no payload. -/
def sparseRecord : ArchiveRecord := ⟨"", "é", "😀", -3, []⟩

def sparseBytes : List UInt8 :=
  [0, 0, 0, 2, 0xC3, 0xA9, 0, 4, 0xF0, 0x9F, 0x98, 0x80, 0xFF, 0xFF, 0xFF, 0xFD, 0, 0, 0, 0]

theorem record?_sparseBytes_append :
    sparseRecord.encode = .ok sparseBytes ∧ sparseBytes.length = sparseRecord.encodedSize ∧
      record? (.ofBytes (sparseBytes ++ [0, 1, 0xFF])) = (.ok (some sparseRecord), .ofBytes [0, 1, 0xFF]) := by
  have encoded : sparseRecord.encode = .ok sparseBytes := by rfl
  obtain ⟨size, read⟩ := (record?_encode_append sparseRecord).2 sparseBytes encoded
  exact ⟨encoded, size, read [0, 1, 0xFF]⟩

end SeriesQuery.RecordReader
