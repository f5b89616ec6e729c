import SeriesQuery.Proofs.Archive.BigEndian

/-! # The layout of a record

The bytes of a record cut into the pieces that are read in one go, each with the field it belongs to. A
record that fits its length prefixes is written as these pieces, and one that does not is written up to
its first text that is too long. Where input ends inside a row of pieces, the piece that misses bytes
says how the input is refused.
-/

namespace SeriesQuery

theorem Utf8.length_encode (s : String) : (Utf8.encode s).length = s.utf8ByteSize := rfl

/-- Bytes that are read in one go, as part of a field. -/
structure FieldPiece where
  field : RecordField
  bytes : List UInt8

namespace FieldPiece

def joined (ps : List FieldPiece) : List UInt8 := ps.flatMap bytes

@[simp] theorem joined_nil : joined [] = [] := rfl

@[simp] theorem joined_cons (p : FieldPiece) (ps : List FieldPiece) :
    joined (p :: ps) = p.bytes ++ joined ps := rfl

@[simp] theorem joined_append (ps qs : List FieldPiece) : joined (ps ++ qs) = joined ps ++ joined qs :=
  List.flatMap_append

/-- Why input that ends after `count` bytes of the pieces is refused: the first piece that is not all
there. -/
def missing? : List FieldPiece → Nat → Option ArchiveError
  | [], _ => none
  | p :: ps, count =>
    if count < p.bytes.length then some (.truncated p.field p.bytes.length count)
    else missing? ps (count - p.bytes.length)

/-- Input that ends inside the pieces misses bytes of one of them. -/
theorem exists_missing_of_lt {ps : List FieldPiece} {count : Nat} (h : count < (joined ps).length) :
    ∃ field expected actual, actual < expected ∧
      missing? ps count = some (.truncated field expected actual) := by
  induction ps generalizing count with
  | nil => simp at h
  | cons p ps ih =>
    rw [joined_cons, List.length_append] at h
    by_cases hp : count < p.bytes.length
    · exact ⟨p.field, p.bytes.length, count, hp, if_pos hp⟩
    · rw [missing?, if_neg hp]
      exact ih (by omega)

theorem missing?_append_of_lt {ps : List FieldPiece} {count : Nat} (h : count < (joined ps).length)
    (qs : List FieldPiece) : missing? (ps ++ qs) count = missing? ps count := by
  induction ps generalizing count with
  | nil => simp at h
  | cons p ps ih =>
    rw [joined_cons, List.length_append] at h
    rw [List.cons_append, missing?, missing?]
    split
    · rfl
    · exact ih (by omega)

theorem missing?_append_of_le {ps : List FieldPiece} {count : Nat} (h : (joined ps).length ≤ count)
    (qs : List FieldPiece) :
    missing? (ps ++ qs) count = missing? qs (count - (joined ps).length) := by
  induction ps generalizing count with
  | nil => rfl
  | cons p ps ih =>
    rw [joined_cons, List.length_append] at h ⊢
    rw [List.cons_append, missing?, if_neg (by omega), ih (by omega), Nat.sub_sub]

end FieldPiece

namespace ArchiveRecord
open FieldPiece

def textLayout (field : RecordField) (s : String) : List FieldPiece :=
  [⟨field, bigEndian 2 (Utf8.encode s).length⟩, ⟨field, Utf8.encode s⟩]

def payloadLayout (payload : List UInt8) : List FieldPiece :=
  [⟨.payloadLength, bigEndian 4 payload.length⟩, ⟨.payload, payload⟩]

def layout (r : ArchiveRecord) : List FieldPiece :=
  textLayout .database r.database ++ (textLayout .measurement r.measurement ++
    (textLayout .seriesKey r.seriesKey ++ ([⟨.bucket, int32Bytes r.bucket⟩] ++ payloadLayout r.payload)))

/-- The bytes of a record, whether or not their lengths can be written. -/
def laidOut (r : ArchiveRecord) : List UInt8 := joined r.layout

theorem length_laidOut (r : ArchiveRecord) : r.laidOut.length = r.encodedSize := by
  simp only [laidOut, layout, textLayout, payloadLayout, joined_append, joined_cons, joined_nil,
    List.length_append, List.length_nil, length_bigEndian, length_int32Bytes, Utf8.length_encode,
    encodedSize]
  omega

/-- The lengths of all texts and of the payload can be written. -/
structure Fits (r : ArchiveRecord) : Prop where
  database : r.database.utf8ByteSize ≤ textLimit
  measurement : r.measurement.utf8ByteSize ≤ textLimit
  seriesKey : r.seriesKey.utf8ByteSize ≤ textLimit
  payload : r.payload.length ≤ payloadLimit

/-- What stands behind pieces is written unless they end in an error. -/
theorem written_append (ps qs : List (Except ArchiveError (List UInt8))) :
    written (ps ++ qs) =
      match written ps with
      | (bytes, none) => (bytes ++ (written qs).1, (written qs).2)
      | (bytes, some e) => (bytes, some e) := by
  induction ps with
  | nil => rfl
  | cons p ps ih =>
    cases p with
    | error e => rfl
    | ok piece =>
      rw [List.cons_append, written, ih, written]
      rcases written ps with ⟨bytes, _ | e⟩
      · simp only [List.append_assoc]
      · rfl

theorem written_textPieces_of_le {s : String} (h : s.utf8ByteSize ≤ textLimit) (field : RecordField) :
    written (textPieces field s) = (joined (textLayout field s), none) := by
  rw [← Utf8.length_encode] at h
  rw [textPieces, if_pos h]
  rfl

theorem written_textPieces_of_lt {s : String} (h : textLimit < s.utf8ByteSize) (field : RecordField) :
    written (textPieces field s) = ([], some (.textTooLong field s.utf8ByteSize)) := by
  rw [← Utf8.length_encode] at h
  rw [textPieces, if_neg (Nat.not_le.2 h)]
  rfl

/-- Everything that can happen when a record is written. The length of the payload is checked first, and
those of the texts one after the other, each when the texts before it are already written. -/
theorem written_pieces (r : ArchiveRecord) :
    written r.pieces =
      if payloadLimit < r.payload.length then ([], some (.payloadLength r.payload.length))
      else if textLimit < r.database.utf8ByteSize then
        ([], some (.textTooLong .database r.database.utf8ByteSize))
      else if textLimit < r.measurement.utf8ByteSize then
        (joined (textLayout .database r.database),
          some (.textTooLong .measurement r.measurement.utf8ByteSize))
      else if textLimit < r.seriesKey.utf8ByteSize then
        (joined (textLayout .database r.database ++ textLayout .measurement r.measurement),
          some (.textTooLong .seriesKey r.seriesKey.utf8ByteSize))
      else (r.laidOut, none) := by
  by_cases hp : payloadLimit < r.payload.length
  · rw [if_pos hp, pieces, if_neg (Nat.not_le.2 hp)]
    rfl
  rw [if_neg hp, pieces, if_pos (Nat.not_lt.1 hp)]
  simp only [List.append_assoc]
  by_cases hd : textLimit < r.database.utf8ByteSize
  · rw [if_pos hd]
    rw [written_append, written_textPieces_of_lt hd]
  rw [if_neg hd, written_append, written_textPieces_of_le (Nat.not_lt.1 hd)]
  by_cases hm : textLimit < r.measurement.utf8ByteSize
  · simp only [written_append, written_textPieces_of_lt hm, if_pos hm, List.append_nil]
  rw [if_neg hm, written_append, written_textPieces_of_le (Nat.not_lt.1 hm)]
  by_cases hk : textLimit < r.seriesKey.utf8ByteSize
  · simp only [written_append, written_textPieces_of_lt hk, if_pos hk, List.append_nil, joined_append]
  rw [if_neg hk, written_append, written_textPieces_of_le (Nat.not_lt.1 hk)]
  rw [laidOut, layout, joined_append, joined_append, joined_append]
  rfl

theorem written_pieces_of_fits {r : ArchiveRecord} (h : r.Fits) :
    written r.pieces = (r.laidOut, none) := by
  rw [written_pieces, if_neg (Nat.not_lt.2 h.payload), if_neg (Nat.not_lt.2 h.database),
    if_neg (Nat.not_lt.2 h.measurement), if_neg (Nat.not_lt.2 h.seriesKey)]

theorem fits_of_written {r : ArchiveRecord} {bytes : List UInt8} (h : written r.pieces = (bytes, none)) :
    r.Fits ∧ bytes = r.laidOut := by
  rw [written_pieces] at h
  split at h
  · cases h
  split at h
  · cases h
  split at h
  · cases h
  split at h
  · cases h
  · rename_i hp hd hm hk
    cases h
    exact ⟨⟨Nat.not_lt.1 hd, Nat.not_lt.1 hm, Nat.not_lt.1 hk, Nat.not_lt.1 hp⟩, rfl⟩

/-- A record can be encoded when its lengths can be written, and then to the bytes of its layout. -/
theorem encode_eq_ok_iff {r : ArchiveRecord} {bytes : List UInt8} :
    r.encode = .ok bytes ↔ r.Fits ∧ bytes = r.laidOut := by
  constructor
  · intro h
    rw [encode] at h
    split at h
    · rename_i b hb
      cases h
      exact fits_of_written hb
    · cases h
  · rintro ⟨hr, rfl⟩
    rw [encode, written_pieces_of_fits hr]

end ArchiveRecord
end SeriesQuery
