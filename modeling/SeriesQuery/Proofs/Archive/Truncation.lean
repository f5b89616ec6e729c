import SeriesQuery.Proofs.Archive.Delivery

/-! # Input that ends inside a record

The encoding of a record is a row of pieces. Input that is shorter ends in one of them: the pieces before it
are all there, and of its own bytes some are missing. A piece without bytes is never that one, so where a text
is empty the input ends in the piece behind it. A reader refuses the input for the piece in which it ends; only
without any input may it say that there is no record.
-/

namespace SeriesQuery

/-- In which of the pieces, given by field and size, a number of bytes ends: its field, its size and how many of
its bytes there are. -/
inductive EndsIn : List (RecordField × Nat) → Nat → RecordField → Nat → Nat → Prop where
  | here {field : RecordField} {expected actual : Nat} (lacks : actual < expected)
    (later : List (RecordField × Nat)) : EndsIn ((field, expected) :: later) actual field expected actual
  | behind (piece : RecordField × Nat) {later : List (RecordField × Nat)} {count : Nat} {field : RecordField}
    {expected actual : Nat} (h : EndsIn later count field expected actual) :
    EndsIn (piece :: later) (piece.2 + count) field expected actual

namespace EndsIn

variable {pieces : List (RecordField × Nat)} {first : RecordField × Nat} {count expected actual : Nat}
  {field : RecordField}

theorem lt (h : EndsIn pieces count field expected actual) : actual < expected := by
  induction h with
  | here lacks later => exact lacks
  | behind piece h ih => exact ih

/-- Where there is no input, the first piece is missed if it has bytes. -/
theorem of_zero (h : EndsIn (first :: pieces) 0 field expected actual) (pos : 0 < first.2) :
    field = first.1 ∧ expected = first.2 ∧ actual = 0 := by
  generalize hcount : 0 = count at h
  cases h with
  | here lacks later => simp [← hcount]
  | behind piece h => omega

end EndsIn

namespace FieldPiece

def sized (p : FieldPiece) : RecordField × Nat := (p.field, p.bytes.length)

/-- The piece that is missed is the one in which the input ends. -/
theorem missing?_eq_some_iff {ps : List FieldPiece} {count expected actual : Nat} {field : RecordField} :
    missing? ps count = some (.truncated field expected actual) ↔
      EndsIn (ps.map sized) count field expected actual := by
  induction ps generalizing count with
  | nil =>
    apply iff_of_false nofun
    intro h
    cases h
  | cons p ps ih =>
    rw [missing?, List.map_cons, sized]
    by_cases hpiece : count < p.bytes.length
    · rw [if_pos hpiece]
      constructor
      · intro h
        cases h
        exact .here hpiece _
      · intro h
        cases h with
        | here lacks later => rfl
        | behind piece h => omega
    · rw [if_neg hpiece, ih]
      constructor
      · intro h
        have hcount : count = p.bytes.length + (count - p.bytes.length) := by omega
        rw [hcount]
        exact .behind (p.field, p.bytes.length) h
      · intro h
        cases h with
        | here lacks later => exact absurd lacks hpiece
        | behind piece h => simpa using h

end FieldPiece

namespace ArchiveRecord
open RecordReader

/-- The pieces of a record that are read in one go: the lengths of texts in two bytes, the number of the bucket
and the length of the payload in four, and the texts and the payload themselves. -/
def pieceSizes (r : ArchiveRecord) : List (RecordField × Nat) :=
  [(.database, 2), (.database, r.database.utf8ByteSize), (.measurement, 2),
    (.measurement, r.measurement.utf8ByteSize), (.seriesKey, 2), (.seriesKey, r.seriesKey.utf8ByteSize),
    (.bucket, 4), (.payloadLength, 4), (.payload, r.payload.length)]

theorem map_sized_layout (r : ArchiveRecord) : r.layout.map FieldPiece.sized = r.pieceSizes := by
  simp [layout, textLayout, payloadLayout, FieldPiece.sized, pieceSizes, Utf8.length_encode]

theorem exists_endsIn {r : ArchiveRecord} {count : Nat} (h : count < r.laidOut.length) :
    ∃ field expected actual, EndsIn r.pieceSizes count field expected actual := by
  rcases FieldPiece.exists_missing_of_lt h with ⟨field, expected, actual, -, hmissing⟩
  rw [FieldPiece.missing?_eq_some_iff, map_sized_layout] at hmissing
  exact ⟨field, expected, actual, hmissing⟩

variable {r : ArchiveRecord} {count expected actual : Nat} {field : RecordField}

/-- What asking for a record gives of input that ends inside one, however the input is delivered. -/
theorem exists_record?_of_endsIn (fits : r.Fits) (h : EndsIn r.pieceSizes count field expected actual)
    {plan : List Delivery} (delivers : ∀ call ∈ plan, call.Delivers) :
    ∃ later, record? ⟨r.laidOut.take count, plan⟩ =
      (if count = 0 then .ok none else .error (.truncated field expected actual), ⟨[], later⟩) := by
  have hplain : record? (.ofBytes (r.laidOut.take count)) =
      (if count = 0 then .ok none else .error (.truncated field expected actual), .ofBytes []) := by
    by_cases hcount : count = 0
    · subst count
      rfl
    · rw [if_neg hcount]
      apply record?_take_laidOut fits (Nat.pos_of_ne_zero hcount)
      rw [FieldPiece.missing?_eq_some_iff, map_sized_layout]
      exact h
  have hsteady := steady_record? (s := ⟨r.laidOut.take count, plan⟩) delivers
  rcases hsteady with ⟨answer, ⟨left, later⟩, -, hread, hsame⟩
  cases hplain.symm.trans hsame
  exact ⟨later, hread⟩

/-- Whoever must have a record misses bytes also where there is no input. -/
theorem decode_of_endsIn (fits : r.Fits) (h : EndsIn r.pieceSizes count field expected actual) :
    decode (r.laidOut.take count) = .error (.truncated field expected actual) := by
  have noCalls : ∀ call ∈ ([] : List Delivery), call.Delivers := nofun
  rcases exists_record?_of_endsIn fits h noCalls with ⟨later, hread⟩
  by_cases hcount : count = 0
  · subst count
    rcases h.of_zero (by decide) with ⟨rfl, rfl, rfl⟩
    rfl
  · rw [if_neg hcount] at hread
    rw [decode, record, Source.ofBytes, bind_of_error hread]

/-- Input that is less than the encoding of a record ends in one of its pieces and is refused for that piece, with
its full size and the number of its bytes that are there. Only where there is no input at all is a record that is
merely asked for missing without being refused; this does not depend on how the input is delivered. -/
theorem decode_and_record?_of_cut {encoded input : List UInt8} (h : r.encode = .ok encoded)
    (front : input <+: encoded) (shorter : input ≠ encoded) :
    (∃ field expected actual, EndsIn r.pieceSizes input.length field expected actual) ∧
      ∀ field expected actual, EndsIn r.pieceSizes input.length field expected actual →
        actual < expected ∧ decode input = .error (.truncated field expected actual) ∧
          ∀ plan, (∀ call ∈ plan, call.Delivers) → ∃ later, record? ⟨input, plan⟩ =
            (if input = [] then .ok none else .error (.truncated field expected actual), ⟨[], later⟩) := by
  obtain ⟨fits, rfl⟩ := encode_eq_ok_iff.1 h
  have htake : r.laidOut.take input.length = input := (List.prefix_iff_eq_take.1 front).symm
  constructor
  · apply exists_endsIn
    exact Nat.lt_of_le_of_ne front.length_le fun hlength => shorter (front.eq_of_length hlength)
  · intro field expected actual hends
    have hdecode := decode_of_endsIn fits hends
    rw [htake] at hdecode
    refine ⟨hends.lt, hdecode, fun plan delivers => ?_⟩
    have hread := exists_record?_of_endsIn fits hends delivers
    rw [htake] at hread
    simpa only [List.length_eq_zero_iff] using hread

/-- The input ends behind the length of an empty text, so that the length of the next text is missed. -/
theorem decode_emptyDatabase :
    sparseRecord.encode = .ok sparseBytes ∧ [0, 0] <+: sparseBytes ∧ [0, 0] ≠ sparseBytes ∧
      EndsIn sparseRecord.pieceSizes 2 .measurement 2 0 ∧
      decode [0, 0] = .error (.truncated .measurement 2 0) := by
  have encoded : sparseRecord.encode = .ok sparseBytes := by rfl
  have front : [0, 0] <+: sparseBytes := by decide
  have shorter : [0, 0] ≠ sparseBytes := by decide
  have missed : EndsIn (sparseRecord.pieceSizes.drop 2) 0 .measurement 2 0 := .here (by decide) _
  have ends : EndsIn sparseRecord.pieceSizes 2 .measurement 2 0 :=
    .behind (.database, 2) (.behind (.database, 0) missed)
  exact ⟨encoded, front, shorter, ends, ((decode_and_record?_of_cut encoded front shorter).2 _ _ _ ends).2.1⟩

end ArchiveRecord
end SeriesQuery
