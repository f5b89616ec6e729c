import SeriesQuery.Proofs.Archive.Layout

/-! # Writing into limited room

A record is written field by field into a buffer of a fixed size. A field can be in the way for two reasons: its
text is too long for a length in two bytes, which is seen before anything of it is written, or the room that is
left does not do, and then as much of it is written as fits. The first field in the way decides the error, and the
fields before it are written in full.
-/

namespace SeriesQuery

def RecordField.all : List RecordField :=
  [.database, .measurement, .seriesKey, .bucket, .payloadLength, .payload]

namespace ArchiveRecord

def text? (r : ArchiveRecord) : RecordField → Option String
  | .database => some r.database
  | .measurement => some r.measurement
  | .seriesKey => some r.seriesKey
  | .bucket | .payloadLength | .payload => none

def textBytes (s : String) : List UInt8 := bigEndian 2 s.utf8ByteSize ++ Utf8.encode s

def fieldBytes (r : ArchiveRecord) : RecordField → List UInt8
  | .database => textBytes r.database
  | .measurement => textBytes r.measurement
  | .seriesKey => textBytes r.seriesKey
  | .bucket => int32Bytes r.bucket
  | .payloadLength => bigEndian 4 r.payload.length
  | .payload => r.payload

def fieldsBytes (r : ArchiveRecord) (fields : List RecordField) : List UInt8 := fields.flatMap r.fieldBytes

/-- The field is a text whose length two bytes do not hold. -/
def TooLong (r : ArchiveRecord) (field : RecordField) : Prop :=
  ∃ s, r.text? field = some s ∧ textLimit < s.utf8ByteSize

/-- No field is in the way of its writing. -/
structure Passes (r : ArchiveRecord) (room : Nat) (fields : List RecordField) : Prop where
  short : ∀ field ∈ fields, ¬ r.TooLong field
  fit : (r.fieldsBytes fields).length ≤ room

/-- What is written of a record into limited room, and the error, where something is in the way: the length of
the payload at once, and else the first field that does not pass. -/
inductive StoppedBy (r : ArchiveRecord) (room : Nat) : List UInt8 → ArchiveError → Prop where
  | payload (long : payloadLimit < r.payload.length) : StoppedBy r room [] (.payloadLength r.payload.length)
  | text (payload : r.payload.length ≤ payloadLimit) {before after : List RecordField} {field : RecordField}
    (order : RecordField.all = before ++ field :: after) (passes : r.Passes room before) {s : String}
    (isText : r.text? field = some s) (long : textLimit < s.utf8ByteSize) :
    StoppedBy r room (r.fieldsBytes before) (.textTooLong field s.utf8ByteSize)
  | room (payload : r.payload.length ≤ payloadLimit) {before after : List RecordField} {field : RecordField}
    (order : RecordField.all = before ++ field :: after) (passes : r.Passes room before)
    (short : ¬ r.TooLong field) (lacks : room < (r.fieldsBytes before).length + (r.fieldBytes field).length) :
    StoppedBy r room (r.fieldsBytes before ++ (r.fieldBytes field).take (room - (r.fieldsBytes before).length))
      (.device .bufferFull)

@[simp] theorem fieldsBytes_nil (r : ArchiveRecord) : r.fieldsBytes [] = [] := rfl

@[simp] theorem fieldsBytes_append (r : ArchiveRecord) (before after : List RecordField) :
    r.fieldsBytes (before ++ after) = r.fieldsBytes before ++ r.fieldsBytes after :=
  List.flatMap_append

@[simp] theorem fieldsBytes_cons (r : ArchiveRecord) (field : RecordField) (fields : List RecordField) :
    r.fieldsBytes (field :: fields) = r.fieldBytes field ++ r.fieldsBytes fields := rfl

theorem fieldsBytes_all (r : ArchiveRecord) : r.fieldsBytes RecordField.all = r.laidOut := by
  simp [RecordField.all, fieldBytes, textBytes, laidOut, layout, textLayout, payloadLayout, Utf8.length_encode]

theorem length_fieldsBytes_all (r : ArchiveRecord) : (r.fieldsBytes RecordField.all).length = r.encodedSize := by
  rw [fieldsBytes_all, length_laidOut]

/-- All fields pass when the lengths of the texts can be written and the room does for the record. -/
theorem passes_all_iff {r : ArchiveRecord} {room : Nat} (payload : r.payload.length ≤ payloadLimit) :
    r.Passes room RecordField.all ↔ r.Fits ∧ r.encodedSize ≤ room := by
  constructor
  · rintro ⟨short, fit⟩
    have hsize (field : RecordField) {s : String} (htext : r.text? field = some s) (hfield : field ∈ RecordField.all) :
        s.utf8ByteSize ≤ textLimit := Nat.not_lt.1 fun long => short field hfield ⟨s, htext, long⟩
    rw [length_fieldsBytes_all] at fit
    exact ⟨⟨hsize .database rfl (by decide), hsize .measurement rfl (by decide),
      hsize .seriesKey rfl (by decide), payload⟩, fit⟩
  · rintro ⟨fits, room⟩
    refine ⟨?_, by rwa [length_fieldsBytes_all]⟩
    rintro field - ⟨s, htext, long⟩
    cases field with
    | database =>
      cases htext
      exact Nat.not_lt.2 fits.database long
    | measurement =>
      cases htext
      exact Nat.not_lt.2 fits.measurement long
    | seriesKey =>
      cases htext
      exact Nat.not_lt.2 fits.seriesKey long
    | bucket => cases htext
    | payloadLength => cases htext
    | payload => cases htext

/-! ## Pieces of fields -/

def fieldPieces (r : ArchiveRecord) : RecordField → List (Except ArchiveError (List UInt8))
  | .database => textPieces .database r.database
  | .measurement => textPieces .measurement r.measurement
  | .seriesKey => textPieces .seriesKey r.seriesKey
  | .bucket => [.ok (int32Bytes r.bucket)]
  | .payloadLength => [.ok (bigEndian 4 r.payload.length)]
  | .payload => [.ok r.payload]

theorem pieces_eq_flatMap {r : ArchiveRecord} (payload : r.payload.length ≤ payloadLimit) :
    r.pieces = RecordField.all.flatMap r.fieldPieces := by
  rw [pieces, if_pos payload]
  simp [RecordField.all, fieldPieces]

theorem fieldPieces_of_text {r : ArchiveRecord} {field : RecordField} {s : String} (h : r.text? field = some s) :
    r.fieldPieces field = textPieces field s ∧ r.fieldBytes field = textBytes s := by
  cases field <;> cases h <;> exact ⟨rfl, rfl⟩

theorem fieldPieces_of_not_tooLong {r : ArchiveRecord} {field : RecordField} (h : ¬ r.TooLong field) :
    ∃ parts : List (List UInt8), r.fieldPieces field = parts.map .ok ∧ parts.flatten = r.fieldBytes field := by
  cases htext : r.text? field with
  | some s =>
    have hsize : (Utf8.encode s).length ≤ textLimit := by
      rw [Utf8.length_encode]
      exact Nat.not_lt.1 fun long => h ⟨s, htext, long⟩
    obtain ⟨hpieces, hbytes⟩ := fieldPieces_of_text htext
    refine ⟨[bigEndian 2 (Utf8.encode s).length, Utf8.encode s], ?_, ?_⟩
    · rw [hpieces, textPieces, if_pos hsize]
      rfl
    · rw [hbytes, textBytes, Utf8.length_encode]
      simp
  | none =>
    refine ⟨[r.fieldBytes field], ?_, by simp⟩
    cases field with
    | database | measurement | seriesKey => cases htext
    | bucket | payloadLength | payload => rfl

theorem exists_parts {r : ArchiveRecord} {fields : List RecordField} (h : ∀ field ∈ fields, ¬ r.TooLong field) :
    ∃ parts : List (List UInt8), fields.flatMap r.fieldPieces = parts.map .ok ∧
      parts.flatten = r.fieldsBytes fields := by
  induction fields with
  | nil => exact ⟨[], rfl, rfl⟩
  | cons field fields ih =>
    obtain ⟨hfield, hfields⟩ := List.forall_mem_cons.1 h
    obtain ⟨first, hfirst, hbytes⟩ := fieldPieces_of_not_tooLong hfield
    obtain ⟨others, hothers, hmore⟩ := ih hfields
    refine ⟨first ++ others, ?_, ?_⟩
    · rw [List.flatMap_cons, hfirst, hothers, List.map_append]
    · rw [List.flatten_append, hbytes, hmore, fieldsBytes_cons]

/-! ## Writing -/

section Parts

variable {room : Nat} {parts : List (List UInt8)} {rest : List (Except ArchiveError (List UInt8))}

theorem writtenWithin_append_of_le (h : parts.flatten.length ≤ room) :
    writtenWithin room (parts.map .ok ++ rest) =
      (parts.flatten ++ (writtenWithin (room - parts.flatten.length) rest).1,
        (writtenWithin (room - parts.flatten.length) rest).2) := by
  induction parts generalizing room with
  | nil => rfl
  | cons part parts ih =>
    rw [List.flatten_cons, List.length_append] at h ⊢
    rw [List.map_cons, List.cons_append, writtenWithin, if_pos (by omega), ih (by omega), Nat.sub_sub,
      List.append_assoc]

/-- Parts that do not all fit fill the room. -/
theorem writtenWithin_append_of_lt (h : room < parts.flatten.length) :
    writtenWithin room (parts.map .ok ++ rest) = (parts.flatten.take room, some (.device .bufferFull)) := by
  induction parts generalizing room with
  | nil => exact absurd h (Nat.not_lt_zero room)
  | cons part parts ih =>
    rw [List.flatten_cons, List.length_append] at h
    rw [List.map_cons, List.cons_append, writtenWithin, List.flatten_cons, List.take_append]
    split
    · rename_i hpart
      rw [ih (by omega), List.take_of_length_le hpart]
    · rename_i hpart
      have hnone : room - part.length = 0 := by omega
      rw [hnone, List.take_zero, List.append_nil]

end Parts

section Fields

variable {r : ArchiveRecord} {room : Nat} {before after fields : List RecordField} {field : RecordField}

theorem writtenWithin_of_passes (h : r.Passes room before) (rest : List (Except ArchiveError (List UInt8))) :
    writtenWithin room (before.flatMap r.fieldPieces ++ rest) =
      (r.fieldsBytes before ++ (writtenWithin (room - (r.fieldsBytes before).length) rest).1,
        (writtenWithin (room - (r.fieldsBytes before).length) rest).2) := by
  obtain ⟨parts, hparts, hbytes⟩ := exists_parts h.short
  rw [hparts, ← hbytes]
  apply writtenWithin_append_of_le
  rw [hbytes]
  exact h.fit

theorem writtenWithin_of_tooLong {s : String} (isText : r.text? field = some s) (long : textLimit < s.utf8ByteSize)
    (rest : List (Except ArchiveError (List UInt8))) :
    writtenWithin room (r.fieldPieces field ++ rest) = ([], some (.textTooLong field s.utf8ByteSize)) := by
  rw [← Utf8.length_encode] at long ⊢
  rw [(fieldPieces_of_text isText).1, textPieces, if_neg (Nat.not_le.2 long)]
  rfl

theorem writtenWithin_of_lacks (short : ¬ r.TooLong field) (lacks : room < (r.fieldBytes field).length)
    (rest : List (Except ArchiveError (List UInt8))) :
    writtenWithin room (r.fieldPieces field ++ rest) =
      ((r.fieldBytes field).take room, some (.device .bufferFull)) := by
  obtain ⟨parts, hparts, hbytes⟩ := fieldPieces_of_not_tooLong short
  rw [hparts, ← hbytes]
  apply writtenWithin_append_of_lt
  rwa [hbytes]

/-- Either all fields pass, or there is a first that does not. -/
theorem passes_or_exists_first (r : ArchiveRecord) (room : Nat) (fields : List RecordField) :
    r.Passes room fields ∨ ∃ before field after, fields = before ++ field :: after ∧ r.Passes room before ∧
      (r.TooLong field ∨ ¬ r.TooLong field ∧ room < (r.fieldsBytes before).length + (r.fieldBytes field).length) := by
  induction fields using List.reverseRecOn with
  | nil => exact .inl ⟨nofun, Nat.zero_le room⟩
  | append_singleton before field ih =>
    obtain passes | ⟨earlier, first, after, rfl, passes, stops⟩ := ih
    · by_cases long : r.TooLong field
      · exact .inr ⟨before, field, [], rfl, passes, .inl long⟩
      by_cases lacks : room < (r.fieldsBytes before).length + (r.fieldBytes field).length
      · exact .inr ⟨before, field, [], rfl, passes, .inr ⟨long, lacks⟩⟩
      · refine .inl ⟨?_, ?_⟩
        · rw [List.forall_mem_append, List.forall_mem_singleton]
          exact ⟨passes.short, long⟩
        · rw [fieldsBytes_append, fieldsBytes_cons, fieldsBytes_nil, List.append_nil, List.length_append]
          exact Nat.not_lt.1 lacks
    · exact .inr ⟨earlier, first, after ++ [field], by simp, passes, stops⟩

theorem StoppedBy.writtenWithin_eq {bytes : List UInt8} {error : ArchiveError} (h : r.StoppedBy room bytes error) :
    writtenWithin room r.pieces = (bytes, some error) := by
  cases h with
  | payload long =>
    rw [pieces, if_neg (Nat.not_le.2 long)]
    rfl
  | text payload order passes isText long =>
    rw [pieces_eq_flatMap payload, order, List.flatMap_append, List.flatMap_cons, writtenWithin_of_passes passes,
      writtenWithin_of_tooLong isText long, List.append_nil]
  | @room payload before after field order passes short lacks =>
    have hleft : room - (r.fieldsBytes before).length < (r.fieldBytes field).length := by
      have hfit := passes.fit
      omega
    rw [pieces_eq_flatMap payload, order, List.flatMap_append, List.flatMap_cons, writtenWithin_of_passes passes,
      writtenWithin_of_lacks short hleft]

/-- A record is written in full, or something is in the way. -/
theorem writtenWithin_cases (r : ArchiveRecord) (room : Nat) :
    (r.Fits ∧ r.encodedSize ≤ room) ∧ writtenWithin room r.pieces = (r.fieldsBytes RecordField.all, none) ∨
      ¬ (r.Fits ∧ r.encodedSize ≤ room) ∧ ∃ bytes error, r.StoppedBy room bytes error := by
  by_cases payload : r.payload.length ≤ payloadLimit
  · rw [← passes_all_iff payload]
    obtain passes | ⟨before, field, after, order, passes, stops⟩ := passes_or_exists_first r room RecordField.all
    · left
      have hwritten := writtenWithin_of_passes passes []
      rw [List.append_nil] at hwritten
      rw [pieces_eq_flatMap payload, hwritten]
      exact ⟨passes, by simp [writtenWithin]⟩
    · right
      obtain ⟨s, isText, long⟩ | ⟨short, lacks⟩ := stops
      · refine ⟨fun all => all.short field ?_ ⟨s, isText, long⟩, _, _, .text payload order passes isText long⟩
        rw [order]
        exact List.mem_append_right _ List.mem_cons_self
      · refine ⟨fun all => ?_, _, _, .room payload order passes short lacks⟩
        have hfit := all.fit
        rw [order, fieldsBytes_append, fieldsBytes_cons, List.length_append, List.length_append] at hfit
        omega
  · exact .inr ⟨fun h => payload h.1.payload, _, _, .payload (Nat.not_le.1 payload)⟩

theorem StoppedBy.length_of_bufferFull {bytes : List UInt8} (h : r.StoppedBy room bytes (.device .bufferFull)) :
    bytes.length = room := by
  cases h with
  | room payload order passes short lacks =>
    have hfit := passes.fit
    rw [List.length_append, List.length_take]
    omega

end Fields

/-- A record can be written into limited room exactly when its lengths can be written and the room does for its
size, which is what it takes; else the first thing in the way decides what is written and the error, and room that
does not do is filled. -/
theorem writtenWithin_iff_fits_or_stoppedBy (r : ArchiveRecord) (room : Nat) :
    (∀ bytes, writtenWithin room r.pieces = (bytes, none) ↔
        (r.Fits ∧ r.encodedSize ≤ room) ∧ bytes = r.fieldsBytes RecordField.all) ∧
      (r.fieldsBytes RecordField.all).length = r.encodedSize ∧
      (∀ bytes error, writtenWithin room r.pieces = (bytes, some error) ↔ r.StoppedBy room bytes error) ∧
      ∀ bytes, r.StoppedBy room bytes (.device .bufferFull) → bytes.length = room := by
  refine ⟨fun bytes => ?_, r.length_fieldsBytes_all, fun bytes error => ⟨fun h => ?_, (·.writtenWithin_eq)⟩,
    fun bytes => (·.length_of_bufferFull)⟩
  · obtain ⟨fits, hwritten⟩ | ⟨hfits, others, error, stopped⟩ := r.writtenWithin_cases room
    · rw [hwritten, Prod.mk.injEq, eq_comm]
      exact ⟨fun h => ⟨fits, h.1⟩, fun h => ⟨h.2, rfl⟩⟩
    · rw [stopped.writtenWithin_eq]
      exact iff_of_false nofun fun h => hfits h.1
  · obtain ⟨-, hwritten⟩ | ⟨-, others, other, stopped⟩ := r.writtenWithin_cases room
    · cases hwritten.symm.trans h
    · cases stopped.writtenWithin_eq.symm.trans h
      exact stopped

/-- The room ends inside the second text. -/
example : writtenWithin 6 (pieces ⟨"db", "cpu", "", 0, [1]⟩) = ([0, 2, 100, 98, 0, 3], some (.device .bufferFull)) := by
  decide

end ArchiveRecord
end SeriesQuery
