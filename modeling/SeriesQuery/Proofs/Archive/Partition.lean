import SeriesQuery.Proofs.Archive.RecordRun

/-! # What a run makes of its input

A run over any bytes cuts them into the encodings of the records that it answers with and a rest. The rest is
empty exactly when nothing was refused, so that no byte is skipped and none is read twice.
-/

namespace SeriesQuery
open ArchiveRecord

namespace RecordStream

/-- The records in front take their encodings off the input, one with each call. -/
theorem bytes_after_laidOut {records : List ArchiveRecord} (h : ∀ r ∈ records, r.Fits) (rest : List UInt8)
    {n : Nat} (hn : n ≤ records.length) :
    ((ofSource (.ofBytes (records.flatMap laidOut ++ rest))).after n).source.bytes =
      (records.drop n).flatMap laidOut ++ rest := by
  induction records generalizing n with
  | nil =>
    cases Nat.le_zero.1 hn
    rfl
  | cons r records ih =>
    obtain ⟨hr, hrecords⟩ := List.forall_mem_cons.1 h
    cases n with
    | zero => rfl
    | succ n =>
      have hnext := next_of_record (RecordReader.record?_laidOut_append hr (records.flatMap laidOut ++ rest))
      rw [after, List.flatMap_cons, List.append_assoc, hnext, List.drop_succ_cons]
      exact ih hrecords (Nat.le_of_succ_le_succ hn)

end RecordStream

namespace RecordReader

/-- The only bytes that are read as a record and nothing else are its encoding. -/
theorem record?_eq_whole_iff {r : ArchiveRecord} {bytes : List UInt8} :
    record? (.ofBytes bytes) = (.ok (some r), .ofBytes []) ↔ r.encode = .ok bytes := by
  rw [encode_eq_ok_iff]
  constructor
  · intro h
    obtain ⟨hfits, rest, hbytes, hrest⟩ := of_record?_ok h
    cases hrest
    exact ⟨hfits, by rw [hbytes, List.append_nil]⟩
  · rintro ⟨hfits, rfl⟩
    have hread := record?_laidOut_append hfits []
    rwa [List.append_nil] at hread

end RecordReader

namespace RecordStream

/-- How a run cuts its input: the records it answers with, their encodings, and the refusal behind them, if
there is one. -/
structure Partition (input : List UInt8) (records : List ArchiveRecord) (encodings : List (List UInt8))
    (refusals : List (Except ArchiveError ArchiveRecord)) : Prop where
  items : (ofSource (.ofBytes input)).items.1 = records.map .ok ++ refusals
  /-- The items are the first answers, and all later answers are nothing. -/
  answers (n : Nat) : (ofSource (.ofBytes input)).answer n = (records.map .ok ++ refusals)[n]?
  once : refusals = [] ∨ ∃ e, refusals = [.error e]
  encoded : records.map encode = encodings.map .ok
  /-- After each record the bytes that are left follow the encodings of the records so far. -/
  consumed {n : Nat} (h : n ≤ records.length) :
    (encodings.take n).flatten ++ ((ofSource (.ofBytes input)).after n).source.bytes = input
  complete : encodings.flatten = input ↔ refusals = []
  unique {r : ArchiveRecord} (h : r ∈ records) (bytes : List UInt8) :
    RecordReader.record? (.ofBytes bytes) = (.ok (some r), .ofBytes []) ↔ r.encode = .ok bytes

/-- A run over any bytes answers with records that can be written again, then with one refusal at most, and
then with nothing for ever. -/
theorem exists_partition (input : List UInt8) :
    ∃ records encodings refusals, Partition input records encodings refusals := by
  obtain ⟨records, rest, refusals, last, hfits, hinput, hyields, hstays, -, hend⟩ := exists_run input
  refine ⟨records, records.map laidOut, refusals, ?_⟩
  constructor
  case items => rw [items_of_yields hyields]
  case answers => exact answer_of_yields hyields hstays
  case once =>
    obtain ⟨-, rfl⟩ | ⟨-, e, rfl⟩ := hend
    · exact .inl rfl
    · exact .inr ⟨e, rfl⟩
  case encoded =>
    rw [List.map_map, List.map_inj_left]
    exact fun r hr => encode_eq_ok_iff.2 ⟨hfits r hr, rfl⟩
  case consumed =>
    intro n hn
    rw [hinput, bytes_after_laidOut hfits rest hn, ← List.append_assoc, ← List.map_take, List.flatMap_def,
      ← List.flatten_append, ← List.map_append, List.take_append_drop, List.flatMap_def]
  case complete =>
    rw [hinput, List.flatMap_def, List.self_eq_append_right]
    obtain ⟨hrest, hrefusals⟩ | ⟨hrest, e, rfl⟩ := hend
    · exact iff_of_true hrest hrefusals
    · exact iff_of_false hrest (List.cons_ne_nil _ _)
  case unique => exact fun _ bytes => RecordReader.record?_eq_whole_iff

end RecordStream
end SeriesQuery
