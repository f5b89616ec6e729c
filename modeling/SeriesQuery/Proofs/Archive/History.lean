import SeriesQuery.Proofs.Archive.RecordRun

/-! # Histories of an archive file

Records are appended to one file, and some of them are refused. The invariant of a history is that the
file holds the layouts of the accepted records, one behind the other. It lasts until a record is refused
for a text that is not its first: the texts before that one are then already in the file and stay there.
-/

namespace SeriesQuery
open FieldPiece ArchiveRecord

/-- The record is refused for a text when the texts before it are written. -/
structure ArchiveRecord.LeavesFragment (r : ArchiveRecord) : Prop where
  payload : r.payload.length ≤ payloadLimit
  database : r.database.utf8ByteSize ≤ textLimit
  later : textLimit < r.measurement.utf8ByteSize ∨ textLimit < r.seriesKey.utf8ByteSize

/-- What happens to an archive file. To open it again makes directories that are missing and leaves the
file alone. -/
inductive ArchiveEvent where
  | archive (r : ArchiveRecord)
  | reopen

def ArchiveEvent.LeavesFragment : ArchiveEvent → Prop
  | archive r => r.LeavesFragment
  | reopen => False

namespace ArchiveFile

/-- What an event does: the record that it put into the file, if any, and the file after it. -/
def step (f : ArchiveFile) : ArchiveEvent → Option ArchiveRecord × ArchiveFile
  | .reopen => (none, f)
  | .archive r =>
    match f.archive r with
    | (.ok (), next) => (some r, next)
    | (.error _, next) => (none, next)

/-- The records whose archiving succeeded, in the order of the events, and the file after all events. -/
def run (f : ArchiveFile) : List ArchiveEvent → List ArchiveRecord × ArchiveFile
  | [] => ([], f)
  | event :: events =>
    let (accepted, next) := f.step event
    let (later, last) := next.run events
    (accepted.toList ++ later, last)

theorem archive_of_written_none {r : ArchiveRecord} {piece : List UInt8}
    (h : written r.pieces = (piece, none)) (f : ArchiveFile) :
    f.archive r = (.ok (), ⟨some (f.bytes ++ piece)⟩) := by
  rw [archive, h]

theorem archive_of_written_some {r : ArchiveRecord} {piece : List UInt8} {e : ArchiveError}
    (h : written r.pieces = (piece, some e)) (f : ArchiveFile) :
    f.archive r = (.error e, ⟨some (f.bytes ++ piece)⟩) := by
  rw [archive, h]

theorem joined_textLayout_ne_nil (field : RecordField) (s : String) : joined (textLayout field s) ≠ [] := by
  intro h
  have hlen := congrArg List.length h
  rw [textLayout, joined_cons, List.length_append, length_bigEndian, List.length_nil] at hlen
  omega

/-- A record is written to its end, or a fragment of it, or nothing. -/
theorem written_cases (r : ArchiveRecord) :
    (r.Fits ∧ written r.pieces = (r.laidOut, none)) ∨
    (r.LeavesFragment ∧ ∃ fragment e, fragment ≠ [] ∧ written r.pieces = (fragment, some e)) ∨
    (¬ r.LeavesFragment ∧ ∃ e, written r.pieces = ([], some e)) := by
  by_cases hp : payloadLimit < r.payload.length
  · refine .inr (.inr ⟨fun h => Nat.not_le.2 hp h.payload, .payloadLength r.payload.length, ?_⟩)
    rw [written_pieces, if_pos hp]
  by_cases hd : textLimit < r.database.utf8ByteSize
  · refine .inr (.inr ⟨fun h => Nat.not_le.2 hd h.database,
      .textTooLong .database r.database.utf8ByteSize, ?_⟩)
    rw [written_pieces, if_neg hp, if_pos hd]
  by_cases hm : textLimit < r.measurement.utf8ByteSize
  · refine .inr (.inl ⟨⟨Nat.not_lt.1 hp, Nat.not_lt.1 hd, .inl hm⟩, joined (textLayout .database r.database),
      .textTooLong .measurement r.measurement.utf8ByteSize, joined_textLayout_ne_nil _ _, ?_⟩)
    rw [written_pieces, if_neg hp, if_neg hd, if_pos hm]
  by_cases hk : textLimit < r.seriesKey.utf8ByteSize
  · have hne : joined (textLayout .database r.database ++ textLayout .measurement r.measurement) ≠ [] := by
      rw [joined_append]
      exact List.append_ne_nil_of_left_ne_nil (joined_textLayout_ne_nil _ _) _
    refine .inr (.inl ⟨⟨Nat.not_lt.1 hp, Nat.not_lt.1 hd, .inr hk⟩, _,
      .textTooLong .seriesKey r.seriesKey.utf8ByteSize, hne, ?_⟩)
    rw [written_pieces, if_neg hp, if_neg hd, if_neg hm, if_pos hk]
  · have hfits : r.Fits := ⟨Nat.not_lt.1 hd, Nat.not_lt.1 hm, Nat.not_lt.1 hk, Nat.not_lt.1 hp⟩
    exact .inl ⟨hfits, written_pieces_of_fits hfits⟩

theorem not_leavesFragment_of_fits {r : ArchiveRecord} (h : r.Fits) : ¬ r.LeavesFragment := by
  intro hleaves
  obtain hm | hk := hleaves.later
  · exact Nat.not_le.2 hm h.measurement
  · exact Nat.not_le.2 hk h.seriesKey

/-- What an event adds to the file: the layout of the record that it put there, and behind it the fragment
of one that it did not. -/
theorem step_adds (f : ArchiveFile) (event : ArchiveEvent) :
    ∃ fragment : List UInt8,
      (f.step event).2.bytes = f.bytes ++ ((f.step event).1.toList.flatMap laidOut ++ fragment) ∧
      (fragment = [] ↔ ¬ event.LeavesFragment) ∧ ∀ r ∈ (f.step event).1.toList, r.Fits := by
  cases event with
  | reopen => exact ⟨[], (List.append_nil f.bytes).symm, by simp [ArchiveEvent.LeavesFragment], nofun⟩
  | archive r =>
    obtain ⟨hfits, hw⟩ | ⟨hleaves, fragment, e, hne, hw⟩ | ⟨hleaves, e, hw⟩ := written_cases r
    · have hs : f.step (.archive r) = (some r, ⟨some (f.bytes ++ r.laidOut)⟩) := by
        rw [step, archive_of_written_none hw]
      rw [hs, Option.toList_some, List.flatMap_singleton]
      refine ⟨[], ?_, iff_of_true rfl (not_leavesFragment_of_fits hfits), List.forall_mem_singleton.2 hfits⟩
      rw [List.append_nil]
      rfl
    · have hs : f.step (.archive r) = (none, ⟨some (f.bytes ++ fragment)⟩) := by
        rw [step, archive_of_written_some hw]
      rw [hs]
      exact ⟨fragment, rfl, iff_of_false hne (not_not_intro hleaves), nofun⟩
    · have hs : f.step (.archive r) = (none, ⟨some (f.bytes ++ [])⟩) := by
        rw [step, archive_of_written_some hw]
      rw [hs]
      exact ⟨[], rfl, iff_of_true rfl hleaves, nofun⟩

theorem run_cons (f : ArchiveFile) (event : ArchiveEvent) (events : List ArchiveEvent) :
    f.run (event :: events) =
      ((f.step event).1.toList ++ ((f.step event).2.run events).1, ((f.step event).2.run events).2) := rfl

/-- Only records whose lengths can be written are accepted. -/
theorem fits_of_mem_run {f : ArchiveFile} {events : List ArchiveEvent} {r : ArchiveRecord}
    (h : r ∈ (f.run events).1) : r.Fits := by
  induction events generalizing f with
  | nil => cases h
  | cons event events ih =>
    obtain ⟨-, -, -, hfits⟩ := step_adds f event
    rw [run_cons, List.mem_append] at h
    obtain hnow | hlater := h
    · exact hfits r hnow
    · exact ih hlater

/-- As long as nothing leaves a fragment, the file holds the layouts of the accepted records. -/
theorem bytes_run {events : List ArchiveEvent} (h : ∀ event ∈ events, ¬ event.LeavesFragment)
    (f : ArchiveFile) : (f.run events).2.bytes = f.bytes ++ (f.run events).1.flatMap laidOut := by
  induction events generalizing f with
  | nil => exact (List.append_nil f.bytes).symm
  | cons event events ih =>
    obtain ⟨hevent, hevents⟩ := List.forall_mem_cons.1 h
    obtain ⟨fragment, hbytes, hnil, -⟩ := step_adds f event
    rw [hnil.2 hevent, List.append_nil] at hbytes
    rw [run_cons, ih hevents, hbytes, List.flatMap_append, List.append_assoc]

/-- The bytes of a file that are not of accepted records are those of the fragments. -/
theorem length_bytes_run (f : ArchiveFile) (events : List ArchiveEvent) :
    ∃ left, (f.run events).2.bytes.length =
        f.bytes.length + ((f.run events).1.flatMap laidOut).length + left ∧
      (left = 0 ↔ ∀ event ∈ events, ¬ event.LeavesFragment) := by
  induction events generalizing f with
  | nil => exact ⟨0, rfl, by simp⟩
  | cons event events ih =>
    obtain ⟨fragment, hbytes, hnil, -⟩ := step_adds f event
    obtain ⟨left, hlength, hzero⟩ := ih (f.step event).2
    refine ⟨fragment.length + left, ?_, ?_⟩
    · rw [hbytes, List.length_append, List.length_append] at hlength
      rw [run_cons, hlength, List.flatMap_append, List.length_append]
      omega
    · rw [List.forall_mem_cons, ← hnil, ← hzero, ← List.length_eq_zero_iff]
      omega

theorem unarchive_eq_recordsOf (f : ArchiveFile) : f.unarchive = recordsOf f.bytes := by
  obtain ⟨_ | bytes⟩ := f <;> rfl

/-- Refusing a record changes the bytes of the file exactly when it leaves a fragment. -/
theorem refused_and_changed_iff (f : ArchiveFile) (r : ArchiveRecord) :
    (∃ e next, f.archive r = (.error e, next) ∧ next.bytes ≠ f.bytes) ↔ r.LeavesFragment := by
  obtain ⟨hfits, hw⟩ | ⟨hleaves, fragment, e, hne, hw⟩ | ⟨hleaves, e, hw⟩ := written_cases r
  · refine iff_of_false ?_ (not_leavesFragment_of_fits hfits)
    rintro ⟨e, next, h, -⟩
    cases (archive_of_written_none hw f).symm.trans h
  · refine iff_of_true ⟨e, _, archive_of_written_some hw f, ?_⟩ hleaves
    intro h
    exact hne (List.append_right_eq_self.1 h)
  · refine iff_of_false ?_ hleaves
    rintro ⟨e', next, h, hchanged⟩
    cases (archive_of_written_some hw f).symm.trans h
    exact hchanged (List.append_nil f.bytes)

/-- From no file on, reading gives exactly the records whose archiving succeeded if and only if no refused
record left a fragment, and these are the refusals that change the bytes of the file. -/
theorem unarchive_run_absent (events : List ArchiveEvent) :
    ((absent.run events).2.unarchive = .ok (absent.run events).1 ↔
        ∀ event ∈ events, ¬ event.LeavesFragment) ∧
      ∀ f r, (∃ e next, archive f r = (.error e, next) ∧ next.bytes ≠ f.bytes) ↔ r.LeavesFragment := by
  refine ⟨?_, refused_and_changed_iff⟩
  rw [unarchive_eq_recordsOf, recordsOf_eq_ok_iff]
  constructor
  · -- What reads as the accepted records has their size and has no place for a fragment.
    rintro ⟨-, hbytes⟩
    obtain ⟨left, hlength, hzero⟩ := length_bytes_run absent events
    have habsent : absent.bytes.length = 0 := rfl
    rw [hbytes] at hlength
    exact hzero.1 (by omega)
  · intro h
    exact ⟨fun r => fits_of_mem_run, bytes_run h absent⟩

def longMeasurement : ArchiveRecord := ⟨"", String.ofList (List.replicate 65536 'm'), "", 0, []⟩

theorem utf8ByteSize_replicate (n : Nat) : (String.ofList (List.replicate n 'm')).utf8ByteSize = n := by
  induction n with
  | zero => rfl
  | succ n ih =>
    rw [String.utf8ByteSize] at ih ⊢
    rw [String.toByteArray_ofList] at ih ⊢
    rw [List.replicate_succ, List.utf8Encode_cons, ByteArray.size_append, ih, Nat.add_comm]
    rfl

theorem archive_longMeasurement :
    absent.archive longMeasurement = (.error (.textTooLong .measurement 65536), ⟨some [0, 0]⟩) ∧
      absent.run [.archive longMeasurement, .reopen] = ([], ⟨some [0, 0]⟩) ∧
      unarchive ⟨some [0, 0]⟩ = .error (.truncated .measurement 2 0) := by
  have hsize : longMeasurement.measurement.utf8ByteSize = 65536 := utf8ByteSize_replicate 65536
  have hw : written longMeasurement.pieces = ([0, 0], some (.textTooLong .measurement 65536)) := by
    rw [written_pieces, hsize]
    rfl
  have harchive := archive_of_written_some hw absent
  refine ⟨harchive, ?_, rfl⟩
  rw [run_cons, step, harchive]
  rfl

end ArchiveFile
end SeriesQuery
