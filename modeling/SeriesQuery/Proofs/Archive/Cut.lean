import SeriesQuery.Proofs.Archive.RecordRun

/-! # Archive files that are cut short

A file of records is cut after some of its bytes. The cut falls between two records, or inside exactly
one; the records before it are read as if nothing had happened, and that one is refused as truncated.
-/

namespace SeriesQuery
open FieldPiece ArchiveRecord

namespace ArchiveRecord

def totalSize (records : List ArchiveRecord) : Nat := (records.map encodedSize).sum

@[simp] theorem totalSize_nil : totalSize [] = 0 := rfl

@[simp] theorem totalSize_cons (r : ArchiveRecord) (records : List ArchiveRecord) :
    totalSize (r :: records) = r.encodedSize + totalSize records := by
  rw [totalSize, List.map_cons, List.sum_cons, totalSize]

@[simp] theorem totalSize_append (front back : List ArchiveRecord) :
    totalSize (front ++ back) = totalSize front + totalSize back := by
  rw [totalSize, List.map_append, List.sum_append, totalSize, totalSize]

theorem length_flatMap_laidOut (records : List ArchiveRecord) :
    (records.flatMap laidOut).length = totalSize records := by
  induction records with
  | nil => rfl
  | cons r records ih =>
    rw [List.flatMap_cons, List.length_append, length_laidOut, ih, totalSize_cons]

/-- The longest front part of the records that takes at most `count` bytes. -/
structure LongestWithin (count : Nat) (records kept : List ArchiveRecord) : Prop where
  front : kept <+: records
  size : totalSize kept ≤ count
  longest {other : List ArchiveRecord} (h : other <+: records) (size : totalSize other ≤ count) :
    other <+: kept

theorem longestWithin_of_lt {count : Nat} {kept records : List ArchiveRecord} {r : ArchiveRecord}
    (hle : totalSize kept ≤ count) (hlt : count < totalSize kept + r.encodedSize) :
    LongestWithin count (kept ++ r :: records) kept where
  front := List.prefix_append kept _
  size := hle
  longest {other} h size := by
    obtain hkept | ⟨more, rfl⟩ := List.prefix_or_prefix_of_prefix h (List.prefix_append kept (r :: records))
    · exact hkept
    rw [List.prefix_append_right_inj] at h
    cases more with
    | nil => exact ⟨[], by rw [List.append_nil, List.append_nil]⟩
    | cons r' more =>
      obtain ⟨rfl, -⟩ := List.cons_prefix_cons.1 h
      rw [totalSize_append, totalSize_cons] at size
      omega

theorem longestWithin_self {count : Nat} {records : List ArchiveRecord} (h : totalSize records ≤ count) :
    LongestWithin count records records where
  front := List.prefix_refl records
  size := h
  longest h _ := h

/-- All records fit, or the first that does not comes right behind those that do. -/
theorem totalSize_le_or_exists_split (records : List ArchiveRecord) (count : Nat) :
    totalSize records ≤ count ∨
      ∃ kept r later, records = kept ++ r :: later ∧ totalSize kept ≤ count ∧
        count < totalSize kept + r.encodedSize := by
  induction records generalizing count with
  | nil => exact .inl (Nat.zero_le count)
  | cons r records ih =>
    by_cases hr : count < r.encodedSize
    · exact .inr ⟨[], r, records, rfl, Nat.zero_le count, by rw [totalSize_nil]; omega⟩
    obtain hall | ⟨kept, r', later, rfl, hle, hlt⟩ := ih (count - r.encodedSize)
    · refine .inl ?_
      rw [totalSize_cons]
      omega
    · refine .inr ⟨r :: kept, r', later, rfl, ?_, ?_⟩
      · rw [totalSize_cons]
        omega
      · rw [totalSize_cons]
        omega

theorem take_flatMap_laidOut {kept later : List ArchiveRecord} {r : ArchiveRecord} {count : Nat}
    (hle : totalSize kept ≤ count) (hlt : count < totalSize kept + r.encodedSize) :
    ((kept ++ r :: later).flatMap laidOut).take count =
      kept.flatMap laidOut ++ r.laidOut.take (count - totalSize kept) := by
  have hkept : (kept.flatMap laidOut).length ≤ count := by
    rw [length_flatMap_laidOut]
    exact hle
  have hr : count - totalSize kept ≤ r.laidOut.length := by
    rw [length_laidOut]
    omega
  rw [List.flatMap_append, List.flatMap_cons, List.take_append, List.take_of_length_le hkept,
    length_flatMap_laidOut, List.take_append_of_le_length hr]

/-- A cut falls right behind the records that still fit, or inside the record behind them. -/
theorem exists_cut {records : List ArchiveRecord} {count : Nat} (h : count ≤ totalSize records) :
    ∃ kept tail, LongestWithin count records kept ∧
      (records.flatMap laidOut).take count = kept.flatMap laidOut ++ tail ∧
      (totalSize kept = count ∧ tail = [] ∨
        totalSize kept ≠ count ∧ ∃ r ∈ records, ∃ part, 0 < part ∧ part < r.encodedSize ∧
          tail = r.laidOut.take part) := by
  obtain hall | ⟨kept, r, later, rfl, hle, hlt⟩ := totalSize_le_or_exists_split records count
  · have hcount : totalSize records = count := Nat.le_antisymm hall h
    refine ⟨records, [], longestWithin_self hall, ?_, .inl ⟨hcount, rfl⟩⟩
    rw [← hcount, ← length_flatMap_laidOut, List.take_length, List.append_nil]
  · refine ⟨kept, r.laidOut.take (count - totalSize kept), longestWithin_of_lt hle hlt,
      take_flatMap_laidOut hle hlt, ?_⟩
    by_cases hcount : totalSize kept = count
    · refine .inl ⟨hcount, ?_⟩
      rw [hcount, Nat.sub_self, List.take_zero]
    · exact .inr ⟨hcount, r, by simp, count - totalSize kept, by omega, by omega, rfl⟩

end ArchiveRecord

namespace RecordStream

/-- What is left of a record that is cut is refused as truncated, and that is all. -/
theorem yields_take_laidOut {r : ArchiveRecord} (h : r.Fits) {count : Nat} (pos : 0 < count)
    (hlt : count < r.encodedSize) :
    ∃ field expected actual, actual < expected ∧
      Yields (ofSource (.ofBytes (r.laidOut.take count))) [.error (.truncated field expected actual)]
        ⟨.ofBytes [], true⟩ := by
  rw [← length_laidOut] at hlt
  obtain ⟨field, expected, actual, hlack, he⟩ := exists_missing_of_lt hlt
  exact ⟨field, expected, actual, hlack,
    .more (next_of_refusal (RecordReader.record?_take_laidOut h pos he)) (.done (next_of_failed _))⟩

end RecordStream

namespace ArchiveFile

def cut (f : ArchiveFile) (count : Nat) : ArchiveFile := ⟨some (f.bytes.take count)⟩

/-- The records are archived one after the other, each of them successfully. -/
inductive Archived : ArchiveFile → List ArchiveRecord → ArchiveFile → Prop where
  | nil (f : ArchiveFile) : Archived f [] f
  | cons {f next last : ArchiveFile} {r : ArchiveRecord} {records : List ArchiveRecord}
      (h : f.archive r = (.ok (), next)) (later : Archived next records last) :
      Archived f (r :: records) last

theorem fits_of_archive {f next : ArchiveFile} {r : ArchiveRecord} (h : f.archive r = (.ok (), next)) :
    r.Fits ∧ next.bytes = f.bytes ++ r.laidOut := by
  rw [archive] at h
  cases hw : written r.pieces with
  | mk piece error =>
    rw [hw] at h
    cases error with
    | some e => cases h
    | none =>
      obtain ⟨hfits, rfl⟩ := fits_of_written hw
      cases h
      exact ⟨hfits, rfl⟩

theorem Archived.fits_and_bytes {first last : ArchiveFile} {records : List ArchiveRecord}
    (h : Archived first records last) :
    (∀ r ∈ records, r.Fits) ∧ last.bytes = first.bytes ++ records.flatMap laidOut := by
  induction h with
  | nil f => exact ⟨nofun, (List.append_nil f.bytes).symm⟩
  | cons h _ ih =>
    obtain ⟨hfits, hnext⟩ := fits_of_archive h
    obtain ⟨hrecords, hlast⟩ := ih
    refine ⟨List.forall_mem_cons.2 ⟨hfits, hrecords⟩, ?_⟩
    rw [hlast, hnext, List.flatMap_cons, List.append_assoc]

/-- The records before the cut are read in order. If the cut is right behind them there is nothing more;
otherwise one item follows that refuses the next record as truncated, and then nothing for ever. -/
theorem read_cut {first last : ArchiveFile} {records : List ArchiveRecord} {count : Nat}
    (empty : first.bytes = []) (archived : Archived first records last)
    (within : count ≤ last.bytes.length) :
    ∃ kept, LongestWithin count records kept ∧
      (totalSize kept = count →
        (∀ n, (RecordStream.ofSource (.ofBytes (last.cut count).bytes)).answer n = (kept.map .ok)[n]?) ∧
          (last.cut count).readAll = .ok kept) ∧
      (totalSize kept ≠ count → ∃ field expected actual, actual < expected ∧
        (∀ n, (RecordStream.ofSource (.ofBytes (last.cut count).bytes)).answer n =
          (kept.map .ok ++ [.error (.truncated field expected actual)])[n]?) ∧
        (last.cut count).readAll = .error (.truncated field expected actual)) := by
  obtain ⟨hfits, hlast⟩ := archived.fits_and_bytes
  rw [empty, List.nil_append] at hlast
  rw [hlast, length_flatMap_laidOut] at within
  obtain ⟨kept, tail, hkept, hcut, hend⟩ := exists_cut within
  have hkeptFits : ∀ r ∈ kept, r.Fits := fun r hr => hfits r (hkept.front.subset hr)
  have hbytes : (last.cut count).bytes = kept.flatMap laidOut ++ tail := by
    rw [← hcut, ← hlast]
    rfl
  have hread : (last.cut count).readAll = recordsOf (last.cut count).bytes := rfl
  rw [hread, hbytes]
  refine ⟨kept, hkept, ?_, ?_⟩
  · intro hcount
    obtain ⟨-, rfl⟩ | ⟨hne, -⟩ := hend
    · have hyields := RecordStream.yields_laidOut_append hkeptFits (.done RecordStream.next_of_no_input)
      refine ⟨fun n => ?_, ?_⟩
      · rw [RecordStream.answer_of_yields hyields RecordStream.next_of_no_input, List.append_nil]
      · rw [recordsOf_of_yields hyields, List.append_nil, firstRefusal_map_ok]
    · exact absurd hcount hne
  · intro hcount
    obtain ⟨heq, -⟩ | ⟨-, r, hr, part, hpos, hlt, rfl⟩ := hend
    · exact absurd heq hcount
    · obtain ⟨field, expected, actual, hlack, hrefused⟩ :=
        RecordStream.yields_take_laidOut (hfits r hr) hpos hlt
      have hyields := RecordStream.yields_laidOut_append hkeptFits hrefused
      refine ⟨field, expected, actual, hlack, fun n => ?_, ?_⟩
      · exact RecordStream.answer_of_yields hyields (RecordStream.next_of_failed _) n
      · rw [recordsOf_of_yields hyields, firstRefusal_map_ok_append_error]

def sparseFile : ArchiveFile := ⟨some (RecordReader.sparseBytes ++ RecordReader.sparseBytes)⟩

open RecordReader in
theorem longestWithin_sparseRecord {kept : List ArchiveRecord}
    (h : LongestWithin 25 [sparseRecord, sparseRecord] kept) : kept = [sparseRecord] := by
  have size : sparseRecord.encodedSize = 20 := by rfl
  have one : totalSize [sparseRecord] ≤ 25 := by
    rw [totalSize_cons, totalSize_nil, size]
    omega
  obtain ⟨more, rfl⟩ := h.longest (List.prefix_append [sparseRecord] [sparseRecord]) one
  cases more with
  | nil => rfl
  | cons r more =>
    obtain ⟨-, hmore⟩ := List.cons_prefix_cons.1 h.front
    obtain ⟨rfl, -⟩ := List.cons_prefix_cons.1 hmore
    have hsize := h.size
    rw [totalSize_append, totalSize_cons, totalSize_cons, totalSize_nil, size] at hsize
    omega

open RecordReader in
/-- The cut falls inside the one character of the second measurement. -/
theorem read_cut_inside_character :
    Archived ⟨some []⟩ [sparseRecord, sparseRecord] sparseFile ∧ 25 ≤ sparseFile.bytes.length ∧
      (∀ n, (RecordStream.ofSource (.ofBytes (sparseFile.cut 25).bytes)).answer n =
        [.ok sparseRecord, .error (.truncated .measurement 2 1)][n]?) ∧
      (sparseFile.cut 25).readAll = .error (.truncated .measurement 2 1) := by
  have empty : (⟨some []⟩ : ArchiveFile).bytes = [] := by rfl
  have once : archive ⟨some []⟩ sparseRecord = (.ok (), ⟨some sparseBytes⟩) := by rfl
  have twice : archive ⟨some sparseBytes⟩ sparseRecord = (.ok (), sparseFile) := by rfl
  have archived : Archived ⟨some []⟩ [sparseRecord, sparseRecord] sparseFile :=
    .cons once (.cons twice (.nil sparseFile))
  have within : 25 ≤ sparseFile.bytes.length := by decide
  have refused : (sparseFile.cut 25).readAll = .error (.truncated .measurement 2 1) := by rfl
  obtain ⟨kept, hkept, -, hcut⟩ := read_cut empty archived within
  obtain rfl := longestWithin_sparseRecord hkept
  obtain ⟨field, expected, actual, -, answers, refusal⟩ := hcut (by decide)
  cases refused.symm.trans refusal
  exact ⟨archived, within, answers, refused⟩

end ArchiveFile
end SeriesQuery
