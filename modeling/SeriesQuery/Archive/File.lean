import SeriesQuery.Archive.Reader

/-! # Archive files

A file to which records are appended. A record that is refused half-way leaves the pieces before the
refused one in the file.
-/

namespace SeriesQuery

/-- The contents of an archive file; `none` while there is no file. -/
structure ArchiveFile where
  contents : Option (List UInt8)
deriving DecidableEq, Repr

namespace ArchiveFile

def absent : ArchiveFile := ⟨none⟩

def bytes (f : ArchiveFile) : List UInt8 := f.contents.getD []

def archive (f : ArchiveFile) (r : ArchiveRecord) : Except ArchiveError Unit × ArchiveFile :=
  let (bytes, error) := ArchiveRecord.written r.pieces
  (match error with
    | none => .ok ()
    | some e => .error e, ⟨some (f.bytes ++ bytes)⟩)

/-- All records of a file given by its bytes, or the first refusal. -/
def recordsOf (bytes : List UInt8) : Except ArchiveError (List ArchiveRecord) :=
  firstRefusal (RecordStream.ofSource (.ofBytes bytes)).items.1

def recordsOfContents : Except DeviceFault (List UInt8) → Except ArchiveError (List ArchiveRecord)
  | .ok bytes => recordsOf bytes
  | .error cause => .error (.device cause)

/-- All records of a file, which must exist. -/
def readAll (f : ArchiveFile) : Except ArchiveError (List ArchiveRecord) :=
  match f.contents with
  | none => .error (.device .missing)
  | some bytes => recordsOf bytes

/-- All records archived so far; none while there is no file. -/
def unarchive (f : ArchiveFile) : Except ArchiveError (List ArchiveRecord) :=
  match f.contents with
  | none => .ok []
  | some bytes => recordsOf bytes

end ArchiveFile
end SeriesQuery
