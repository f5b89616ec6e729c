import SeriesQuery.Archive.Record
import SeriesQuery.Archive.Source

/-! # Reading archive records

A record is read field by field. Input that ends between records is a clean end; input that ends
anywhere else is refused, with the field that is missing bytes. A refusal ends the reading for good.
-/

namespace SeriesQuery

/-- A reader of a source, which it moves forward also when it refuses. -/
abbrev RecordReader (α : Type) := ExceptT ArchiveError (StateM Source) α

namespace RecordReader

/-- The bytes that still come, at most `size`. -/
def bytesUpTo (size : Nat) : RecordReader (List UInt8) := fun s =>
  match s.read size with
  | (.ok got, rest) => (.ok got, rest)
  | (.error cause, rest) => (.error (.device cause), rest)

def bytes (field : RecordField) (size : Nat) : RecordReader (List UInt8) := do
  let got ← bytesUpTo size
  if got.length < size then throw (.truncated field size got.length)
  return got

def textOfSize (field : RecordField) (size : Nat) : RecordReader String := do
  let got ← bytes field size
  match Utf8.decode got with
  | .ok s => return s
  | .error cause => throw (.notUtf8 field cause)

def text (field : RecordField) : RecordReader String := do
  let size ← bytes field 2
  textOfSize field (ofBigEndian size)

def int32 (field : RecordField) : RecordReader Int32 := do
  let got ← bytes field 4
  return int32OfBytes got

def payload : RecordReader (List UInt8) := do
  let size ← int32 .payloadLength
  if size < 0 then throw (.payloadLength size.toInt)
  bytes .payload size.toInt.toNat

def recordOfSize (size : List UInt8) : RecordReader ArchiveRecord := do
  let database ← textOfSize .database (ofBigEndian size)
  let measurement ← text .measurement
  let seriesKey ← text .seriesKey
  let bucket ← int32 .bucket
  let payload ← payload
  return ⟨database, measurement, seriesKey, bucket, payload⟩

/-- The next record; `none` at a clean end. -/
def record? : RecordReader (Option ArchiveRecord) := do
  let size ← bytesUpTo 2
  if size.isEmpty then return none
  if size.length < 2 then throw (.truncated .database 2 size.length)
  let r ← recordOfSize size
  return some r

def record : RecordReader ArchiveRecord := do
  match ← record? with
  | some r => return r
  | none => throw (.truncated .database 2 0)

end RecordReader

namespace ArchiveRecord

def decode (bytes : List UInt8) : Except ArchiveError ArchiveRecord :=
  (RecordReader.record (.ofBytes bytes)).1

end ArchiveRecord

/-- The records of a source, one after the other. -/
structure RecordStream where
  source : Source
  /-- Whether a record was refused, which ends the stream. -/
  failed : Bool
deriving DecidableEq, Repr

namespace RecordStream

def ofSource (s : Source) : RecordStream := ⟨s, false⟩

/-- The next record or refusal; `none` at the end. -/
def next (s : RecordStream) : Option (Except ArchiveError ArchiveRecord) × RecordStream :=
  if s.failed then (none, s)
  else
    match RecordReader.record? s.source with
    | (.ok (some r), rest) => (some (.ok r), ⟨rest, false⟩)
    | (.ok none, rest) => (none, ⟨rest, false⟩)
    | (.error e, rest) => (some (.error e), ⟨rest, true⟩)

/-- The items up to the end of the stream, `fuel` at most, and the stream after them. -/
def itemsWithin : Nat → RecordStream → List (Except ArchiveError ArchiveRecord) × RecordStream
  | 0, s => ([], s)
  | fuel + 1, s =>
    match s.next with
    | (none, rest) => ([], rest)
    | (some item, rest) =>
      let (items, last) := itemsWithin fuel rest
      (item :: items, last)

/-- All items and the stream after them. Every record takes bytes, and there is one refusal at most. -/
def items (s : RecordStream) : List (Except ArchiveError ArchiveRecord) × RecordStream :=
  itemsWithin (s.source.bytes.length + 2) s

end RecordStream

/-- The items as one list of records, or the first refusal. -/
def firstRefusal : List (Except ArchiveError ArchiveRecord) → Except ArchiveError (List ArchiveRecord)
  | [] => .ok []
  | .error e :: _ => .error e
  | .ok r :: rest =>
    match firstRefusal rest with
    | .error e => .error e
    | .ok rs => .ok (r :: rs)

end SeriesQuery
