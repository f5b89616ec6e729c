import SeriesQuery.Device
import SeriesQuery.Text.Utf8

/-! # Archive records

A bucket of a series as it is archived: three texts, each behind its length in two bytes, the number of
the bucket and the length of its contents in four bytes each, then the contents. All numbers are
big-endian. A record is written as a row of pieces, some of which may turn out not to be writable.
-/

namespace SeriesQuery

/-- An archived bucket of a series. -/
structure ArchiveRecord where
  database : String
  measurement : String
  seriesKey : String
  bucket : Int32
  payload : List UInt8
deriving DecidableEq, Repr

/-- The fields of a record in the order in which they are written. -/
inductive RecordField where
  | database
  | measurement
  | seriesKey
  | bucket
  | payloadLength
  | payload
deriving DecidableEq, Repr

def RecordField.name : RecordField → String
  | database => "db"
  | measurement => "measurement"
  | seriesKey => "series_key"
  | bucket => "bucket_id"
  | payloadLength => "payload_len"
  | payload => "payload"

/-- Why a record cannot be written or read. -/
inductive ArchiveError where
  | truncated (field : RecordField) (expected actual : Nat)
  | payloadLength (length : Int)
  | textTooLong (field : RecordField) (length : Nat)
  | notUtf8 (field : RecordField) (cause : Utf8.Fault)
  | device (cause : DeviceFault)
deriving DecidableEq, Repr

namespace ArchiveError

def message : ArchiveError → String
  | truncated field expected actual =>
    "Truncated archival record: " ++ field.name ++ " needs " ++ toString expected ++
      " bytes, got " ++ toString actual
  | payloadLength length => "Invalid length " ++ toString length ++ " for payload"
  | textTooLong field length =>
    field.name ++ " is " ++ toString length ++ " bytes, longer than 65535"
  | notUtf8 field cause => field.name ++ " is not valid UTF-8: " ++ cause.message
  | device cause => "IO error: " ++ cause.message

def causes : ArchiveError → List String
  | notUtf8 _ cause => [cause.message]
  | device cause => [cause.message]
  | truncated _ _ _ | payloadLength _ | textTooLong _ _ => []

end ArchiveError

/-- The last `count` bytes of a number, highest first. -/
def bigEndian : Nat → Nat → List UInt8
  | 0, _ => []
  | count + 1, n => bigEndian count (n / 256) ++ [UInt8.ofNat n]

def ofBigEndian (bytes : List UInt8) : Nat := bytes.foldl (fun n b => 256 * n + b.toNat) 0

def int32Bytes (n : Int32) : List UInt8 := bigEndian 4 n.toUInt32.toNat

def int32OfBytes (bytes : List UInt8) : Int32 := (UInt32.ofNat (ofBigEndian bytes)).toInt32

namespace ArchiveRecord

/-- The longest text, in bytes. -/
def textLimit : Nat := 65535

def payloadLimit : Nat := Nat.pow 2 31 - 1

def encodedSize (r : ArchiveRecord) : Nat :=
  2 + r.database.utf8ByteSize + 2 + r.measurement.utf8ByteSize + 2 + r.seriesKey.utf8ByteSize + 4 + 4 +
    r.payload.length

/-- The pieces of a text: its length, then its bytes. -/
def textPieces (field : RecordField) (s : String) : List (Except ArchiveError (List UInt8)) :=
  let bytes := Utf8.encode s
  if bytes.length ≤ textLimit then [.ok (bigEndian 2 bytes.length), .ok bytes]
  else [.error (.textTooLong field bytes.length)]

/-- The pieces of a record in the order of writing, each of them bytes or the reason why it cannot be
written. -/
def pieces (r : ArchiveRecord) : List (Except ArchiveError (List UInt8)) :=
  if r.payload.length ≤ payloadLimit then
    textPieces .database r.database ++ textPieces .measurement r.measurement ++
      textPieces .seriesKey r.seriesKey ++
      [.ok (int32Bytes r.bucket), .ok (bigEndian 4 r.payload.length), .ok r.payload]
  else [.error (.payloadLength r.payload.length)]

/-- What gets written of pieces, up to the first that cannot be, and why that one cannot. -/
def written : List (Except ArchiveError (List UInt8)) → List UInt8 × Option ArchiveError
  | [] => ([], none)
  | .error e :: _ => ([], some e)
  | .ok bytes :: rest =>
    let (more, error) := written rest
    (bytes ++ more, error)

/-- What gets written of pieces into a buffer of limited size. A piece that does not fit fills it. -/
def writtenWithin (room : Nat) :
    List (Except ArchiveError (List UInt8)) → List UInt8 × Option ArchiveError
  | [] => ([], none)
  | .error e :: _ => ([], some e)
  | .ok bytes :: rest =>
    if bytes.length ≤ room then
      let (more, error) := writtenWithin (room - bytes.length) rest
      (bytes ++ more, error)
    else (bytes.take room, some (.device .bufferFull))

def encode (r : ArchiveRecord) : Except ArchiveError (List UInt8) :=
  match written r.pieces with
  | (bytes, none) => .ok bytes
  | (_, some e) => .error e

end ArchiveRecord
end SeriesQuery
