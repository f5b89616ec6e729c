import SeriesQuery.Device
import SeriesQuery.Json.Reader
import SeriesQuery.Store.Basic

/-! # Stores from JSON

A data file is a list of series records. Tags and points may be missing; of two tags with one key the
later counts.
-/

namespace SeriesQuery

/-- Why a data file is refused. -/
inductive LoadError where
  | unreadable (cause : DeviceFault)
  | malformed
deriving DecidableEq, Repr

namespace LoadError

def message : LoadError → String
  | unreadable cause => "IO error: " ++ cause.message
  | malformed => "Serialization error: not a list of series records"

def causes : LoadError → List String
  | unreadable cause => [cause.message]
  | malformed => []

end LoadError

namespace Store

open Json

private def point? (t : Tree) : Option Point :=
  match t.fields? ["timestamp", "value"] with
  | some [time, value] => do
    let time ← Tree.required? Tree.int64? time
    let value ← Tree.required? Tree.value? value
    some (.ofValue time value)
  | _ => none

private def record? (t : Tree) : Option (FieldPath × Series) :=
  match t.fields? ["db", "measurement", "field", "key", "tags", "points"] with
  | some [database, measurement, field, key, tags, points] => do
    let database ← Tree.required? Tree.text? database
    let measurement ← Tree.required? Tree.text? measurement
    let field ← Tree.required? Tree.text? field
    let key ← Tree.required? Tree.text? key
    let tags ← Tree.optional? (Tree.membersOf? Tree.text?) [] tags
    let points ← Tree.optional? (Tree.listOf? point?) [] points
    some (⟨database, measurement, field⟩, ⟨key, .ofList tags, points⟩)
  | _ => none

def ofBytes? (bytes : List UInt8) : Option Store := do
  let t ← Tree.ofBytes? bytes
  let records ← t.listOf? record?
  some (records.foldl (fun s r => s.insert r.1 r.2) .empty)

/-- The store of a data file. A directory can be opened, and as it has no bytes it is malformed. -/
def ofContents : Except DeviceFault (List UInt8) → Except LoadError Store
  | .ok bytes =>
    match ofBytes? bytes with
    | some store => .ok store
    | none => .error .malformed
  | .error .isDirectory => .error .malformed
  | .error cause => .error (.unreadable cause)

end Store
end SeriesQuery
