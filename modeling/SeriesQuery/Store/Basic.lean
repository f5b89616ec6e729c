import SeriesQuery.Filter.Basic
import SeriesQuery.Point
import SeriesQuery.TimeRange

/-! # The series store

A store holds series in the order in which they came, each under a database, a measurement and a
field. A lookup gives the points of the selected series by series key; series with one key are put
together, and a selected series counts also when none of its points lies in the range.
-/

namespace SeriesQuery

/-- A stored series. -/
structure Series where
  /-- The identity under which clients see the series. -/
  key : String
  tags : Tags
  points : List Point

/-- Where a series is stored. -/
structure FieldPath where
  database : String
  measurement : String
  field : String
deriving DecidableEq, Repr

/-- Why a lookup fails. -/
inductive StoreError where
  | noDatabase (database : String)
  | noMeasurement (database measurement : String)
  | noField (measurement field : String)
  | emptyRange
deriving DecidableEq, Repr

namespace StoreError

def message : StoreError → String
  | noDatabase database => "Database not found: " ++ database
  | noMeasurement database measurement =>
    "Measurement not found: " ++ database ++ "." ++ measurement
  | noField measurement field => "Field not found: " ++ measurement ++ "." ++ field
  | emptyRange => "Invalid time range: start must be less than end"

def isNotFound : StoreError → Bool
  | noDatabase _ | noMeasurement _ _ | noField _ _ => true
  | emptyRange => false

end StoreError

/-- Series with their paths, in the order of their insertion. -/
structure Store where
  entries : List (FieldPath × Series)

namespace Store

def empty : Store := ⟨[]⟩

def insert (s : Store) (path : FieldPath) (series : Series) : Store :=
  ⟨s.entries ++ [(path, series)]⟩

def size (s : Store) : Nat := s.entries.length

/-- The series of a path in the order of their insertion. -/
def seriesAt (s : Store) (path : FieldPath) : List Series :=
  (s.entries.filter fun e => e.1 = path).map Prod.snd

/-- The first part of a path that does not exist; `none` when there is a series. -/
def missing? (s : Store) (path : FieldPath) : Option StoreError :=
  if !s.entries.any fun e => e.1.database == path.database then some (.noDatabase path.database)
  else if !s.entries.any fun e =>
      e.1.database == path.database && e.1.measurement == path.measurement then
    some (.noMeasurement path.database path.measurement)
  else if !s.entries.any fun e => e.1 == path then some (.noField path.measurement path.field)
  else none

/-- Whether a series is selected: by the filter or, where there is none, by having all listed tags. -/
def selects (filter : Option SeriesFilter) (tagList : List String) (series : Series) : Bool :=
  match filter with
  | some f => f.selects series.tags
  | none => tagList.all fun t => series.tags.texts.contains t

/-- Puts the points of a series that lie in a range behind those of its key. -/
def collect (range : TimeRange) (found : OrderedMap String (List Point)) (series : Series) :
    OrderedMap String (List Point) :=
  found.alter series.key fun old =>
    old.getD [] ++ series.points.filter fun p => range.contains p.time

def lookup (s : Store) (path : FieldPath) (range : TimeRange) (tagList : List String)
    (filter : Option SeriesFilter) : Except StoreError (OrderedMap String (List Point)) :=
  if !range.isProper then .error .emptyRange
  else
    match s.missing? path with
    | some e => .error e
    | none =>
      .ok (((s.seriesAt path).filter (selects filter tagList)).foldl (collect range) .empty)

end Store
end SeriesQuery
