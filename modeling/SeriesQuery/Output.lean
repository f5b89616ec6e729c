import SeriesQuery.Json.Reader
import SeriesQuery.Json.Writer
import SeriesQuery.OrderedMap

/-! # Output series

What clients get: for each series its key and its values with their times, values first. Values are
in the order of time and series in the order of their keys, and both sorts keep the order of equals.
-/

namespace SeriesQuery

/-- A series as clients see it. -/
structure OutputSeries where
  target : String
  datapoints : List (Value × Int64)
deriving DecidableEq, Repr

namespace OutputSeries

/-- The points in their given order. -/
def ofPoints (target : String) (points : List Point) : OutputSeries :=
  ⟨target, points.map fun p => (p.value, p.time)⟩

def sortByTime (s : OutputSeries) : OutputSeries :=
  { s with datapoints := s.datapoints.mergeSort fun a b => decide (a.2 ≤ b.2) }

def sortByTarget (series : List OutputSeries) : List OutputSeries :=
  series.mergeSort fun a b => decide (a.target ≤ b.target)

def assemble (points : OrderedMap String (List Point)) : List OutputSeries :=
  sortByTarget (points.entries.map fun e => (ofPoints e.1 e.2).sortByTime)

open Json

def toDoc (s : OutputSeries) : Doc :=
  .object [
    ("target", .text s.target),
    ("datapoints", .list (s.datapoints.map fun d =>
      .list [.plain d.1.jsonText, .plain (toString d.2.toInt)]))]

def listDoc (series : List OutputSeries) : Doc := .list (series.map toDoc)

def datapoint? (t : Tree) : Option (Value × Int64) :=
  match t with
  | .list [value, time] => do
    let value ← value.value?
    let time ← time.int64?
    some (value, time)
  | _ => none

def ofTree? (t : Tree) : Option OutputSeries :=
  match t.fields? ["target", "datapoints"] with
  | some [target, datapoints] => do
    let target ← Tree.required? Tree.text? target
    let datapoints ← Tree.required? (Tree.listOf? datapoint?) datapoints
    some ⟨target, datapoints⟩
  | _ => none

def ofJson? (text : String) : Option (List OutputSeries) :=
  (Tree.ofText? text).bind (Tree.listOf? ofTree?)

/-- A field of a table; it is quoted where it holds a comma, a quote or a line end. -/
def tableField (s : String) : String :=
  if s.toList.any fun c => c = ',' || c = '"' || c = '\n' || c = '\r' then
    String.ofList ('"' :: s.toList.flatMap (fun c => if c = '"' then ['"', '"'] else [c]) ++ ['"'])
  else s

private def tableRow (target : String) (d : Value × Int64) : String :=
  tableField target ++ "," ++ toString d.2.toInt ++ "," ++ d.1.text ++ "\n"

/-- The values of all series as a table with commas, one value a row. Without a value there is no
header either. -/
def table (series : List OutputSeries) : String :=
  let rows := series.flatMap fun s => s.datapoints.map (tableRow s.target)
  if rows.isEmpty then "" else "target,timestamp,value\n" ++ String.join rows

end OutputSeries
end SeriesQuery
