import SeriesQuery.Duration
import SeriesQuery.TimeRange

/-! # Ranges on request

A range is asked for by its bounds, by a duration that ends now, or by the lookback of a query. Bounds go
before a duration, a duration goes before a lookback, and without any of them the range is the widest.
-/

namespace SeriesQuery

/-- What is asked for apart from the query. -/
structure RangeRequest where
  bounds : Option (Int64 × Int64)
  last : Option String
deriving DecidableEq, Repr

/-- Why there is no such range. -/
inductive RangeError where
  | improper (start stop : Int64)
  | duration (cause : Duration.Fault)
  /-- The duration leads to no range that ends now. -/
  | unusable (text : String)
deriving DecidableEq, Repr

def RangeError.message : RangeError → String
  | improper start stop =>
    "Invalid time range: start " ++ toString start.toInt ++ " must be before end " ++
      toString stop.toInt
  | duration cause => cause.message
  | unusable text => "Invalid duration: " ++ text

namespace RangeRequest

/-- A text without certain characters at its end. -/
def dropEnd (c : Char) (text : List Char) : List Char :=
  (text.reverse.dropWhile (· = c)).reverse

/-- The duration of a lookback, which ends with its marker. -/
def lookbackText (lookback : String) : String :=
  String.ofList (dropEnd '<' (dropEnd '=' lookback.toList))

def endingNow? (now : Int64) (length : Int) : Option TimeRange :=
  let start := now.toInt - length
  if Int64.minValue.toInt ≤ start ∧ start ≤ Int64.maxValue.toInt then
    TimeRange.ofBounds? (.ofInt start) now
  else none

def relative (now : Int64) (text : String) : Except RangeError TimeRange :=
  match Duration.parse text with
  | .error cause => .error (.duration cause)
  | .ok length =>
    match endingNow? now length with
    | some range => .ok range
    | none => .error (.unusable text)

def resolve (r : RangeRequest) (lookback : Option String) (now : Int64) :
    Except RangeError TimeRange :=
  match r.bounds, r.last, lookback with
  | some (start, stop), _, _ =>
    match TimeRange.ofBounds? start stop with
    | some range => .ok range
    | none => .error (.improper start stop)
  | none, some text, _ => relative now text
  | none, none, some lookback => relative now (lookbackText lookback)
  | none, none, none => .ok .all

end RangeRequest
end SeriesQuery
