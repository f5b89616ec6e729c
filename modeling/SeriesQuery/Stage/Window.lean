import SeriesQuery.OrderedMap
import SeriesQuery.Point
import SeriesQuery.Stage.Error

/-! # Windows

Points fall into windows of equal length that start at the multiples of the length, also before the
epoch. Each window that holds a point becomes one point at its start. Integers stay integers where
the aggregation allows it: always for a count, and never for a mean.
-/

namespace SeriesQuery

/-- How the values of a window become one. -/
inductive Aggregation where
  | mean
  | sum
  | min
  | max
  | count
  | last
  | first
deriving DecidableEq, Repr

namespace Aggregation

/-- The aggregate of doubles; nothing has none. The extremes pass over NaNs. -/
def ofDoubles (f : Aggregation) (values : List Double) : Option Double :=
  if values.isEmpty then none
  else
    match f with
    | mean => some ((Double.sum values).div (.ofInt values.length))
    | sum => some (Double.sum values)
    | min => some (values.foldl Double.lesser Double.infinity)
    | max => some (values.foldl Double.greater Double.negativeInfinity)
    | count => some (.ofInt values.length)
    | last => values.getLast?
    | first => values.head?

/-- The aggregate of integers, where it is an integer. Sums wrap around. -/
def ofInts (f : Aggregation) (values : List Int64) : Option Int64 :=
  match f with
  | mean => none
  | sum => some (values.foldl (· + ·) 0)
  | min => values.min?
  | max => values.max?
  | count => some (.ofNat values.length)
  | last => values.getLast?
  | first => values.head?

def ofPoints (f : Aggregation) (points : List Point) : Option Value :=
  if f = count then some (.int (.ofNat points.length))
  else
    let integers := if points.all fun p => !p.floating then f.ofInts (points.map Point.raw) else none
    match integers with
    | some n => some (.int n)
    | none => (f.ofDoubles (points.map Point.toDouble)).map .float

end Aggregation

/-- Windows of one length and what becomes of each. -/
structure WindowStage where
  aggregation : Aggregation
  /-- The length in milliseconds. -/
  length : Int
deriving DecidableEq, Repr

namespace WindowStage

/-- A stage from its argument, a positive number of seconds whose milliseconds fit 64 bits. -/
def make (f : Aggregation) (arg : Argument) : Except ArgumentFault WindowStage :=
  match arg.toInt? with
  | none => .error (.notInteger arg)
  | some seconds =>
    if seconds ≤ 0 then .error (.notPositive arg)
    else if Int64.maxValue.toInt < seconds.toInt * 1000 then .error (.tooLarge arg)
    else .ok ⟨f, seconds.toInt * 1000⟩

/-- The start of the window that holds a time, as an exact integer. Only the start of the earliest windows is beyond
64 bits; all others are the same product in 64 bits. -/
def startOf (w : WindowStage) (time : Int64) : Int := time.toInt / w.length * w.length

/-- The points of each window in their order, by the start of the window. -/
def group (w : WindowStage) (points : List Point) : OrderedMap Int (List Point) :=
  points.foldl (fun m p => m.alter (w.startOf p.time) fun old => old.getD [] ++ [p]) .empty

/-- One point for each window that holds a point, by time. -/
def apply (w : WindowStage) (points : List Point) : List Point :=
  (w.group points).entries.filterMap fun e =>
    (w.aggregation.ofPoints e.2).map fun v => .ofValue (.ofInt e.1) v

end WindowStage
end SeriesQuery
