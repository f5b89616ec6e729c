/-! # Ranges of time

A half-open range: the start belongs to it and the end does not. The widest range therefore leaves
out the last millisecond that can be written.
-/

namespace SeriesQuery

/-- The times from `start` up to, but not including, `stop`, in milliseconds. -/
structure TimeRange where
  start : Int64
  stop : Int64
deriving DecidableEq, Repr

namespace TimeRange

def isProper (r : TimeRange) : Bool := decide (r.start < r.stop)

/-- A range that holds a time. -/
def ofBounds? (start stop : Int64) : Option TimeRange :=
  if start < stop then some ⟨start, stop⟩ else none

def all : TimeRange := ⟨Int64.minValue, Int64.maxValue⟩

def contains (r : TimeRange) (time : Int64) : Bool := decide (r.start ≤ time ∧ time < r.stop)

def text (r : TimeRange) : String := s!"[{r.start.toInt}, {r.stop.toInt})"

theorem contains_iff (r : TimeRange) (time : Int64) :
    r.contains time = true ↔ r.start ≤ time ∧ time < r.stop := by
  simp [contains]

theorem contains_all_iff (time : Int64) : all.contains time = true ↔ time ≠ Int64.maxValue := by
  rw [contains_iff]
  constructor
  · rintro ⟨-, hlt⟩
    exact Int64.ne_of_lt hlt
  · intro hne
    exact ⟨Int64.minValue_le time, Int64.lt_of_le_of_ne (Int64.le_maxValue time) hne⟩

theorem ofBounds?_eq_some_iff {start stop : Int64} {r : TimeRange} :
    ofBounds? start stop = some r ↔ start < stop ∧ r = ⟨start, stop⟩ := by
  by_cases h : start < stop <;> simp [ofBounds?, h, eq_comm]

end TimeRange
end SeriesQuery
