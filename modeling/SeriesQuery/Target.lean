import SeriesQuery.Filter.Basic
import SeriesQuery.Stage.Chain

/-! # Targets

What a query or a dashboard asks for: a field of a measurement, the series to keep, and the stages to
run over their points.
-/

namespace SeriesQuery

/-- A compiled query. -/
structure Target where
  measurement : String
  field : String
  /-- The text before the measurement that names how far to look back, with its marker. -/
  lookback : Option String
  /-- Which series to keep; without it all are kept. -/
  filter : Option SeriesFilter
  /-- The comparisons or tag texts of the filter as they were given. -/
  filterElements : List String
  /-- Whether related series were asked for. -/
  correlate : Bool
  stages : Option StageChain

namespace Target

def ofField (measurement field : String) : Target :=
  ⟨measurement, field, none, none, [], false, none⟩

/-- Measurement and field with a point between them. -/
def selector (t : Target) : String := t.measurement ++ "." ++ t.field

/-- How the stages can run; without stages there is no way to name. -/
def mode (t : Target) : Option ExecutionMode := t.stages.map StageChain.mode

end Target
end SeriesQuery
