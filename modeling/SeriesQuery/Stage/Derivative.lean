import SeriesQuery.Point

/-! # Rate of change

The change of the value per second from each point to the next. The first point yields nothing, and
neither does a point that is not later than the one before it; both still become the point that the
next one is compared with.
-/

namespace SeriesQuery

/-- The last point seen. -/
structure DerivativeStage where
  previous : Option Point
deriving DecidableEq, Repr

namespace DerivativeStage

def fresh : DerivativeStage := ⟨none⟩

/-- The rate between two points whose times differ by `elapsed` milliseconds. -/
def rate (previous current : Point) (elapsed : Int) : Double :=
  (current.toDouble.sub previous.toDouble).div ((Double.ofInt elapsed).div (Double.ofInt 1000))

/-- The point that the step from one point to the next yields. The time between them is an exact integer, also where
64 bits do not hold it; up to there it is their difference in 64 bits. -/
def between? (previous current : Point) : Option Point :=
  let elapsed := current.time.toInt - previous.time.toInt
  if elapsed ≤ 0 then none else some (.ofDouble current.time (rate previous current elapsed))

def step (s : DerivativeStage) (p : Point) : DerivativeStage × Option Point :=
  (⟨some p⟩, s.previous.bind fun previous => between? previous p)

end DerivativeStage
end SeriesQuery
