import SeriesQuery.Double.Rounding

/-! # The fewest digits that read back

A finite double stands for an interval of reals: all those that round to it. For one digit, two
digits and so on, the two neighbours of the double on that decimal grid are tested; the first grid
that meets the interval wins, and of two hits the nearer one. A double exactly between two hits is
for the format to decide.
-/

namespace SeriesQuery.Double

/-- Which of two equally near decimals is taken: the larger, or the one whose last digit is even. -/
inductive Tie where
  | up
  | toEven
deriving DecidableEq, Repr

/-- Whether a remainder over `below` units of size `unit` leaves the double nearer to `below`. -/
def Tie.prefersBelow (tie : Tie) (below remainder unit : Nat) : Bool :=
  decide (2 * remainder < unit) ||
    (decide (2 * remainder = unit) && decide (tie = .toEven ∧ below % 2 = 0))

/-- A positive decimal `digits * 10 ^ exponent`. -/
structure Decimal where
  digits : Nat
  exponent : Int
deriving DecidableEq, Repr

/-- Four times the double and the ends of its interval, over the common unit `2 ^ (q - 2)`. The
lower end is nearer where the spacing halves, and the ends belong to the interval when the
significand is even. -/
structure Interval where
  low : Nat
  middle : Nat
  high : Nat
  closed : Bool
  unit : Int

def interval (d : Double) : Interval :=
  let (m, q) := d.significand
  let narrow := decide (m = Nat.pow 2 52 ∧ -1074 < q)
  { low := if narrow then 4 * m - 1 else 4 * m - 2
    middle := 4 * m
    high := 4 * m + 2
    closed := m % 2 == 0
    unit := q - 2 }

/-- A natural multiple of `2 ^ unit` and a multiple of `10 ^ step` over one denominator. -/
def onCommonScale (value : Nat) (unit : Int) (grid : Nat) (step : Int) : Nat × Nat :=
  let left := if 0 ≤ unit then value * Nat.pow 2 unit.toNat else value
  let right := if 0 ≤ unit then grid else grid * Nat.pow 2 (-unit).toNat
  if 0 ≤ step then (left, right * Nat.pow 10 step.toNat) else (left * Nat.pow 10 (-step).toNat, right)

/-- Whether `grid * 10 ^ step` rounds to the double of the interval. -/
def Interval.contains (i : Interval) (grid : Nat) (step : Int) : Bool :=
  let (low, point) := onCommonScale i.low i.unit grid step
  let (high, _) := onCommonScale i.high i.unit grid step
  if i.closed then decide (low ≤ point ∧ point ≤ high) else decide (low < point ∧ point < high)

/-- The number of digits before the decimal point of a positive double; not positive when the
first digit stands after the point. -/
def pointPosition (d : Double) : Int :=
  let (m, q) := d.significand
  let estimate := Int.fdiv (((m.log2 : Int) + q) * 30103) 100000
  let (value, power) := onCommonScale m q 1 (estimate + 1)
  if power ≤ value then estimate + 2 else estimate + 1

/-- The neighbours of the double on the grid of `count` digits, tested. -/
def candidate? (tie : Tie) (d : Double) (count : Nat) : Option Decimal :=
  let i := d.interval
  let step := d.pointPosition - count
  let (value, unit) := onCommonScale i.middle i.unit 1 step
  let below := value / unit
  let belowFits := i.contains below step
  let aboveFits := i.contains (below + 1) step
  if belowFits && (tie.prefersBelow below (value % unit) unit || !aboveFits) then some ⟨below, step⟩
  else if aboveFits then some ⟨below + 1, step⟩
  else none

/-- Trailing zeros moved into the exponent; `fuel` bounds their number. -/
def Decimal.strip : Nat → Decimal → Decimal
  | 0, x => x
  | fuel + 1, x =>
    if x.digits ≠ 0 ∧ x.digits % 10 = 0 then strip fuel ⟨x.digits / 10, x.exponent + 1⟩ else x

/-- The first grid from `count` digits on that meets the interval; `fuel` more grids are tried. -/
def searchFrom (tie : Tie) (d : Double) : Nat → Nat → Decimal
  | count, 0 => (candidate? tie d count).getD ⟨d.significand.1, 0⟩
  | count, fuel + 1 =>
    match candidate? tie d count with
    | some x => x
    | none => searchFrom tie d (count + 1) fuel

/-- The shortest decimal of a finite double that is not zero, sign aside. Seventeen digits always
suffice. -/
def shortest (tie : Tie) (d : Double) : Decimal := (searchFrom tie d 1 16).strip 17

end SeriesQuery.Double
