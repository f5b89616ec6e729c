import SeriesQuery.Double.Basic

/-! # Rounding to and from doubles

The double nearest to a quotient of naturals, ties to the even neighbour, in exact integer
arithmetic. Integers and decimals become doubles through this one function. The way back cuts the
fraction off and clamps to the 64-bit integers.
-/

namespace SeriesQuery.Double

/-- `num / den` to the nearest integer, a half to the even neighbour. -/
def roundHalfEven (num den : Nat) : Nat :=
  let quotient := num / den
  let twice := 2 * (num % den)
  if twice < den then quotient
  else if den < twice then quotient + 1
  else if quotient % 2 = 0 then quotient else quotient + 1

/-- The integer part of the binary logarithm of `num / den`, both positive. -/
def floorLog2 (num den : Nat) : Int :=
  let estimate : Int := (num.log2 : Int) - den.log2
  let reached : Bool :=
    if 0 ≤ estimate then decide (den * Nat.pow 2 estimate.toNat ≤ num)
    else decide (den ≤ num * Nat.pow 2 (-estimate).toNat)
  if reached then estimate else estimate - 1

/-- The magnitude nearest to `num / den`. The unit in the last place is `2 ^ q`; as neighbouring
doubles have neighbouring patterns, a carry out of the significand needs no care. -/
def nearestMagnitude (num den : Nat) : Nat :=
  if num = 0 then 0
  else
    let q := max (floorLog2 num den - 52) (-1074)
    let units :=
      if 0 ≤ q then roundHalfEven num (den * Nat.pow 2 q.toNat)
      else roundHalfEven (num * Nat.pow 2 (-q).toNat) den
    Nat.min ((q + 1074).toNat * Nat.pow 2 52 + units) infinityMagnitude

/-- The double nearest to `± num / den`; beyond the largest double it is an infinity. -/
def ofRatio (negative : Bool) (num den : Nat) : Double :=
  ofParts negative (nearestMagnitude num den)

def ofInt (n : Int) : Double := ofRatio (decide (n < 0)) n.natAbs 1

def ofDecimal (negative : Bool) (digits : Nat) (exponent : Int) : Double :=
  if 0 ≤ exponent then ofRatio negative (digits * Nat.pow 10 exponent.toNat) 1
  else ofRatio negative digits (Nat.pow 10 (-exponent).toNat)

/-- An integer moved into the range of 64-bit integers. -/
def clampToInt64 (n : Int) : Int64 :=
  Int64.ofInt (max Int64.minValue.toInt (min n Int64.maxValue.toInt))

/-- The number without its fraction, clamped to the 64-bit integers; zero for a NaN. -/
def toInt64 (d : Double) : Int64 :=
  if d.isNaN then 0
  else if !d.isFinite then (if d.isNegative then Int64.minValue else Int64.maxValue)
  else
    let (m, q) := d.significand
    let whole : Int := if 0 ≤ q then (m * Nat.pow 2 q.toNat : Nat) else (m / Nat.pow 2 (-q).toNat : Nat)
    clampToInt64 (if d.isNegative then -whole else whole)

end SeriesQuery.Double
