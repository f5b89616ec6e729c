/-! # Doubles held by their bits

A binary64 number is kept as its 64-bit pattern, so that equality, NaN payloads and the sign of
zero stay visible and moving a number around never changes it. Order is read off the pattern by
integer arithmetic; the four operations are those of `Float`, whose results are exact up to the
payload of a NaN.
-/

namespace SeriesQuery

/-- A binary64 number: one sign bit, eleven exponent bits, fifty-two fraction bits. -/
structure Double where
  bits : UInt64
deriving DecidableEq, Repr, Inhabited

namespace Double

def ofFloat (x : Float) : Double := ⟨x.toBits⟩

def toFloat (d : Double) : Float := Float.ofBits d.bits

/-- The pattern of infinity; patterns above it, sign aside, are NaNs. -/
def infinityMagnitude : Nat := 0x7FF0000000000000

def zero : Double := ⟨0⟩
def negativeZero : Double := ⟨0x8000000000000000⟩
def infinity : Double := ⟨0x7FF0000000000000⟩
def negativeInfinity : Double := ⟨0xFFF0000000000000⟩

/-- The sign bit, also of zeros and NaNs. -/
def isNegative (d : Double) : Bool := decide (Nat.pow 2 63 ≤ d.bits.toNat)

/-- All bits but the sign. On numbers it grows with the absolute value. -/
def magnitude (d : Double) : Nat := d.bits.toNat % Nat.pow 2 63

def isNaN (d : Double) : Bool := decide (infinityMagnitude < d.magnitude)

def isFinite (d : Double) : Bool := decide (d.magnitude < infinityMagnitude)

/-- Both zeros. -/
def isZero (d : Double) : Bool := d.magnitude == 0

/-- The sign bit and a magnitude below `2 ^ 63` put together. -/
def ofParts (negative : Bool) (magnitude : Nat) : Double :=
  ⟨UInt64.ofNat (if negative then Nat.pow 2 63 + magnitude else magnitude)⟩

/-- An integer ordered as the numbers are; the two zeros share it. -/
def rank (d : Double) : Int :=
  if d.isNegative then -(d.magnitude : Int) else d.magnitude

/-- Numerical order. Nothing is below or above a NaN. -/
def lt (a b : Double) : Bool := !a.isNaN && !b.isNaN && decide (a.rank < b.rank)

/-- The smaller number. A NaN gives way to the other side, and of two equal numbers `a` stays. -/
def lesser (a b : Double) : Double := if a.isNaN then b else if lt b a then b else a

/-- The larger number. A NaN gives way to the other side, and of two equal numbers `a` stays. -/
def greater (a b : Double) : Double := if a.isNaN then b else if lt a b then b else a

def add (a b : Double) : Double := ofFloat (a.toFloat + b.toFloat)
def sub (a b : Double) : Double := ofFloat (a.toFloat - b.toFloat)
def mul (a b : Double) : Double := ofFloat (a.toFloat * b.toFloat)
def div (a b : Double) : Double := ofFloat (a.toFloat / b.toFloat)

/-- The sum from left to right. It starts at `-0.0`, the neutral element of addition. -/
def sum (values : List Double) : Double := values.foldl add negativeZero

/-- The integer `m` and exponent `q` with `m * 2 ^ q` the absolute value of a finite number. -/
def significand (d : Double) : Nat × Int :=
  let exponent : Nat := d.magnitude / Nat.pow 2 52
  let fraction : Nat := d.magnitude % Nat.pow 2 52
  if exponent = 0 then (fraction, -1074) else (Nat.pow 2 52 + fraction, (exponent : Int) - 1075)

end Double
end SeriesQuery
