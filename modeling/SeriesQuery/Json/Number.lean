import SeriesQuery.Point

/-! # JSON numbers

A number is kept as it was written. Without fraction and exponent it is an integer where 64 bits hold
it. Everything else is a double: as many leading digits as an unsigned 64-bit integer holds, scaled by
a power of ten, each step rounded. A number too large for a double has no value.
-/

namespace SeriesQuery.Json

/-- A number as written. The exponent comes with its sign. -/
structure Number where
  negative : Bool
  whole : List Nat
  fraction : Option (List Nat)
  exponent : Option (Bool × List Nat)
deriving DecidableEq, Repr

namespace Number

/-- The digits that an unsigned 64-bit integer holds, put behind those already `read`, and how many
digits are left over. -/
def takeDigits (read : Nat) : List Nat → Nat × Nat
  | [] => (read, 0)
  | d :: rest =>
    if read * 10 + d < Nat.pow 2 64 then takeDigits (read * 10 + d) rest else (read, (d :: rest).length)

def digitsValue (digits : List Nat) : Nat := digits.foldl (fun n d => 10 * n + d) 0

/-- A power of ten as a double, for exponents up to 308. -/
def powerOfTen (exponent : Nat) : Double := .ofDecimal false 1 exponent

/-- Divides by the largest power of ten until the exponent is in reach; `fuel` bounds the divisions. -/
private def scaleDown : Nat → Double → Nat → Double
  | 0, d, _ => d
  | fuel + 1, d, exponent =>
    if exponent ≤ 308 then d.div (powerOfTen exponent)
    else if d.isZero then d
    else scaleDown fuel (d.div (powerOfTen 308)) (exponent - 308)

/-- A double times a power of ten; `none` when the result is too large. -/
def scale (d : Double) (exponent : Int) : Option Double :=
  if 0 ≤ exponent then
    if exponent ≤ 308 then
      let scaled := d.mul (powerOfTen exponent.toNat)
      if scaled.isFinite then some scaled else none
    else if d.isZero then some d else none
  else some (scaleDown (exponent.natAbs / 308 + 2) d exponent.natAbs)

private def signed (negative : Bool) (d : Double) : Double := .ofParts negative d.magnitude

/-- The largest exponent that is counted exactly. -/
private def exponentLimit : Nat := Nat.pow 2 31

def toDouble? (n : Number) : Option Double :=
  let (read, left) := takeDigits 0 n.whole
  let fraction := n.fraction.getD []
  let (read, fractionLeft) := takeDigits read fraction
  let shift : Int := left - ((fraction.length - fractionLeft : Nat) : Int)
  let magnitude : Option Double :=
    match n.exponent with
    | none => scale (.ofInt read) shift
    | some (negative, digits) =>
      let e := digitsValue digits
      if exponentLimit ≤ e then
        if read ≠ 0 ∧ !negative then none else some Double.zero
      else scale (.ofInt read) (if negative then shift - e else shift + e)
  magnitude.map (signed n.negative)

def isWhole (n : Number) : Bool := n.fraction.isNone && n.exponent.isNone

/-- The value as an integer, where it is written as one and 64 bits hold it. A negative zero is no
integer. -/
def toInt64? (n : Number) : Option Int64 :=
  let v := digitsValue n.whole
  if !n.isWhole then none
  else if n.negative then
    if 0 < v ∧ v ≤ Nat.pow 2 63 then some (.ofInt (-(v : Int))) else none
  else if v < Nat.pow 2 63 then some (.ofNat v) else none

/-- The value: an integer if it can be one, else a double. -/
def toValue? (n : Number) : Option Value :=
  match n.toInt64? with
  | some i => some (.int i)
  | none => n.toDouble?.map .float

end Number
end SeriesQuery.Json
