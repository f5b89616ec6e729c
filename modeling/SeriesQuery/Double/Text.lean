import SeriesQuery.Double.Shortest

/-! # Text of doubles

The shortest digits laid out in two ways: positionally throughout, as in tables and messages, and
with an exponent outside a middle range, as in JSON. Zeros keep their sign in both.
-/

namespace SeriesQuery.Double

/-- The decisions of a number format. The point position of a decimal is the number of its digits
before the decimal point. -/
structure Layout where
  /-- Which of two equally near decimals is written. -/
  tie : Tie
  /-- Which point positions are written without an exponent. -/
  positional : Int → Bool
  /-- What follows a whole number. -/
  wholeSuffix : String
  /-- What introduces an exponent that is not negative. -/
  exponentMark : String
  /-- What introduces a negative exponent. -/
  negativeExponentMark : String

/-- Never an exponent, and whole numbers without a fraction; of equally near decimals the larger. -/
def Layout.plain : Layout := ⟨.up, fun _ => true, "", "", ""⟩

/-- Positional from `0.00001` up to `10 ^ 16`, always with a fraction or an exponent; of equally near
decimals the even one. -/
def Layout.json : Layout :=
  ⟨.toEven, fun point => decide (-5 < point ∧ point ≤ 16), ".0", "e+", "e-"⟩

def zeros (count : Nat) : List Char := List.replicate count '0'

/-- Digits with a decimal point after `point` of them. -/
def Layout.place (layout : Layout) (digits : List Char) (point : Int) : List Char :=
  if point ≤ 0 then '0' :: '.' :: zeros (-point).toNat ++ digits
  else
    let whole := point.toNat
    if digits.length ≤ whole then
      digits ++ zeros (whole - digits.length) ++ layout.wholeSuffix.toList
    else digits.take whole ++ '.' :: digits.drop whole

/-- One digit, the others as a fraction, and the exponent. -/
def Layout.scale (layout : Layout) (digits : List Char) (exponent : Int) : List Char :=
  let fraction := if digits.length ≤ 1 then [] else '.' :: digits.drop 1
  let mark := if 0 ≤ exponent then layout.exponentMark else layout.negativeExponentMark
  digits.take 1 ++ fraction ++ mark.toList ++ (toString exponent.natAbs).toList

def Layout.chars (layout : Layout) (d : Double) : List Char :=
  let body :=
    if d.isZero then '0' :: layout.wholeSuffix.toList
    else
      let decimal := d.shortest layout.tie
      let digits := (toString decimal.digits).toList
      let point := (digits.length : Int) + decimal.exponent
      if layout.positional point then layout.place digits point else layout.scale digits (point - 1)
  if d.isNegative then '-' :: body else body

/-- The text of any double, without an exponent. -/
def text (d : Double) : String :=
  if d.isNaN then "NaN"
  else if d.isFinite then String.ofList (Layout.plain.chars d)
  else if d.isNegative then "-inf" else "inf"

/-- The JSON text; numbers that JSON lacks become `null`. -/
def jsonText (d : Double) : String :=
  if d.isFinite then String.ofList (Layout.json.chars d) else "null"

end SeriesQuery.Double
