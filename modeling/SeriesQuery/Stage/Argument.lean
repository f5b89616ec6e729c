import SeriesQuery.Double.Text

/-! # Stage arguments

The form of an argument decides what it is: digits are an integer, digits with one point between them
are a decimal, and everything else, signs included, is a text. Digits beyond the 64-bit integers are
a text too.
-/

namespace SeriesQuery

/-- An argument of a stage. -/
inductive Argument where
  | int (n : Int64)
  | float (d : Double)
  | text (s : String)
deriving DecidableEq, Repr

namespace Argument

def digitsValue (digits : List Char) : Nat :=
  digits.foldl (fun n c => 10 * n + (c.toNat - '0'.toNat)) 0

/-- A row of digits, and behind it nothing or a point with another row of digits. -/
inductive Form where
  | whole (digits : List Char)
  | decimal (whole fraction : List Char)
  | other

def form (raw : List Char) : Form :=
  let whole := raw.takeWhile Char.isDigit
  match whole, raw.dropWhile Char.isDigit with
  | [], _ => .other
  | _, [] => .whole whole
  | _, '.' :: fraction =>
    if fraction ≠ [] ∧ fraction.all Char.isDigit then .decimal whole fraction else .other
  | _, _ => .other

/-- Reads an argument by its form alone. -/
def ofText (raw : String) : Argument :=
  match form raw.toList with
  | .whole digits =>
    let n := digitsValue digits
    if n ≤ Int64.maxValue.toInt.toNat then int (Int64.ofNat n) else text raw
  | .decimal whole fraction =>
    float (.ofDecimal false (digitsValue (whole ++ fraction)) (-(fraction.length : Int)))
  | .other => text raw

def toDouble? : Argument → Option Double
  | int n => some (.ofInt n.toInt)
  | float d => some d
  | text _ => none

/-- The argument as an integer; decimals are none. -/
def toInt? : Argument → Option Int64
  | int n => some n
  | float _ | text _ => none

def display : Argument → String
  | int n => toString n.toInt
  | float d => d.text
  | text s => s

end Argument
end SeriesQuery
