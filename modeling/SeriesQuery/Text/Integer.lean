/-! # Integers in texts

Decimal 64-bit integers with an optional sign and any number of leading zeros. They are read from left to
right, and the first character that is no digit or leaves the range decides why a text is refused.
-/

namespace SeriesQuery.Text

/-- Why a text is no 64-bit integer. -/
inductive IntegerFault where
  | empty
  | invalidDigit
  | tooLarge
  | tooSmall
deriving DecidableEq, Repr

def IntegerFault.message : IntegerFault → String
  | empty => "cannot parse integer from empty string"
  | invalidDigit => "invalid digit found in string"
  | tooLarge => "number too large to fit in target type"
  | tooSmall => "number too small to fit in target type"

/-- The integer with further digits behind those `read`. -/
def readMore (negative : Bool) (read : Int) : List Char → Except IntegerFault Int
  | [] => .ok read
  | c :: rest =>
    if c.isDigit then
      let digit : Int := ((c.toNat - '0'.toNat : Nat) : Int)
      let next := if negative then 10 * read - digit else 10 * read + digit
      if next < Int64.minValue.toInt then .error .tooSmall
      else if Int64.maxValue.toInt < next then .error .tooLarge
      else readMore negative next rest
    else .error .invalidDigit

/-- The digits of an integer, of which there must be one. -/
def readAll (negative : Bool) (digits : List Char) : Except IntegerFault Int :=
  if digits.isEmpty then .error .invalidDigit else readMore negative 0 digits

def readInteger : List Char → Except IntegerFault Int
  | [] => .error .empty
  | '-' :: rest => readAll true rest
  | '+' :: rest => readAll false rest
  | digits => readAll false digits

end SeriesQuery.Text
