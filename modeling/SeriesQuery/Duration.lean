import SeriesQuery.Text.Integer
import SeriesQuery.Text.Pieces
import SeriesQuery.Unicode.LowerCase

/-! # Durations

A duration is a number with the letter of a unit behind it, in either case and with blanks around it:
hours, days, weeks, months of thirty days, or years of 365 days. Its milliseconds, without the sign, must
fit 64 bits.
-/

namespace SeriesQuery.Duration

/-- Why a text is no duration. -/
inductive Fault where
  | format (text : String)
  | number (cause : Text.IntegerFault)
  | outOfRange (text : String)
deriving DecidableEq, Repr

def Fault.message : Fault → String
  | format text => "Invalid duration format: " ++ text ++ ". Use: 12h, 7d, 4w, 3m, 1y"
  | number cause => cause.message
  | outOfRange text => "Duration out of range: " ++ text

/-- The milliseconds of an hour. -/
def hour : Int := 3600 * 1000

/-- The milliseconds of a unit. -/
def unit? (letter : Char) : Option Int :=
  if letter = 'h' then some hour
  else if letter = 'd' then some (24 * hour)
  else if letter = 'w' then some (7 * 24 * hour)
  else if letter = 'm' then some (30 * 24 * hour)
  else if letter = 'y' then some (365 * 24 * hour)
  else none

/-- The largest duration in milliseconds. -/
def limit : Int := Int64.maxValue.toInt

/-- A text without the blanks around it and in lower case. -/
def normalize (text : List Char) : List Char := Unicode.lowerCase (Text.trim text)

/-- The milliseconds of a duration. -/
def parse (text : String) : Except Fault Int :=
  let s := normalize text.toList
  match s.getLast?.bind unit? with
  | none => .error (.format (String.ofList s))
  | some unit =>
    match Text.readInteger s.dropLast with
    | .error cause => .error (.number cause)
    | .ok count =>
      let length := count * unit
      if length.natAbs ≤ limit.natAbs then .ok length else .error (.outOfRange (String.ofList s))

end SeriesQuery.Duration
