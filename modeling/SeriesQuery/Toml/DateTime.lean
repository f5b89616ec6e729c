/-! # TOML dates and times

A date, a time, or both with an optional offset. Only days that exist are dates; a minute may have a
leap second.
-/

namespace SeriesQuery.Toml

def decimalNumber? : Nat → Nat → List Char → Option (Nat × List Char)
  | 0, read, rest => some (read, rest)
  | _ + 1, _, [] => none
  | count + 1, read, c :: rest =>
    if c.isDigit then decimalNumber? count (10 * read + (c.toNat - '0'.toNat)) rest else none

/-- A number of two digits within bounds. -/
def twoDigits? (low high : Nat) (cs : List Char) : Option (Nat × List Char) :=
  (decimalNumber? 2 0 cs).filter fun r => decide (low ≤ r.1 ∧ r.1 ≤ high)

def skipChar? (c : Char) : List Char → Option (List Char)
  | d :: rest => if d = c then some rest else none
  | [] => none

def isLeapYear (year : Nat) : Bool :=
  decide (year % 4 = 0 ∧ (year % 100 ≠ 0 ∨ year % 400 = 0))

def daysOfMonth (year month : Nat) : Nat :=
  if month = 2 then (if isLeapYear year then 29 else 28)
  else if month = 4 ∨ month = 6 ∨ month = 9 ∨ month = 11 then 30
  else 31

def skipDate? (cs : List Char) : Option (List Char) := do
  let (year, rest) ← decimalNumber? 4 0 cs
  let rest ← skipChar? '-' rest
  let (month, rest) ← twoDigits? 1 12 rest
  let rest ← skipChar? '-' rest
  let (_, rest) ← twoDigits? 1 (daysOfMonth year month) rest
  some rest

def skipTime? (cs : List Char) : Option (List Char) := do
  let (_, rest) ← twoDigits? 0 23 cs
  let rest ← skipChar? ':' rest
  let (_, rest) ← twoDigits? 0 59 rest
  let rest ← skipChar? ':' rest
  let (_, rest) ← twoDigits? 0 60 rest
  match rest with
  | '.' :: fraction =>
    if (fraction.takeWhile Char.isDigit).isEmpty then none
    else some (fraction.dropWhile Char.isDigit)
  | _ => some rest

/-- Whether the characters are an offset from universal time, or nothing. -/
def isOffset (cs : List Char) : Bool :=
  match cs with
  | [] => true
  | c :: rest =>
    if c = 'Z' ∨ c = 'z' then rest.isEmpty
    else if c = '+' ∨ c = '-' then
      match twoDigits? 0 23 rest with
      | some (_, rest) =>
        match (skipChar? ':' rest).bind (twoDigits? 0 59) with
        | some (_, rest) => rest.isEmpty
        | none => false
      | none => false
    else false

def isDate (cs : List Char) : Bool := skipDate? cs == some []

def isTime (cs : List Char) : Bool := skipTime? cs == some []

/-- Whether the characters are a time of the day with or without an offset. -/
def isOffsetTime (cs : List Char) : Bool := (skipTime? cs).any isOffset

/-- Whether the characters are a date and a time with a letter between them. -/
def isDateTime (cs : List Char) : Bool :=
  match skipDate? cs with
  | some (c :: rest) => (c = 'T' || c = 't') && isOffsetTime rest
  | _ => false

end SeriesQuery.Toml
