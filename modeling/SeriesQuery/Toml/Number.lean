import SeriesQuery.Toml.Value

/-! # TOML numbers and words

Integers of 64 bits in four bases, doubles, and the words for truth values and for what is no number.
Single underscores may stand between digits. A double too large to be written is refused.
-/

namespace SeriesQuery.Toml

/-- The value of a digit in a base up to sixteen. -/
def digitIn? (base : Nat) (c : Char) : Option Nat :=
  let value? :=
    if c.isDigit then some (c.toNat - '0'.toNat)
    else if 'a' ≤ c ∧ c ≤ 'f' then some (c.toNat - 'a'.toNat + 10)
    else if 'A' ≤ c ∧ c ≤ 'F' then some (c.toNat - 'A'.toNat + 10)
    else none
  value?.filter fun d => decide (d < base)

/-- The digits after a first one, up to the first character that is none; an underscore must have
digits on both sides. -/
def moreDigits (base : Nat) : List Char → Option (List Nat × List Char)
  | [] => some ([], [])
  | '_' :: c :: rest =>
    match digitIn? base c with
    | some d => (moreDigits base rest).map fun (ds, after) => (d :: ds, after)
    | none => none
  | c :: rest =>
    match digitIn? base c with
    | some d => (moreDigits base rest).map fun (ds, after) => (d :: ds, after)
    | none => if c = '_' then none else some ([], c :: rest)

def digits? (base : Nat) : List Char → Option (List Nat × List Char)
  | [] => none
  | c :: rest =>
    match digitIn? base c with
    | some d => (moreDigits base rest).map fun (ds, after) => (d :: ds, after)
    | none => none

def ofDigits (base : Nat) (digits : List Nat) : Nat := digits.foldl (fun n d => base * n + d) 0

/-- Whether there is a minus sign, and what follows a sign. -/
def signed (cs : List Char) : Bool × List Char :=
  match cs with
  | '-' :: rest => (true, rest)
  | '+' :: rest => (false, rest)
  | _ => (false, cs)

def int64? (n : Int) : Option Int64 :=
  if Int64.minValue.toInt ≤ n ∧ n ≤ Int64.maxValue.toInt then some (.ofInt n) else none

/-- Digits without a leading zero. -/
def wholePart? (cs : List Char) : Option (List Nat × List Char) :=
  match digits? 10 cs with
  | some (0 :: _ :: _, _) => none
  | other => other

def integer? (cs : List Char) : Option Int64 :=
  let inBase (base : Nat) (rest : List Char) : Option Int64 :=
    match digits? base rest with
    | some (ds, []) => int64? (ofDigits base ds)
    | _ => none
  match cs with
  | '0' :: 'x' :: rest => inBase 16 rest
  | '0' :: 'o' :: rest => inBase 8 rest
  | '0' :: 'b' :: rest => inBase 2 rest
  | _ =>
    let (negative, rest) := signed cs
    match wholePart? rest with
    | some (ds, []) => int64? (if negative then -(ofDigits 10 ds : Int) else ofDigits 10 ds)
    | _ => none

/-- The exponent of a double, from behind its letter. -/
def exponent? (cs : List Char) : Option Int :=
  let (negative, rest) := signed cs
  match digits? 10 rest with
  | some (ds, []) => some (if negative then -(ofDigits 10 ds : Int) else ofDigits 10 ds)
  | _ => none

/-- The double of digits and an exponent. Exponents far out of reach count as nearer ones that are out
of reach too. -/
def ofScientific (negative : Bool) (digits : List Nat) (exponent : Int) : Double :=
  let limit : Int := digits.length + 400
  .ofDecimal negative (ofDigits 10 digits) (max (-limit) (min exponent limit))

/-- A double that is written with digits, from the whole of its text. -/
def decimal? (cs : List Char) : Option Double := do
  let (negative, rest) := signed cs
  let (whole, rest) ← wholePart? rest
  let (fraction, rest) ←
    match rest with
    | '.' :: rest => digits? 10 rest
    | _ => some ([], rest)
  let exponent ←
    match rest with
    | [] => if fraction.isEmpty then none else some 0
    | c :: rest => if c = 'e' ∨ c = 'E' then exponent? rest else none
  let d := ofScientific negative (whole ++ fraction) (exponent - fraction.length)
  if d = .infinity then none else some d

def wordDouble? (cs : List Char) : Option Double :=
  let (negative, rest) := signed cs
  if rest = ['i', 'n', 'f'] then some (.ofParts negative Double.infinityMagnitude)
  else if rest = ['n', 'a', 'n'] then some (.ofParts negative (Double.infinityMagnitude + Nat.pow 2 51))
  else none

def float? (cs : List Char) : Option Double := (decimal? cs).or (wordDouble? cs)

def truth? (cs : List Char) : Option Bool :=
  if cs = ['t', 'r', 'u', 'e'] then some true
  else if cs = ['f', 'a', 'l', 's', 'e'] then some false
  else none

end SeriesQuery.Toml
