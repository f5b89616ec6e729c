import SeriesQuery.Json.Tree
import SeriesQuery.Text.Utf8

/-! # Reading JSON

The JSON grammar over bytes. Each reader takes the bytes left and returns what it read with the bytes
after it; the readers of values are bounded by the number of bytes.
-/

namespace SeriesQuery.Json

def isAt (b : UInt8) (c : Char) : Bool := b.toNat == c.toNat

def isBlankByte (b : UInt8) : Bool :=
  b == 0x20 || b == 0x0A || b == 0x0D || b == 0x09

def digit? (b : UInt8) : Option Nat :=
  if 0x30 ≤ b ∧ b ≤ 0x39 then some (b.toNat - 0x30) else none

def hexDigit? (b : UInt8) : Option Nat :=
  if 0x30 ≤ b ∧ b ≤ 0x39 then some (b.toNat - 0x30)
  else if 0x41 ≤ b ∧ b ≤ 0x46 then some (b.toNat - 0x37)
  else if 0x61 ≤ b ∧ b ≤ 0x66 then some (b.toNat - 0x57)
  else none

def skipBlanks (bytes : List UInt8) : List UInt8 := bytes.dropWhile isBlankByte

/-- A row of digits, which may be empty. -/
def readDigits : List UInt8 → List Nat × List UInt8
  | [] => ([], [])
  | b :: rest =>
    match digit? b with
    | some d =>
      let (ds, after) := readDigits rest
      (d :: ds, after)
    | none => ([], b :: rest)

def readFraction (bytes : List UInt8) : Option (Option (List Nat) × List UInt8) :=
  match bytes with
  | b :: rest =>
    if isAt b '.' then
      match readDigits rest with
      | ([], _) => none
      | (ds, after) => some (some ds, after)
    else some (none, bytes)
  | [] => some (none, [])

/-- The exponent of a number, if there is one: whether it is negative, and its digits. -/
def readExponent (bytes : List UInt8) : Option (Option (Bool × List Nat) × List UInt8) :=
  match bytes with
  | b :: rest =>
    if isAt b 'e' || isAt b 'E' then
      let (negative, rest) :=
        match rest with
        | s :: more => if isAt s '-' then (true, more) else if isAt s '+' then (false, more) else (false, rest)
        | [] => (false, rest)
      match readDigits rest with
      | ([], _) => none
      | (ds, after) => some (some (negative, ds), after)
    else some (none, bytes)
  | [] => some (none, [])

/-- A number; its integer part has no leading zeros. -/
def readNumber (bytes : List UInt8) : Option (Number × List UInt8) :=
  let (negative, bytes) :=
    match bytes with
    | b :: rest => if isAt b '-' then (true, rest) else (false, bytes)
    | [] => (false, [])
  match readDigits bytes with
  | ([], _) => none
  | (0 :: _ :: _, _) => none
  | (whole, after) => do
    let (fraction, after) ← readFraction after
    let (exponent, after) ← readExponent after
    some (⟨negative, whole, fraction, exponent⟩, after)

/-- Four hexadecimal digits. -/
def readUnit : List UInt8 → Option (Nat × List UInt8)
  | a :: b :: c :: d :: rest =>
    match hexDigit? a, hexDigit? b, hexDigit? c, hexDigit? d with
    | some w, some x, some y, some z => some (((w * 16 + x) * 16 + y) * 16 + z, rest)
    | _, _, _, _ => none
  | _ => none

/-- A piece of a string: bytes as they are, or a code unit that an escape names. -/
inductive Piece where
  | byte (b : UInt8)
  | unit (n : Nat)

def simpleEscape? (b : UInt8) : Option UInt8 :=
  if isAt b '"' || isAt b '\\' || isAt b '/' then some b
  else if isAt b 'b' then some 0x08
  else if isAt b 'f' then some 0x0C
  else if isAt b 'n' then some 0x0A
  else if isAt b 'r' then some 0x0D
  else if isAt b 't' then some 0x09
  else none

/-- The pieces of a string up to its closing quote. Control characters must be escaped. -/
def readPieces : Nat → List UInt8 → Option (List Piece × List UInt8)
  | 0, _ => none
  | _, [] => none
  | fuel + 1, b :: rest =>
    if isAt b '"' then some ([], rest)
    else if b < 0x20 then none
    else if isAt b '\\' then
      match rest with
      | [] => none
      | e :: rest =>
        if isAt e 'u' then do
          let (unit, rest) ← readUnit rest
          let (ps, after) ← readPieces fuel rest
          some (.unit unit :: ps, after)
        else do
          let c ← simpleEscape? e
          let (ps, after) ← readPieces fuel rest
          some (.byte c :: ps, after)
    else do
      let (ps, after) ← readPieces fuel rest
      some (.byte b :: ps, after)

/-- The bytes of the pieces of a string; `none` when a code unit is half of a character. -/
def pieceBytes : List Piece → Option (List UInt8)
  | [] => some []
  | .byte b :: rest => (pieceBytes rest).map (b :: ·)
  | .unit n :: rest =>
    if 0xD800 ≤ n ∧ n ≤ 0xDBFF then
      match rest with
      | .unit m :: rest =>
        if 0xDC00 ≤ m ∧ m ≤ 0xDFFF then
          let code := 0x10000 + (n - 0xD800) * 0x400 + (m - 0xDC00)
          (pieceBytes rest).map (String.utf8EncodeChar (Char.ofNat code) ++ ·)
        else none
      | _ => none
    else if 0xDC00 ≤ n ∧ n ≤ 0xDFFF then none
    else (pieceBytes rest).map (String.utf8EncodeChar (Char.ofNat n) ++ ·)

/-- A string from behind its opening quote; without a text when it names no characters. -/
def readString (fuel : Nat) (bytes : List UInt8) : Option (Option String × List UInt8) := do
  let (ps, after) ← readPieces fuel bytes
  let text := (pieceBytes ps).bind fun bs => (Utf8.decode bs).toOption
  some (text, after)

def readWord (word : List Char) (bytes : List UInt8) : Option (List UInt8) :=
  match word, bytes with
  | [], after => some after
  | c :: cs, b :: rest => if isAt b c then readWord cs rest else none
  | _ :: _, [] => none

mutual
/-- A value, behind blanks. -/
def readValue : Nat → List UInt8 → Option (Tree × List UInt8)
  | 0, _ => none
  | fuel + 1, bytes =>
    match skipBlanks bytes with
    | [] => none
    | b :: rest =>
      if isAt b '"' then (readString fuel rest).map fun (s, after) => (.text s, after)
      else if isAt b '[' then
        match skipBlanks rest with
        | c :: after =>
          if isAt c ']' then some (.list [], after)
          else (readItems fuel (c :: after)).map fun (ts, after) => (.list ts, after)
        | [] => none
      else if isAt b '\x7b' then
        match skipBlanks rest with
        | c :: after =>
          if isAt c '\x7d' then some (.object [], after)
          else (readMembers fuel (c :: after)).map fun (ms, after) => (.object ms, after)
        | [] => none
      else if isAt b 'n' then (readWord ['u', 'l', 'l'] rest).map fun after => (.null, after)
      else if isAt b 't' then (readWord ['r', 'u', 'e'] rest).map fun after => (.bool true, after)
      else if isAt b 'f' then
        (readWord ['a', 'l', 's', 'e'] rest).map fun after => (.bool false, after)
      else (readNumber (b :: rest)).map fun (n, after) => (.number n, after)

/-- The items of a list up to its closing bracket; there is at least one. -/
def readItems : Nat → List UInt8 → Option (List Tree × List UInt8)
  | 0, _ => none
  | fuel + 1, bytes => do
    let (t, after) ← readValue fuel bytes
    match skipBlanks after with
    | [] => none
    | b :: rest =>
      if isAt b ']' then some ([t], rest)
      else if isAt b ',' then do
        let (ts, after) ← readItems fuel rest
        some (t :: ts, after)
      else none

/-- The members of an object up to its closing brace; there is at least one. -/
def readMembers : Nat → List UInt8 → Option (List (Option String × Tree) × List UInt8)
  | 0, _ => none
  | fuel + 1, bytes =>
    match skipBlanks bytes with
    | [] => none
    | b :: rest =>
      if !isAt b '"' then none
      else do
        let (key, after) ← readString fuel rest
        match skipBlanks after with
        | [] => none
        | c :: rest =>
          if !isAt c ':' then none
          else do
            let (t, after) ← readValue fuel rest
            match skipBlanks after with
            | [] => none
            | b :: rest =>
              if isAt b '\x7d' then some ([(key, t)], rest)
              else if isAt b ',' then do
                let (ms, after) ← readMembers fuel rest
                some ((key, t) :: ms, after)
              else none
end

def Tree.ofBytes? (bytes : List UInt8) : Option Tree := do
  let (t, after) ← readValue (2 * bytes.length + 2) bytes
  if (skipBlanks after).isEmpty then some t else none

def Tree.ofText? (s : String) : Option Tree := ofBytes? (Utf8.encode s)

end SeriesQuery.Json
