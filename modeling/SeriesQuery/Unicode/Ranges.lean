/-! # Sets of code points as ranges

A property of characters is a list of closed ranges of code points. In normal form the ranges are in
order and do not touch, and the operations on sets keep them so. Tables are written as text,
hexadecimal numbers and ranges between blanks, so that they stay readable and cheap to load.
-/

namespace SeriesQuery.Unicode

/-- Closed ranges of code points, first and last. -/
abbrev Ranges := List (Nat × Nat)

namespace Ranges

def has (rs : Ranges) (code : Nat) : Bool := rs.any fun r => decide (r.1 ≤ code ∧ code ≤ r.2)

def contains (rs : Ranges) (c : Char) : Bool := rs.has c.toNat

/-- The code point of the next character; surrogates are not characters. -/
def next (code : Nat) : Nat := if code = 0xD7FF then 0xE000 else code + 1

def previous (code : Nat) : Nat := if code = 0xE000 then 0xD7FF else code - 1

/-- Joins ranges in the order of their first members, beginning with a current one. -/
private def join (first last : Nat) : Ranges → Ranges
  | [] => [(first, last)]
  | r :: rest =>
    if r.1 ≤ last + 1 then join first (max last r.2) rest else (first, last) :: join r.1 r.2 rest

def normalize (rs : Ranges) : Ranges :=
  match rs.mergeSort fun r s => decide (r.1 ≤ s.1) with
  | [] => []
  | r :: rest => join r.1 r.2 rest

def union (a b : Ranges) : Ranges := normalize (a ++ b)

def inter : Ranges → Ranges → Ranges
  | [], _ => []
  | r :: rest, b =>
    let b := b.dropWhile fun s => decide (s.2 < r.1)
    (b.takeWhile fun s => decide (s.1 ≤ r.2)).map (fun s => (max r.1 s.1, min r.2 s.2)) ++ inter rest b

/-- What a range keeps when others that meet it are taken away. -/
private def cut (first last : Nat) : Ranges → Ranges
  | [] => [(first, last)]
  | s :: rest =>
    (if first < s.1 then [(first, previous s.1)] else []) ++
      (if s.2 < last then cut (next s.2) last rest else [])

def diff : Ranges → Ranges → Ranges
  | [], _ => []
  | r :: rest, b =>
    let b := b.dropWhile fun s => decide (s.2 < r.1)
    cut r.1 r.2 (b.takeWhile fun s => decide (s.1 ≤ r.2)) ++ diff rest b

/-- The gaps behind a code point. Where only surrogates lie between two ranges the bounds of the gap
cross, and it is read from the lower one to the higher. -/
private def gapsBehind (last : Nat) : Ranges → Ranges
  | [] => if last < 0x10FFFF then [(next last, 0x10FFFF)] else []
  | r :: rest =>
    (min (next last) (previous r.1), max (next last) (previous r.1)) :: gapsBehind r.2 rest

def compl : Ranges → Ranges
  | [] => [(0, 0x10FFFF)]
  | r :: rest => (if 0 < r.1 then [(0, previous r.1)] else []) ++ gapsBehind r.2 rest

def symmDiff (a b : Ranges) : Ranges := (a.union b).diff (a.inter b)

end Ranges

/-- The value of a hexadecimal digit; other characters count as zero. -/
private def hexDigitValue (c : Char) : Nat :=
  if c.isDigit then c.toNat - '0'.toNat
  else if 'A' ≤ c ∧ c ≤ 'F' then c.toNat - 'A'.toNat + 10
  else 0

/-- The range of the numbers read since the last blank, if there are any. -/
private def pending (first last : Option Nat) : Ranges :=
  match last with
  | none => []
  | some last => [(first.getD last, last)]

/-- Reads table text from left to right: the first number of the current range, if a dash came after
it, and the number being read. -/
private def readRanges (first current : Option Nat) : List Char → Ranges
  | [] => pending first current
  | c :: rest =>
    if c = ' ' ∨ c = '\n' then pending first current ++ readRanges none none rest
    else if c = '-' then readRanges current none rest
    else readRanges first (some (16 * current.getD 0 + hexDigitValue c)) rest

/-- The ranges of a table text such as `"30-39 41-5A 5F"`; blanks and line ends divide alike. -/
def Ranges.ofText (text : String) : Ranges := readRanges none none text.toList

/-- Ranges with the names they go by, lower case and without separators. -/
structure NamedRanges where
  names : List String
  ranges : Ranges

def NamedRanges.lookup? (table : List NamedRanges) (name : String) : Option Ranges :=
  (table.find? fun e => e.names.contains name).map NamedRanges.ranges

/-- The ranges with a name in a table; empty for an unknown name. -/
def NamedRanges.lookup (table : List NamedRanges) (name : String) : Ranges :=
  (lookup? table name).getD []

end SeriesQuery.Unicode
