import SeriesQuery.Unicode.Ranges

/-! # Ranges of characters as sequences of byte ranges

The UTF-8 encodings of a range of characters are covered by a few sequences of byte ranges. An
encoding is a number in base 64 whose first digit carries the mark of the length, so that a range of
numbers splits at the first digit that differs.
-/

namespace SeriesQuery.Pattern.Automaton

open Unicode

/-- A closed range of bytes, first and last. -/
abbrev ByteRange := Nat × Nat

/-- The numbers from `low` to `high` with `more` digits in base 64 behind the first one, as sequences
of digit ranges in the order of the numbers. The first digit is marked with `mark`, and the others
with `0x80`. -/
def digitSequences : Nat → Nat → Nat → Nat → List (List ByteRange)
  | 0, mark, low, high => [[(mark + low, mark + high)]]
  | more + 1, mark, low, high =>
    let unit := 1 <<< (6 * (more + 1))
    let first := low / unit
    let last := high / unit
    let under (digit low high : Nat) : List (List ByteRange) :=
      (digitSequences more 0x80 low high).map ((mark + digit, mark + digit) :: ·)
    if first = last then under first (low % unit) (high % unit)
    else
      let fromStart := low % unit = 0
      let toEnd := high % unit = unit - 1
      let firstFull := if fromStart then first else first + 1
      let lastFull := if toEnd then last else last - 1
      (if fromStart then [] else under first (low % unit) (unit - 1)) ++
        (if firstFull ≤ lastFull then
          [(mark + firstFull, mark + lastFull) :: List.replicate (more + 1) (0x80, 0xBF)]
        else []) ++
        (if toEnd then [] else under last 0 (high % unit))

/-- The characters of one encoded length: the first and the last one, the number of bytes behind the
first, and the mark of the first. Surrogates, which have no encoding, divide the third length. -/
private def lengths : List (Nat × Nat × Nat × Nat) := [
  (0, 0x7F, 0, 0), (0x80, 0x7FF, 1, 0xC0), (0x800, 0xD7FF, 2, 0xE0), (0xE000, 0xFFFF, 2, 0xE0),
  (0x10000, 0x10FFFF, 3, 0xF0)]

/-- The encodings of the characters of a set, in order. -/
def byteSequences (rs : Ranges) : List (List ByteRange) :=
  rs.flatMap fun r =>
    lengths.flatMap fun (first, last, more, mark) =>
      let low := max r.1 first
      let high := min r.2 last
      if low ≤ high then digitSequences more mark low high else []

end SeriesQuery.Pattern.Automaton
