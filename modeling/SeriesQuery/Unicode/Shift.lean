/-! # One-for-one character mappings

A mapping between characters is a list of shifts: every second or every single code point of a
range moves by the same distance. Characters outside all ranges stay.
-/

namespace SeriesQuery.Unicode

/-- The code points `first`, `first + stride`, … up to `last` move by `distance`. -/
structure Shift where
  first : Nat
  last : Nat
  stride : Nat
  distance : Int

def Shift.covers (s : Shift) (code : Nat) : Bool :=
  decide (s.first ≤ code ∧ code ≤ s.last ∧ (code - s.first) % s.stride = 0)

/-- The image of a character under the first shift that covers it. -/
def shiftChar (shifts : List Shift) (c : Char) : Char :=
  match shifts.find? (·.covers c.toNat) with
  | some s => Char.ofNat (c.toNat + s.distance).toNat
  | none => c

/-- The code points that a shift moves, each with its image. -/
def Shift.pairs (s : Shift) : List (Nat × Nat) :=
  (List.range ((s.last - s.first) / s.stride + 1)).map fun i =>
    let code := s.first + s.stride * i
    (code, (code + s.distance).toNat)

end SeriesQuery.Unicode
