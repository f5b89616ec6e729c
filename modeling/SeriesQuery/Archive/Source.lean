import SeriesQuery.Device

/-! # Sources of bytes

Bytes that arrive in portions. A plan says what each of the next calls does: deliver at most so many
bytes, be interrupted, or fail. Behind the plan every call delivers all that it is asked for.
-/

namespace SeriesQuery

/-- What one call does. -/
inductive Delivery where
  | upTo (count : Nat)
  | interrupted
  | failed
deriving DecidableEq, Repr

/-- The bytes still to come and how the next calls deliver them. -/
structure Source where
  bytes : List UInt8
  plan : List Delivery
deriving DecidableEq, Repr

namespace Source

def ofBytes (bytes : List UInt8) : Source := ⟨bytes, []⟩

/-- The bytes that calls deliver when `want` bytes are missing, the source after them, and whether a
call failed. Each call asks for all bytes that are missing; one that delivers nothing is the last, and
an interrupted one is made again. -/
def fill (want : Nat) (bytes : List UInt8) : List Delivery → List UInt8 × Source × Bool
  | [] => (bytes.take want, ⟨bytes.drop want, []⟩, false)
  | call :: plan =>
    if want = 0 then ([], ⟨bytes, call :: plan⟩, false)
    else
      match call with
      | .interrupted => fill want bytes plan
      | .failed => ([], ⟨bytes, plan⟩, true)
      | .upTo count =>
        let got := bytes.take (min count want)
        if got.isEmpty then ([], ⟨bytes, plan⟩, false)
        else
          let (more, rest, failed) := fill (want - got.length) (bytes.drop got.length) plan
          (got ++ more, rest, failed)

/-- Reads until `want` bytes have arrived or no more come. -/
def read (s : Source) (want : Nat) : Except DeviceFault (List UInt8) × Source :=
  match fill want s.bytes s.plan with
  | (got, rest, false) => (.ok got, rest)
  | (_, rest, true) => (.error .readerFailed, rest)

theorem read_ofBytes (bytes : List UInt8) (want : Nat) :
    (ofBytes bytes).read want = (.ok (bytes.take want), ofBytes (bytes.drop want)) := rfl

end Source
end SeriesQuery
