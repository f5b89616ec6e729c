/-! # The memory of an automaton

An automaton may take ten mebibytes. A state takes 32 bytes; in addition, one with several arcs takes
eight for each arc, and a fork takes four for each of its ways.
-/

namespace SeriesQuery.Pattern.Automaton

/-- What has been built: the number of states, and the bytes that they take for arcs and ways. -/
structure Tally where
  states : Nat
  extra : Nat
deriving DecidableEq, Repr

namespace Tally

def zero : Tally := ⟨0, 0⟩

def bytes (t : Tally) : Nat := 32 * t.states + t.extra

def limit : Nat := 10 * 1024 * 1024

/-- With more states and bytes, refused beyond the limit. -/
def add (t : Tally) (states extra : Nat) : Option Tally :=
  let sum : Tally := ⟨t.states + states, t.extra + extra⟩
  if sum.bytes ≤ limit then some sum else none

def addState (t : Tally) : Option Tally := t.add 1 0

def addArcs (t : Tally) (arcs : Nat) : Option Tally := t.add 1 (8 * arcs)

/-- With more ways out of forks that have been built. -/
def addWays (t : Tally) (ways : Nat) : Option Tally := t.add 0 (4 * ways)

end Tally
end SeriesQuery.Pattern.Automaton
