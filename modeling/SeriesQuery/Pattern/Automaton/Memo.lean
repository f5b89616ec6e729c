import Std.Data.HashMap

/-! # A memory of a fixed number of slots

What has been built is remembered by its description, so that it is not built twice. A description
has one slot, which its hash tells; a newer one takes the slot of an older one, which is forgotten.
-/

namespace SeriesQuery.Pattern.Automaton

/-- The 64-bit hash of Fowler, Noll and Vo over the numbers of a description. -/
def hashOf (key : List Nat) : UInt64 :=
  key.foldl (fun h n => (h ^^^ n.toUInt64) * 0x100000001B3) 0xCBF29CE484222325

/-- What each slot in use holds: a description and the number of what has been built. -/
structure Memo where
  slots : Nat
  entries : Std.HashMap Nat (List Nat × Nat)

namespace Memo

def ofSlots (slots : Nat) : Memo := ⟨slots, ∅⟩

def slotOf (m : Memo) (key : List Nat) : Nat := (hashOf key).toNat % m.slots

/-- What has been built by a description, if its slot still holds it. -/
def find? (m : Memo) (key : List Nat) : Option Nat :=
  match m.entries[m.slotOf key]? with
  | some (held, id) => if held = key then some id else none
  | none => none

def insert (m : Memo) (key : List Nat) (id : Nat) : Memo :=
  { m with entries := m.entries.insert (m.slotOf key) (key, id) }

end Memo
end SeriesQuery.Pattern.Automaton
