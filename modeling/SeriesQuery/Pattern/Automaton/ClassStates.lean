import SeriesQuery.Pattern.Automaton.ByteSequence
import SeriesQuery.Pattern.Automaton.Memo
import SeriesQuery.Pattern.Automaton.Tally

/-! # The states of a class

An automaton reads bytes, so a class of characters becomes several states. Read forward, the byte
sequences of the class form a tree whose equal branches are shared from the leaves up; read backward,
each sequence is a chain, and chains share their beginnings at the shared end. What can be shared is
only what the memo has not forgotten.
-/

namespace SeriesQuery.Pattern.Automaton

open Unicode

/-- The direction in which an automaton reads a text. -/
inductive Direction where
  | forward
  | backward
deriving DecidableEq, Repr

/-- A node of the tree that is not finished: its finished arcs, latest first, each with the state that
it leads to, and the arc that is still open. -/
private structure OpenNode where
  arcs : List (ByteRange × Nat)
  current : Option ByteRange

private def OpenNode.starting (r : ByteRange) : OpenNode := ⟨[], some r⟩

private def OpenNode.close (n : OpenNode) (target : Nat) : OpenNode :=
  match n.current with
  | some r => ⟨(r, target) :: n.arcs, none⟩
  | none => n

private def OpenNode.key (n : OpenNode) : List Nat :=
  n.arcs.reverse.flatMap fun a => [a.1.1, a.1.2, a.2]

/-- The state of a finished node: one that is remembered, or a new one. -/
private def nodeState (n : OpenNode) (s : Memo × Tally) : Option (Nat × Memo × Tally) :=
  let (memo, t) := s
  let key := n.key
  match memo.find? key with
  | some id => some (id, memo, t)
  | none => (t.addArcs n.arcs.length).map fun more => (t.states, memo.insert key t.states, more)

/-- Finishes a branch, from its leaf to its first node; the leaf leads to `target`. -/
private def finishBranch (target : Nat) :
    List OpenNode → Memo × Tally → Option (Nat × Memo × Tally)
  | [], s => some (target, s)
  | n :: above, s => do
    let (next, s) ← finishBranch target above s
    nodeState (n.close next) s

/-- Follows the open branch as far as a byte sequence agrees with it, finishes the rest of the branch,
and opens the rest of the sequence in its place. -/
private def addSequence (target : Nat) :
    List OpenNode → List ByteRange → Memo × Tally → Option (List OpenNode × Memo × Tally)
  | nodes, [], s => some (nodes, s)
  | [], rs, s => some (rs.map OpenNode.starting, s)
  | n :: above, r :: rest, s =>
    if n.current = some r then do
      let (above, s) ← addSequence target above rest s
      some (n :: above, s)
    else do
      let (next, s) ← finishBranch target above s
      some ({ n.close next with current := some r } :: rest.map OpenNode.starting, s)

private def addSequences (target : Nat) :
    List (List ByteRange) → List OpenNode → Memo × Tally → Option (List OpenNode × Memo × Tally)
  | [], nodes, s => some (nodes, s)
  | rs :: rest, nodes, s =>
    match addSequence target nodes rs s with
    | some (nodes, s) => addSequences target rest nodes s
    | none => none

/-- The tree of a class: its common end first, its first node last. -/
private def addTree (sequences : List (List ByteRange)) (t : Tally) : Option Tally := do
  let target := t.states
  let t ← t.addState
  let (nodes, s) ← addSequences target sequences [⟨[], none⟩] (Memo.ofSlots 10000, t)
  let (_, _, t) ← finishBranch target nodes s
  some t

/-- The chain of a byte sequence, from the shared end to the state that it ends with. -/
private def addChain (from_ : Nat) :
    List ByteRange → Memo × Tally → Option (Memo × Tally)
  | [], s => some s
  | r :: rest, (memo, t) =>
    let key := [from_, r.1, r.2]
    match memo.find? key with
    | some id => addChain id rest (memo, t)
    | none =>
      match t.addState with
      | some more => addChain t.states rest (memo.insert key t.states, more)
      | none => none

private def addChains (target : Nat) :
    List (List ByteRange) → Memo × Tally → Option Tally
  | [], s => some s.2
  | rs :: rest, s =>
    match addChain target rs s with
    | some (memo, t) =>
      match t.addWays 1 with
      | some t => addChains target rest (memo, t)
      | none => none
    | none => none

/-- The chains of a class: a fork with a way to each, and their common end. -/
private def addFan (sequences : List (List ByteRange)) (t : Tally) : Option Tally := do
  let target := t.states + 1
  let t ← t.add 2 0
  addChains target sequences (Memo.ofSlots 1000, t)

/-- The states of a class. A class of ASCII characters has one state with an arc for each range, and
an end; so has one without members. -/
def addClass (d : Direction) (rs : Ranges) (t : Tally) : Option Tally :=
  if rs.all fun r => decide (r.2 < 0x80) then t.add 2 (8 * rs.length)
  else
    match d with
    | .forward => addTree (byteSequences rs) t
    | .backward => addFan (byteSequences rs) t

end SeriesQuery.Pattern.Automaton
