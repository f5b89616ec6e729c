import SeriesQuery.Pattern.Automaton.ClassStates
import SeriesQuery.Pattern.Automaton.WordTree
import SeriesQuery.Pattern.Form
import SeriesQuery.Text.Utf8

/-! # The automata of a pattern

A pattern has two automata, one that reads a text forward and one that reads it backward, and it is
refused if one of them takes more memory than an automaton may. Nothing but the memory is kept of
them. What is built for a form ends in a state that may be a fork; what follows a fork is one more way
out of it.
-/

namespace SeriesQuery.Pattern.Automaton

/-- What has been built, and whether it ends in a fork. -/
abbrev Built := Bool × Tally

/-- Leads from the end of what has been built to something else. -/
private def leave : Built → Option Tally
  | (atFork, t) => t.addWays (if atFork then 1 else 0)

/-- Builds something a further number of times, each time behind what has been built. -/
private def repeatAfter (build : Tally → Option Built) : Nat → Built → Option Built
  | 0, b => some b
  | n + 1, b =>
    match (leave b).bind build with
    | some b => repeatAfter build n b
    | none => none

/-- Builds something a number of times in sequence; no times is one plain state. -/
private def buildTimes (build : Tally → Option Built) (times : Nat) (t : Tally) : Option Built :=
  match times with
  | 0 => t.addState.map (false, ·)
  | n + 1 => (build t).bind (repeatAfter build n)

/-- Builds something a further number of times, each time behind a fork with a way past the rest. -/
private def buildOptional (build : Tally → Option Built) : Nat → Built → Option Tally
  | 0, b => leave b
  | n + 1, b =>
    match (leave b).bind fun t => (t.addState.bind build).bind fun (atFork, t) =>
        (t.addWays 2).map (atFork, ·) with
    | some b => buildOptional build n b
    | none => none

/-- Builds a repetition. Without a bound, the last time leads back by a fork; where it may be left out
and may be empty, another fork leads past it, so that an empty match does not go round. -/
private def buildMany (build : Tally → Option Built) (canBeEmpty : Bool) (least : Nat)
    (most : Option Nat) (t : Tally) : Option Built :=
  match most with
  | some m =>
    if least = 0 ∧ m = 1 then do
      let b ← build (← t.addState)
      let t ← (← leave b).addState
      some (false, ← t.addWays 2)
    else if least = m then buildTimes build least t
    else do
      let (atFork, t) ← buildTimes build least t
      some (false, ← buildOptional build (m - least) (atFork, ← t.addState))
  | none =>
    match least with
    | 0 =>
      if canBeEmpty then do
        let t ← leave (← build t)
        let t ← t.add 3 0
        some (false, ← t.addWays 4)
      else do
        let b ← build (← t.addState)
        some (true, ← (← leave b).addWays 1)
    | n + 1 => do
      let b ← if n = 0 then build t else build (← leave (← buildTimes build n t))
      let t ← (← leave b).addState
      some (true, ← t.addWays 1)

/-- The words of a choice, if it is one between words. -/
private def asWords? (branches : List Form) : Option (List (List UInt8)) :=
  branches.mapM fun
    | .word text => some (Utf8.encode (String.ofList text))
    | _ => none

mutual
def build (d : Direction) : Form → Tally → Option Built
  | .empty, t => t.addState.map (false, ·)
  | .word text, t => (t.add (Utf8.encode (String.ofList text)).length 0).map (false, ·)
  | .set c, t => (addClass d c t).map (false, ·)
  | .look _, t => t.addState.map (false, ·)
  | .many body least most _, t =>
    buildMany (build d body) (body.leastLength.all (· == 0)) least most t
  | .capture body, t =>
    match d with
    | .forward => do
      let b ← build d body (← t.addState)
      some (false, ← (← leave b).addState)
    | .backward => build d body t
  | .sequence items, t =>
    match d with
    | .forward => buildForward d items t
    | .backward => buildBackward d items t
  | .choice branches, t =>
    match asWords? branches with
    | some words =>
      let tree :=
        (words.map fun w => if d = .forward then w else w.reverse).foldl .insert WordTree.nothing
      (t.add tree.tally.states tree.tally.extra).map (false, ·)
    | none => buildChoice d branches t

def buildForward (d : Direction) : List Form → Tally → Option Built
  | [], t => t.addState.map (false, ·)
  | [f], t => build d f t
  | f :: rest, t => do buildForward d rest (← leave (← build d f t))

def buildBackward (d : Direction) : List Form → Tally → Option Built
  | [], t => t.addState.map (false, ·)
  | [f], t => build d f t
  | f :: rest, t => do build d f (← leave (← buildBackward d rest t))

/-- Builds the branches of a choice: the first two, then the fork and the common end, then the rest. -/
def buildChoice (d : Direction) : List Form → Tally → Option Built
  | [], t => t.addState.map (false, ·)
  | [f], t => build d f t
  | f :: g :: rest, t => do
    let (firstAtFork, t) ← build d f t
    let (secondAtFork, t) ← build d g t
    let t ← (← leave (secondAtFork, ← leave (firstAtFork, t))).add 2 0
    some (false, ← buildBranches d rest (← t.addWays 2))

/-- Builds further branches between the fork and the common end of a choice. -/
def buildBranches (d : Direction) : List Form → Tally → Option Tally
  | [], t => some t
  | f :: rest, t => do buildBranches d rest (← (← leave (← build d f t)).addWays 1)
end

/-- The memory of the automaton of a form. If matches may begin anywhere, a loop over all bytes comes
first; the forward automaton keeps the bounds of a match. -/
def tally? (d : Direction) (f : Form) : Option Tally := do
  let isAnchored := match d with
    | .forward => f.beginsWith .textStart
    | .backward => f.endsWith .textEnd
  let t ← if isAnchored then Tally.zero.addState else Tally.zero.add 3 16
  (← leave (← build d (.capture f) t)).addState

/-- Whether both automata of a form stay within their memory. -/
def fits (f : Form) : Bool := (tally? .forward f).isSome && (tally? .backward f).isSome

end SeriesQuery.Pattern.Automaton
