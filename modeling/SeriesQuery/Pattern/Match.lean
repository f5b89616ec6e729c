import SeriesQuery.Pattern.Node

/-! # Matching

A text of `n` characters has the places `0` to `n`. A set of places is a natural number whose bits
are its members, so a pattern, specialised to a text, becomes a map between numbers: from the places
where a match may begin to those where it may end. A class moves the places before its characters by
one, a condition keeps those that meet it, and a repetition grows a set until it is closed.
-/

namespace SeriesQuery.Pattern

def isWordChar (ascii : Bool) (c : Char) : Bool :=
  if ascii then CharClass.asciiWord.contains c else CharClass.word.contains c

def Look.holds (before after : Option Char) : Look → Bool
  | textStart => before.isNone
  | textEnd => after.isNone
  | lineStart => before.isNone || before == some '\n'
  | lineEnd => after.isNone || after == some '\n'
  | lineStartCrlf => before.isNone || before == some '\n' || (before == some '\r' && after != some '\n')
  | lineEndCrlf => after.isNone || after == some '\r' || (after == some '\n' && before != some '\r')
  | word edge ascii =>
    let left := before.any (isWordChar ascii)
    let right := after.any (isWordChar ascii)
    match edge with
    | .either => left != right
    | .neither => left == right
    | .start => !left && right
    | .stop => left && !right
    | .startHalf => !left
    | .stopHalf => !right

/-- The set of the places from `place` on that meet a test of the characters around them. -/
def placesWhere (test : Option Char → Option Char → Bool) (place : Nat) (before : Option Char) :
    List Char → Nat
  | [] => if test before none then 1 <<< place else 0
  | c :: rest =>
    (if test before (some c) then 1 <<< place else 0) ||| placesWhere test (place + 1) (some c) rest

/-- A pattern specialised to a text: classes and conditions have become sets of places. -/
inductive Moves where
  | keep (places : Nat)
  | advance (places : Nat)
  | seq (first second : Moves)
  | alt (first second : Moves)
  | many (body : Moves) (least : Nat) (more : Nat)

/-- A pattern specialised to a text. In a text of `n` characters a set of places can grow at most
`n + 1` times, which bounds the repetitions without a bound. -/
def Node.on (text : List Char) : Node → Moves
  | .empty => .keep ((1 <<< (text.length + 1)) - 1)
  | .set c => .advance (placesWhere (fun _ after => after.any c.contains) 0 none text)
  | .look l => .keep (placesWhere (fun before after => l.holds before after) 0 none text)
  | .seq a b => .seq (a.on text) (b.on text)
  | .alt a b => .alt (a.on text) (b.on text)
  | .group _ body => body.on text
  | .many body least most _ =>
    .many (body.on text) least (match most with
      | some n => n - least
      | none => text.length + 1)

/-- Applies a map a number of times, or until nothing changes. -/
def iterate (f : Nat → Nat) : Nat → Nat → Nat
  | 0, s => s
  | n + 1, s =>
    let next := f s
    if next = s then s else iterate f n next

/-- Where a match may end that begins in a set of places. -/
def Moves.run : Moves → Nat → Nat
  | keep places, s => s &&& places
  | advance places, s => (s &&& places) <<< 1
  | seq a b, s => b.run (a.run s)
  | alt a b, s => a.run s ||| b.run s
  | many body least more, s => iterate (fun s => s ||| body.run s) more (iterate body.run least s)

def Node.occursIn (n : Node) (text : List Char) : Bool :=
  (n.on text).run ((1 <<< (text.length + 1)) - 1) != 0

end SeriesQuery.Pattern
