import SeriesQuery.Pattern.Node

/-! # Forms

The form of a pattern is what its automaton is built from. Sequences and choices have become lists
without sequences and choices directly inside them, neighbouring characters have become words, a
choice between single characters or between classes is one class, and what all branches of a choice
begin with stands in front of it.
-/

namespace SeriesQuery.Pattern

open Unicode

/-- The form of a pattern. -/
inductive Form where
  | empty
  | word (text : List Char)
  | set (c : CharClass)
  | look (l : Look)
  | many (body : Form) (least : Nat) (most : Option Nat) (isLazy : Bool)
  | capture (body : Form)
  | sequence (items : List Form)
  | choice (branches : List Form)

namespace Form

mutual
/-- Whether every match is empty. -/
def isWidthless : Form → Bool
  | empty | look _ => true
  | word _ | set _ => false
  | many body _ most _ => body.isWidthless && most.isSome
  | capture body => body.isWidthless
  | sequence items => allWidthless items
  | choice branches => allWidthless branches

def allWidthless : List Form → Bool
  | [] => true
  | f :: rest => f.isWidthless && allWidthless rest
end

mutual
/-- The least length of a match; `none` where a class without members leaves no match. -/
def leastLength : Form → Option Nat
  | empty | look _ => some 0
  | word text => some text.length
  | set c => if c.isEmpty then none else some 1
  | many body least _ _ => body.leastLength.map (least * ·)
  | capture body => body.leastLength
  | sequence items => leastOfAll items
  | choice branches => leastOfAny branches

def leastOfAll : List Form → Option Nat
  | [] => some 0
  | f :: rest => do some ((← f.leastLength) + (← leastOfAll rest))

def leastOfAny : List Form → Option Nat
  | [] => none
  | [f] => f.leastLength
  | f :: rest => do some (min (← f.leastLength) (← leastOfAny rest))
end

mutual
/-- Whether a match can only begin where a condition holds. -/
def beginsWith (l : Look) : Form → Bool
  | empty | word _ | set _ => false
  | look k => k == l
  | many body least _ _ => decide (0 < least) && body.beginsWith l
  | capture body => body.beginsWith l
  | sequence items => firstBeginsWith l items
  | choice branches => allBeginWith l branches

def firstBeginsWith (l : Look) : List Form → Bool
  | [] => false
  | f :: rest => f.beginsWith l || (f.isWidthless && firstBeginsWith l rest)

def allBeginWith (l : Look) : List Form → Bool
  | [] => true
  | f :: rest => f.beginsWith l && allBeginWith l rest
end

mutual
/-- Whether a match can only end where a condition holds. -/
def endsWith (l : Look) : Form → Bool
  | empty | word _ | set _ => false
  | look k => k == l
  | many body least _ _ => decide (0 < least) && body.endsWith l
  | capture body => body.endsWith l
  | sequence items => lastEndsWith l items
  | choice branches => allEndWith l branches

def lastEndsWith (l : Look) : List Form → Bool
  | [] => false
  | f :: rest => lastEndsWith l rest || (allWidthless rest && f.endsWith l)

def allEndWith (l : Look) : List Form → Bool
  | [] => true
  | f :: rest => f.endsWith l && allEndWith l rest
end

mutual
def same : Form → Form → Bool
  | empty, empty => true
  | word s, word t => s == t
  | set c, set d => c == d
  | look k, look l => k == l
  | many f n m a, many g k l b => n == k && m == l && a == b && f.same g
  | sequence fs, sequence gs => allSame fs gs
  | choice fs, choice gs => allSame fs gs
  | _, _ => false

def allSame : List Form → List Form → Bool
  | [], [] => true
  | f :: fs, g :: gs => f.same g && allSame fs gs
  | _, _ => false
end

/-- A class; one with a single member is a word. -/
def ofClass (c : CharClass) : Form :=
  match c with
  | [(first, last)] => if first = last then word [Char.ofNat first] else set c
  | _ => set c

/-- A repetition. What is always empty is repeated at most once. -/
def repeated (body : Form) (least : Nat) (most : Option Nat) (isLazy : Bool) : Form :=
  let least := if body.isWidthless then min least 1 else least
  let most := if body.isWidthless then some (min (most.getD 1) 1) else most
  if least = 0 ∧ most = some 0 then empty
  else if least = 1 ∧ most = some 1 then body
  else many body least most isLazy

def items : Form → List Form
  | empty => []
  | sequence fs => fs
  | f => [f]

def ofItems : List Form → Form
  | [] => empty
  | [f] => f
  | fs => sequence fs

/-- Puts items in front of others; two words that meet become one. -/
private def joinItems : List Form → List Form → List Form
  | [], gs => gs
  | [word s], word t :: gs => word (s ++ t) :: gs
  | f :: fs, gs => f :: joinItems fs gs

def append (f g : Form) : Form := ofItems (joinItems f.items g.items)

def branches : Form → List Form
  | choice fs => fs
  | f => [f]

private def asLetter? : Form → Option (Nat × Nat)
  | word [c] => some (c.toNat, c.toNat)
  | _ => none

private def asClass? : Form → Option CharClass
  | set c => some c
  | _ => none

/-- A choice without what its branches begin with in common put in front. -/
private def ofAlternatives (fs : List Form) : Form :=
  match fs.flatMap branches with
  | [] => set CharClass.nothing
  | [f] => f
  | flat =>
    match flat.mapM asLetter?, flat.mapM asClass? with
    | some letters, _ => ofClass (Ranges.normalize letters)
    | none, some classes => ofClass (Ranges.normalize classes.flatten)
    | none, none => choice flat

private def asSequence? : Form → Option (List Form)
  | sequence fs => some fs
  | _ => none

private def commonStart : List Form → List Form → List Form
  | f :: fs, g :: gs => if f.same g then f :: commonStart fs gs else []
  | _, _ => []

/-- A choice. Where all branches are sequences that begin alike, their common start comes first. -/
def ofBranches (fs : List Form) : Form :=
  match ofAlternatives fs with
  | choice flat =>
    match flat.mapM asSequence? with
    | some (first :: rest) =>
      match rest.foldl commonStart first with
      | [] => choice flat
      | start =>
        (ofItems start).append
          (ofAlternatives ((first :: rest).map fun items => ofItems (items.drop start.length)))
    | _ => choice flat
  | f => f

mutual
def ofNode : Node → Form
  | .empty => empty
  | .set c => ofClass c
  | .look l => look l
  | .seq a b => (ofNode a).append (ofNode b)
  | .alt a b => ofBranches (ofNode a :: branchesOf b)
  | .many body least most isLazy => repeated (ofNode body) least most isLazy
  | .group capturing body => if capturing then capture (ofNode body) else ofNode body

def branchesOf : Node → List Form
  | .alt a b => ofNode a :: branchesOf b
  | n => [ofNode n]
end

end Form
end SeriesQuery.Pattern
