import SeriesQuery.Pattern.Automaton.Tally

/-! # The tree of a choice of words

A choice between words becomes a tree that shares their beginnings. A node lists its letters, each
with the node below it, and the places where a word ends, latest first; a letter behind the end of a
word is not shared with the ones before it, so that an earlier word keeps its precedence.
-/

namespace SeriesQuery.Pattern.Automaton

/-- A node of the tree, as the list of what has been added to it. -/
inductive WordTree where
  | nothing
  | letter (byte : UInt8) (below : WordTree) (before : WordTree)
  | wordEnd (before : WordTree)

namespace WordTree

def hasLetters : WordTree → Bool
  | nothing => false
  | letter _ _ _ => true
  | wordEnd before => before.hasLetters

/-- The end of a word here. A leaf keeps just one. -/
def endWord : WordTree → WordTree
  | wordEnd before => if before.hasLetters then wordEnd (wordEnd before) else wordEnd before
  | t => wordEnd t

def ofWord : List UInt8 → WordTree
  | [] => wordEnd nothing
  | b :: rest => letter b (ofWord rest) nothing

/-- With one more word. Its first letter is looked for behind the latest end of a word. -/
def insert : WordTree → List UInt8 → WordTree
  | t, [] => t.endWord
  | letter b below before, c :: rest =>
    if b = c then letter b (below.insert rest) before
    else letter b below (before.insert (c :: rest))
  | nothing, c :: rest => letter c (ofWord rest) nothing
  | wordEnd before, c :: rest => letter c (ofWord rest) (wordEnd before)

/-- The states of a run of letters without an end of a word among them, and a way to them. -/
private def closeRun (letters : Nat) (t : Tally) : Tally :=
  if letters = 0 then t
  else ⟨t.states + 1, t.extra + 4 + (if letters = 1 then 0 else 8 * letters)⟩

/-- The states of a node and of those below it, but for its fork; `letters` have been counted in the
current run. Leaves have no states. -/
private def countFrom (letters : Nat) : WordTree → Tally → Tally
  | nothing, t => closeRun letters t
  | wordEnd before, t =>
    let t := closeRun letters t
    countFrom 0 before ⟨t.states, t.extra + 4⟩
  | letter _ below before, t =>
    let t := if below.hasLetters then countFrom 0 below ⟨t.states + 1, t.extra⟩ else t
    countFrom (letters + 1) before t

/-- The states of a whole tree: its nodes, each with a fork, and the common end of the words. -/
def tally (tree : WordTree) : Tally := countFrom 0 tree ⟨2, 0⟩

end WordTree
end SeriesQuery.Pattern.Automaton
