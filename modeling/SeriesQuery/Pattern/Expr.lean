import SeriesQuery.Pattern.CharClass

/-! # Written patterns

A pattern as it is written: flags are still where they stand, and classes still name properties.
Nothing here has a meaning yet; `Node` gives it one.
-/

namespace SeriesQuery.Pattern

/-- The flags that a group can set. -/
inductive Flag where
  | ignoreCase
  | multiLine
  | dotAll
  | swapGreed
  | unicode
  | crlf
  | ignoreBlanks
deriving DecidableEq, Repr

/-- Flags in the order written, each switched on or off. -/
abbrev FlagChange := List (Flag × Bool)

/-- The escapes for digits, blanks and word characters. -/
inductive Shorthand where
  | digit
  | space
  | word
deriving DecidableEq, Repr

/-- What `\p` asks for: a name alone, or a property with a value. -/
inductive PropertyQuery where
  | name (name : List Char)
  | value (name value : List Char)

/-- The operators between the operands of a class. -/
inductive ClassOp where
  | intersection
  | difference
  | symmetricDifference
deriving DecidableEq, Repr

/-- Which side of a word's edge a boundary asks about. -/
inductive Edge where
  | either
  | neither
  | start
  | stop
  | startHalf
  | stopHalf
deriving DecidableEq, Repr

/-- The places that an assertion can name. -/
inductive Place where
  | lineStart
  | lineEnd
  | textStart
  | textEnd
  | word (edge : Edge)
deriving DecidableEq, Repr

/-- The inside of a bracketed class. -/
inductive ClassExpr where
  | nothing
  | char (c : Char)
  | range (first last : Char)
  | posix (c : CharClass) (negated : Bool)
  | shorthand (s : Shorthand) (negated : Bool)
  | property (q : PropertyQuery) (negated : Bool)
  | bracket (negated : Bool) (body : ClassExpr)
  | union (items : List ClassExpr)
  | combine (op : ClassOp) (left right : ClassExpr)

/-- A written pattern. -/
inductive Expr where
  | nothing
  | char (c : Char)
  /-- A character written by the number of its byte. -/
  | byte (c : Char)
  | dot
  | place (p : Place)
  | shorthand (s : Shorthand) (negated : Bool)
  | property (q : PropertyQuery) (negated : Bool)
  | bracket (negated : Bool) (body : ClassExpr)
  | flags (change : FlagChange)
  /-- A repetition; a lazy one has a question mark behind it. -/
  | repeated (body : Expr) (least : Nat) (most : Option Nat) (isLazy : Bool)
  | group (capturing : Bool) (change : FlagChange) (body : Expr)
  | sequence (items : List Expr)
  | choice (branches : List Expr)

mutual
/-- How deeply brackets, unions and operators nest. -/
def ClassExpr.depth : ClassExpr → Nat
  | nothing | char _ | range _ _ | posix _ _ | shorthand _ _ | property _ _ => 0
  | bracket _ body => body.depth + 1
  | union items => ClassExpr.depths items + 1
  | combine _ left right => max left.depth right.depth + 1

def ClassExpr.depths : List ClassExpr → Nat
  | [] => 0
  | item :: rest => max item.depth (ClassExpr.depths rest)
end

mutual
/-- How deeply groups, repetitions, sequences, choices and classes nest. -/
def Expr.depth : Expr → Nat
  | nothing | char _ | byte _ | dot | place _ | shorthand _ _ | property _ _ | flags _ => 0
  | bracket _ body => body.depth + 1
  | repeated body _ _ _ => body.depth + 1
  | group _ _ body => body.depth + 1
  | sequence items => Expr.depths items + 1
  | choice branches => Expr.depths branches + 1

def Expr.depths : List Expr → Nat
  | [] => 0
  | item :: rest => max item.depth (Expr.depths rest)
end

/-- Expressions one after the other; a single one stands for itself. -/
def Expr.ofSequence : List Expr → Expr
  | [] => nothing
  | [e] => e
  | es => sequence es

/-- Expressions side by side; a single one stands for itself. -/
def Expr.ofChoice : List Expr → Expr
  | [e] => e
  | es => choice es

/-- The items of a class; a single one stands for itself. -/
def ClassExpr.ofUnion : List ClassExpr → ClassExpr
  | [] => nothing
  | [e] => e
  | es => union es

end SeriesQuery.Pattern
