import SeriesQuery.Filter.Comparison

/-! # Filter expressions

A filter expression is a row of comparisons with `&` and `|` between them, without parentheses and
without precedence: each comparison is joined to all before it. Printing a tree of that shape and
reading it again gives the tree back.
-/

namespace SeriesQuery.Filter

/-- How a comparison is joined to what stands before it. -/
inductive Joint where
  | both
  | either
deriving DecidableEq, Repr

def Joint.ofSeparator? (c : Char) : Option Joint :=
  if c = '&' then some both else if c = '|' then some either else none

def Joint.separator : Joint → Char
  | both => '&'
  | either => '|'

/-- The first comparison of an expression as written, and the others with the joints before them. -/
def cut : List Char → List Char × List (Joint × List Char)
  | [] => ([], [])
  | c :: rest =>
    let (token, others) := cut rest
    match Joint.ofSeparator? c with
    | some joint => ([], (joint, token) :: others)
    | none => (c :: token, others)

def tokens (expression : String) : List String :=
  if expression.isEmpty then []
  else
    let (first, others) := cut expression.toList
    String.ofList first :: others.map fun o => String.ofList o.2

def isKeyChar (c : Char) : Bool := c.isAlphanum || c == '-' || c == '_' || c == '.'

/-- The operator at the start of a text, and what follows it. -/
def operator? : List Char → Option (Operator × List Char)
  | '=' :: rest => some (.eq, rest)
  | '<' :: '=' :: rest => some (.le, rest)
  | '>' :: '=' :: rest => some (.ge, rest)
  | '<' :: rest => some (.lt, rest)
  | '>' :: rest => some (.gt, rest)
  | '~' :: rest => some (.like, rest)
  | _ => none

/-- Key, operator and value of a comparison as written: a key, an operator and a value on one line. -/
def parts? (token : List Char) : Option (List Char × Operator × List Char) :=
  let key := token.takeWhile isKeyChar
  match operator? (token.dropWhile isKeyChar) with
  | some (op, value) => if key.isEmpty || value.contains '\n' then none else some (key, op, value)
  | none => none

def parseToken (token : List Char) : Except FilterError Comparison :=
  match parts? token with
  | some (key, op, value) => Comparison.make (String.ofList key) op (String.ofList value)
  | none => .error ⟨String.ofList token, .shape⟩

def join (left : TagPredicate) (joint : Joint) (right : TagPredicate) : TagPredicate :=
  match joint with
  | .both => .both left right
  | .either => .either left right

/-- Joins comparisons to a tree from left to right. -/
def parseRest (tree : TagPredicate) : List (Joint × List Char) → Except FilterError TagPredicate
  | [] => .ok tree
  | (joint, token) :: rest => do
    let c ← parseToken token
    parseRest (join tree joint (.leaf c)) rest

/-- Reads an expression; an empty one has no tree. -/
def parse (expression : String) : Except FilterError (Option TagPredicate) :=
  if expression.isEmpty then .ok none
  else do
    let (first, others) := cut expression.toList
    let c ← parseToken first
    let tree ← parseRest (.leaf c) others
    .ok (some tree)

/-- The expression of a tree. Only trees that grow to the left, with two children under each
combinator, have one. -/
def print? : TagPredicate → Option String
  | .leaf c => some c.text
  | .all [left, .leaf c] => (print? left).map fun s => s ++ "&" ++ c.text
  | .any [left, .leaf c] => (print? left).map fun s => s ++ "|" ++ c.text
  | _ => none

end SeriesQuery.Filter
