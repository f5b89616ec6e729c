import SeriesQuery.Pattern.Basic
import SeriesQuery.Predicate
import SeriesQuery.Tags

/-! # Tag comparisons

One condition on one tag: the value of a key compared with a text. Order is that of the code points.
A `~` comparison takes a pattern instead of a text and asks whether it matches the whole value; as a
dot divides the parts of a query, patterns write the dot as `^`.
-/

namespace SeriesQuery

/-- How a tag value is compared. -/
inductive Operator where
  | eq
  | ge
  | gt
  | le
  | lt
  | like
deriving DecidableEq, Repr

namespace Operator

def symbol : Operator → String
  | eq => "="
  | ge => ">="
  | gt => ">"
  | le => "<="
  | lt => "<"
  | like => "~"

def ofSymbol? : String → Option Operator
  | "=" => some eq
  | ">=" => some ge
  | ">" => some gt
  | "<=" => some le
  | "<" => some lt
  | "~" => some like
  | _ => none

def name : Operator → String
  | eq => "eq"
  | ge => "ge"
  | gt => "gt"
  | le => "le"
  | lt => "lt"
  | like => "like"

end Operator

/-- Why a text is no tag comparison. -/
inductive TokenFault where
  /-- It is not a key, an operator and a value. -/
  | shape
  | pattern (cause : Pattern.Fault)
deriving DecidableEq, Repr

def TokenFault.message : TokenFault → String
  | shape => "expected key followed by one of = <= >= < > ~ and a value"
  | pattern cause => "invalid pattern: " ++ cause.message

/-- A refused comparison, as written. -/
structure FilterError where
  token : String
  fault : TokenFault
deriving DecidableEq, Repr

def FilterError.message (e : FilterError) : String :=
  "Malformed filter token '" ++ e.token ++ "': " ++ e.fault.message

/-- A condition on the value of one tag key. -/
structure Comparison where
  key : String
  op : Operator
  /-- The text compared with or, under `like`, the pattern with its dots. -/
  value : String
  /-- What a `like` comparison matches with. -/
  pattern : Option Pattern

namespace Comparison

/-- A pattern as written in a query with its dots put back. -/
def restoreDots (pattern : String) : String :=
  String.ofList (pattern.toList.map fun c => if c = '^' then '.' else c)

/-- The pattern of the whole texts that a pattern describes. -/
def wholeText (pattern : String) : String := "^(?:" ++ pattern ++ ")$"

/-- A comparison; the pattern of a `like` comparison is read here. -/
def make (key : String) (op : Operator) (value : String) : Except FilterError Comparison :=
  if op = .like then
    let value := restoreDots value
    match Pattern.compile (wholeText value) with
    | .ok p => .ok ⟨key, op, value, some p⟩
    | .error cause => .error ⟨key ++ op.symbol ++ value, .pattern cause⟩
  else .ok ⟨key, op, value, none⟩

def admits (c : Comparison) (actual : String) : Bool :=
  match c.op with
  | .eq => decide (actual = c.value)
  | .ge => decide (c.value ≤ actual)
  | .gt => decide (c.value < actual)
  | .le => decide (actual ≤ c.value)
  | .lt => decide (actual < c.value)
  | .like => c.pattern.any fun p => p.occursIn actual

/-- Whether tags meet the condition. Tags without the key never do. -/
def matchesTags (c : Comparison) (tags : Tags) : Bool := (tags.find? c.key).any c.admits

def text (c : Comparison) : String := c.key ++ c.op.symbol ++ c.value

/-- Comparisons are equal when they are written alike. -/
def same (a b : Comparison) : Bool := a.key == b.key && a.op == b.op && a.value == b.value

end Comparison

/-- A combination of tag comparisons. -/
abbrev TagPredicate := Predicate Comparison

end SeriesQuery
