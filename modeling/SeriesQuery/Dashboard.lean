import SeriesQuery.Json.Reader
import SeriesQuery.Target

/-! # Dashboard requests

A dashboard sends its targets as JSON: for each a measurement, a field, a filter list and whether
related series are wanted. An element of a filter list is a combinator when it has a type, whatever
the type says.
-/

namespace SeriesQuery

/-- A target as a dashboard sends it. -/
structure DashboardTarget where
  measurement : String
  field : String
  filters : List Filter.Element
  correlate : Bool
deriving DecidableEq, Repr

/-- Why a request is refused. -/
inductive RequestError where
  | json
  | list (cause : Filter.ListError)
deriving DecidableEq, Repr

def RequestError.message : RequestError → String
  | json => "Invalid request JSON: not a list of targets"
  | list cause => cause.message

namespace Dashboard

open Json

/-- The number of lists and objects that may nest in a value that is kept. -/
def depthLimit : Nat := 127

/-- Reads an element, which stands within `outer` lists and objects. -/
def element? (outer : Nat) (t : Tree) : Option Filter.Element :=
  match t.fields? ["value", "type"] with
  | some [value, kind] =>
    match Tree.required? Tree.text? value, kind with
    | some value, none => some ⟨value, false⟩
    | some value, some kind =>
      if kind.isReadable && decide (kind.depth + outer + 1 ≤ depthLimit) then some ⟨value, true⟩ else none
    | none, _ => none
  | _ => none

/-- Reads a filter list, which stands within `outer` lists and objects. -/
def elements? (outer : Nat) (t : Tree) : Option (List Filter.Element) :=
  t.listOf? (element? (outer + 1))

def target? (t : Tree) : Option DashboardTarget :=
  match t.fields? ["target", "field", "filters", "correlate"] with
  | some [target, field, filters, correlate] => do
    let measurement ← Tree.required? Tree.text? target
    let field ← Tree.required? Tree.text? field
    let filters ← Tree.optional? (elements? 3) [] filters
    let correlate ← Tree.optional? Tree.bool? false correlate
    some ⟨measurement, field, filters, correlate⟩
  | _ => none

def request? (body : String) : Option (List DashboardTarget) := do
  let t ← Tree.ofText? body
  match t.fields? ["targets"] with
  | some [targets] => Tree.required? (Tree.listOf? target?) targets
  | _ => none

end Dashboard

def DashboardTarget.compile (t : DashboardTarget) : Except Filter.ListError Target :=
  match Filter.ofElements t.filters with
  | .error e => .error e
  | .ok tree =>
    .ok { Target.ofField t.measurement t.field with
      filter := tree.map .tagTexts
      filterElements := Filter.listValues t.filters
      correlate := t.correlate }

namespace Dashboard

/-- Compiles targets in order; the first refusal counts. -/
def compileAll : List DashboardTarget → Except Filter.ListError (List Target)
  | [] => .ok []
  | t :: rest => do
    let first ← t.compile
    let others ← compileAll rest
    .ok (first :: others)

def compile (body : String) : Except RequestError (List Target) :=
  match request? body with
  | none => .error .json
  | some targets =>
    match compileAll targets with
    | .ok ts => .ok ts
    | .error e => .error (.list e)

end Dashboard
end SeriesQuery
