import SeriesQuery.Stage.Basic

/-! # Stage chains

The stages of a query in order, each as its kind with its arguments, so that every series gets fresh
ones. A chain can run point by point when all its stages can.
-/

namespace SeriesQuery

/-- How a chain runs: point by point, or stage by stage over the whole buffer. -/
inductive ExecutionMode where
  | streaming
  | materialized
deriving DecidableEq, Repr

def ExecutionMode.name : ExecutionMode → String
  | streaming => "streaming"
  | materialized => "materialized"

/-- A kind of stage with its arguments. -/
structure StageTemplate where
  kind : StageKind
  args : List Argument
deriving DecidableEq, Repr

namespace StageTemplate

def fresh (t : StageTemplate) : Except StageError Stage := t.kind.fresh t.args

def make (name : String) (args : List Argument) : Except StageError StageTemplate :=
  match StageKind.ofName? name with
  | none => .error (.unknown name)
  | some kind =>
    match kind.fresh args with
    | .ok _ => .ok ⟨kind, args⟩
    | .error e => .error e

end StageTemplate

/-- The stages of a query. -/
structure StageChain where
  templates : List StageTemplate
deriving DecidableEq, Repr

namespace StageChain

/-- Point by point, if every stage can. -/
def mode (c : StageChain) : ExecutionMode :=
  if c.templates.all fun t => t.kind.isStreaming then .streaming else .materialized

/-- Fresh stages in order; the first refusal counts. -/
def freshStages : List StageTemplate → Except StageError (List Stage)
  | [] => .ok []
  | t :: rest =>
    match t.fresh with
    | .error e => .error e
    | .ok s =>
      match freshStages rest with
      | .error e => .error e
      | .ok ss => .ok (s :: ss)

end StageChain
end SeriesQuery
