import SeriesQuery.Stage.Chain

/-! # Pipelines

The two ways to run a chain over the points of one series. A stream asks its source for a point only
when it is asked for one itself, and passes each point through all stages before it asks again. A
materialized pipeline hands the whole buffer from stage to stage.
-/

namespace SeriesQuery

/-- Passes one point through stages in order; a stage that yields nothing ends its way. -/
def feed : List StreamStage → Point → List StreamStage × Option Point
  | [], p => ([], some p)
  | s :: rest, p =>
    match s.step p with
    | (next, none) => (next :: rest, none)
    | (next, some out) =>
      let (after, last) := feed rest out
      (next :: after, last)

/-- A stream over a finite source. -/
structure Stream where
  source : List Point
  stages : List StreamStage
  /-- Whether the source has answered that it has no more points; then it is not asked again. -/
  exhausted : Bool
deriving DecidableEq, Repr

namespace Stream

def ofSource (source : List Point) (stages : List StreamStage) : Stream := ⟨source, stages, false⟩

/-- The stages after the source points up to and with the first that comes through, that point, and
the source points left. -/
def pull (stages : List StreamStage) : List Point → List StreamStage × Option Point × List Point
  | [] => (stages, none, [])
  | p :: rest =>
    match feed stages p with
    | (after, some out) => (after, some out, rest)
    | (after, none) => pull after rest

def next (s : Stream) : Option Point × Stream :=
  if s.exhausted then (none, s)
  else
    match pull s.stages s.source with
    | (after, some out, rest) => (some out, ⟨rest, after, false⟩)
    | (after, none, rest) => (none, ⟨rest, after, true⟩)

def points (stages : List StreamStage) : List Point → List Point
  | [] => []
  | p :: rest =>
    let (after, out) := feed stages p
    out.toList ++ points after rest

end Stream

/-- Hands a buffer from stage to stage. -/
def runBuffered : List Stage → List Point → List Point
  | [], points => points
  | s :: rest, points => runBuffered rest (s.run points).2

/-- Fresh stages with the way to run them. -/
inductive Pipeline where
  | streaming (stages : List StreamStage)
  | materialized (stages : List Stage)
deriving DecidableEq, Repr

namespace Pipeline

/-- A pipeline for a chain. One that cannot run point by point is materialized even when a streaming
one is asked for. -/
def build (chain : StageChain) (mode : ExecutionMode) : Except StageError Pipeline :=
  match StageChain.freshStages chain.templates with
  | .error e => .error e
  | .ok stages =>
    if mode = .streaming ∧ stages.all Stage.isStreaming then
      .ok (streaming (stages.filterMap Stage.streaming?))
    else .ok (materialized stages)

def mode : Pipeline → ExecutionMode
  | streaming _ => .streaming
  | materialized _ => .materialized

def run : Pipeline → List Point → List Point
  | streaming stages, points => Stream.points stages points
  | materialized stages, points => runBuffered stages points

end Pipeline
end SeriesQuery
