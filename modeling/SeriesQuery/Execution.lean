import SeriesQuery.Output
import SeriesQuery.Query.Compile
import SeriesQuery.Stage.Pipeline
import SeriesQuery.Store.Basic

/-! # Executing targets

The series of a target are looked up, each is put in the order of time and run through fresh stages,
and the results are put in the order of their keys. Several targets are executed one after the other,
and the first failure counts.
-/

namespace SeriesQuery

/-- Why an execution fails. -/
inductive ExecutionError where
  | notFound (database selector : String) (cause : StoreError)
  | store (cause : StoreError)
  | stage (cause : StageError)
deriving DecidableEq, Repr

namespace ExecutionError

def message : ExecutionError → String
  | notFound database selector cause =>
    "Series not found: " ++ database ++ ":" ++ selector ++ " (" ++ cause.message ++ ")"
  | store cause => "Storage error: " ++ cause.message
  | stage cause => cause.message

def causes : ExecutionError → List String
  | store cause => [cause.message]
  | notFound _ _ _ | stage _ => []

end ExecutionError

/-- What an execution yields. -/
structure QueryOutput where
  series : List OutputSeries
  /-- The number of points read from the store. -/
  scanned : Nat
deriving DecidableEq, Repr

namespace QueryOutput

def total : List Nat → Nat
  | [] => 0
  | n :: rest => n + total rest

end QueryOutput

namespace Target

/-- Points in the order of time; points of one time keep their order. -/
def sortPoints (points : List Point) : List Point :=
  points.mergeSort fun a b => decide (a.time ≤ b.time)

/-- Runs points through fresh stages of the target. -/
def process (t : Target) (force : Bool) (points : List Point) : Except StageError (List Point) :=
  match t.stages with
  | none => .ok points
  | some chain =>
    match Pipeline.build chain (if force then .materialized else chain.mode) with
    | .ok pipeline => .ok (pipeline.run points)
    | .error e => .error e

/-- Executes a target in a database. With `force` even a chain that could stream is materialized. -/
def execute (t : Target) (store : Store) (database : String) (range : TimeRange) (force : Bool) :
    Except ExecutionError QueryOutput :=
  let path : FieldPath := ⟨database, t.measurement, t.field⟩
  match store.lookup path range t.filterElements t.filter with
  | .error e => .error (if e.isNotFound then .notFound database t.selector e else .store e)
  | .ok found =>
    let sorted := found.mapValues fun _ points => sortPoints points
    match sorted.tryMapValues fun _ points => t.process force points with
    | .error e => .error (.stage e)
    | .ok processed =>
      .ok ⟨OutputSeries.assemble processed, QueryOutput.total (sorted.entries.map fun e => e.2.length)⟩

def executeEach (store : Store) (database : String) (range : TimeRange) (force : Bool) :
    List Target → Except ExecutionError (List QueryOutput)
  | [] => .ok []
  | t :: rest => do
    let output ← t.execute store database range force
    let others ← executeEach store database range force rest
    .ok (output :: others)

/-- Executes targets in order and puts their series together. -/
def executeAll (targets : List Target) (store : Store) (database : String) (range : TimeRange)
    (force : Bool) : Except ExecutionError QueryOutput :=
  match executeEach store database range force targets with
  | .error e => .error e
  | .ok outputs =>
    .ok ⟨OutputSeries.sortByTarget (outputs.flatMap QueryOutput.series),
      QueryOutput.total (outputs.map QueryOutput.scanned)⟩

end Target
end SeriesQuery
