import SeriesQuery.Query.Error
import SeriesQuery.Target
import SeriesQuery.Text.Pieces

/-! # Compiling queries

A query is written `lookback<measurement.field.filter=>stage,argument=>stage`. All but measurement and
field may be missing. Only the first two dots divide, so a filter may hold dots; a `<` counts as the
lookback marker only before the first dot. Empty stages and arguments at the end make no difference.
-/

namespace SeriesQuery.Query

open Text

/-- The lookback text with its marker, if there is one, and the rest of the query. -/
def cutLookback (query : List Char) : Option (List Char) × List Char :=
  match cutAt '<' query with
  | (before, some rest) =>
    if before.contains '.' then (none, query)
    else
      match rest with
      | '=' :: rest => (some (before ++ ['<', '=']), rest)
      | rest => (some (before ++ ['<']), rest)
  | (_, none) => (none, query)

/-- Measurement, field and filter of a selection. -/
def cutSelection (selection : List Char) :
    List Char × Option (List Char) × Option (List Char) :=
  match cutAt '.' selection with
  | (measurement, none) => (measurement, none, none)
  | (measurement, some rest) =>
    let (field, filter) := cutAt '.' rest
    (measurement, some field, filter)

/-- Compiles one stage: its name and arguments between commas. -/
def compileStage (segment : List Char) : Except StageError StageTemplate :=
  let (name, args) := firstAndRest (pieces ',' segment)
  StageTemplate.make (String.ofList name) (args.map fun a => Argument.ofText (String.ofList a))

/-- Compiles stages in order; the first refusal counts. -/
def compileStages : List (List Char) → Except StageError (List StageTemplate)
  | [] => .ok []
  | segment :: rest => do
    let t ← compileStage segment
    let ts ← compileStages rest
    .ok (t :: ts)

def addFilter (target : Target) (expression : Option (List Char)) : Except QueryError Target :=
  match expression with
  | none => .ok target
  | some e =>
    let text := String.ofList e
    match Filter.parse text with
    | .error cause => .error (.filter text cause)
    | .ok tree =>
      .ok { target with filter := tree.map .comparisons, filterElements := Filter.tokens text }

def compileSelection (selection : List Char) : Except QueryError Target :=
  let text := String.ofList selection
  match cutSelection selection with
  | (_, none, _) => .error (.noField text)
  | (measurement, some field, filter) =>
    if measurement.isEmpty then .error (.noMeasurement text)
    else if field.isEmpty then .error (.noField text)
    else addFilter (.ofField (String.ofList measurement) (String.ofList field)) filter

def compile (query : String) : Except QueryError Target :=
  if query.isEmpty then .error .empty
  else
    let (lookback, rest) := cutLookback query.toList
    let (selection, segments) := firstAndRest (arrowPieces rest)
    match compileSelection selection with
    | .error e => .error e
    | .ok target =>
      match compileStages segments with
      | .error e => .error (.stage e)
      | .ok templates =>
        .ok { target with
          lookback := lookback.map String.ofList
          stages := if templates.isEmpty then none else some ⟨templates⟩ }

end SeriesQuery.Query
