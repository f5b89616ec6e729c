import SeriesQuery.Json.Writer
import SeriesQuery.Target

/-! # Compiled queries as JSON

A target with all that it was compiled to. What is missing is left out; the arguments of a stage are
written without their kinds.
-/

namespace SeriesQuery

open Json

def Argument.toDoc : Argument → Doc
  | int n => .plain (toString n.toInt)
  | float d => .plain d.jsonText
  | text s => .text s

def Comparison.toDoc (c : Comparison) : Doc :=
  .object [("key", .text c.key), ("op", .text c.op.name), ("value", .text c.value)]

namespace Predicate

variable {α : Type}

mutual
def toDoc (leafDoc : α → Doc) : Predicate α → Doc
  | leaf a => .object [("leaf", leafDoc a)]
  | all cs => .object [("and", .list (docs leafDoc cs))]
  | any cs => .object [("or", .list (docs leafDoc cs))]

def docs (leafDoc : α → Doc) : List (Predicate α) → List Doc
  | [] => []
  | c :: cs => c.toDoc leafDoc :: docs leafDoc cs
end

end Predicate

def SeriesFilter.toDoc : SeriesFilter → Doc
  | comparisons tree => .object [("expression", tree.toDoc Comparison.toDoc)]
  | tagTexts tree => .object [("structured", tree.toDoc fun s => .object [("value", .text s)])]

def StageTemplate.toDoc (t : StageTemplate) : Doc :=
  .object [("kind", .text t.kind.name), ("args", .list (t.args.map Argument.toDoc))]

def StageChain.toDoc (c : StageChain) : Doc :=
  .object [("templates", .list (c.templates.map StageTemplate.toDoc)), ("mode", .text c.mode.name)]

def Target.toDoc (t : Target) : Doc :=
  .object <|
    [("measurement", .text t.measurement), ("field", .text t.field)] ++
    (t.lookback.toList.map fun s => ("lookback", .text s)) ++
    (t.filter.toList.map fun f => ("filter", f.toDoc)) ++
    [("filter_elements", .list (t.filterElements.map Doc.text)),
      ("correlate", .plain (if t.correlate then "true" else "false"))] ++
    (t.stages.toList.map fun c => ("stages", c.toDoc))

end SeriesQuery
