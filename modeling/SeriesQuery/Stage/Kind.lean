import SeriesQuery.Stage.Constant
import SeriesQuery.Stage.Derivative
import SeriesQuery.Stage.Window

/-! # Kinds of stages

The stages that a query can name. A kind may have several names; the first one in the registry is the
one that messages and outputs use.
-/

namespace SeriesQuery

/-- What a stage does, apart from its arguments. -/
inductive StageKind where
  | constant (op : Arithmetic)
  | derivative
  | window (f : Aggregation)
deriving DecidableEq, Repr

namespace StageKind

def registry : List (String × StageKind) := [
  ("add", constant .add),
  ("sub", constant .subtract),
  ("subtract", constant .subtract),
  ("mult", constant .multiply),
  ("multi", constant .multiply),
  ("div", constant .divide),
  ("divide", constant .divide),
  ("derivative", derivative),
  ("rate", derivative),
  ("mean", window .mean),
  ("avg", window .mean),
  ("sum", window .sum),
  ("min", window .min),
  ("max", window .max),
  ("count", window .count),
  ("first", window .first),
  ("last", window .last)]

/-- The kind of a name, letter for letter. -/
def ofName? (name : String) : Option StageKind :=
  (registry.find? fun e => e.1 == name).map Prod.snd

def names (k : StageKind) : List String := (registry.filter fun e => e.2 = k).map Prod.fst

/-- The first name of a kind. -/
def name (k : StageKind) : String := k.names.headD ""

/-- Every kind once, by its first name's place in the registry. -/
def all : List StageKind :=
  registry.foldl (fun kinds e => if kinds.contains e.2 then kinds else kinds ++ [e.2]) []

def arity : StageKind → Nat
  | constant _ | window _ => 1
  | derivative => 0

/-- Whether a kind takes one point at a time. -/
def isStreaming : StageKind → Bool
  | constant _ | derivative => true
  | window _ => false

def description : StageKind → String
  | constant .add => "Adds a constant to each value in the series"
  | constant .subtract => "Subtracts a constant from each value in the series"
  | constant .multiply => "Multiplies each value in the series by a constant"
  | constant .divide => "Divides each value in the series by a constant"
  | derivative => "Per-second rate of change between consecutive points"
  | window .mean => "Mean of each window of N seconds"
  | window .sum => "Sum of each window of N seconds"
  | window .min => "Minimum of each window of N seconds"
  | window .max => "Maximum of each window of N seconds"
  | window .count => "Point count of each window of N seconds"
  | window .first => "First point of each window of N seconds"
  | window .last => "Last point of each window of N seconds"

end StageKind
end SeriesQuery
