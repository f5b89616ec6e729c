import SeriesQuery.Stage.Kind

/-! # Stages

A stage with its arguments, before its first point. A streaming stage is a machine that takes one
point and yields at most one; a window needs all points of a series at once.
-/

namespace SeriesQuery

/-- A stage that takes one point at a time, with what it remembers. -/
inductive StreamStage where
  | constant (s : ConstantStage)
  | derivative (s : DerivativeStage)
deriving DecidableEq, Repr

namespace StreamStage

def step : StreamStage → Point → StreamStage × Option Point
  | constant s, p => (constant s, some (s.apply p))
  | derivative s, p =>
    let (next, out) := s.step p
    (derivative next, out)

def run : StreamStage → List Point → StreamStage × List Point
  | s, [] => (s, [])
  | s, p :: rest =>
    let (next, out) := s.step p
    let (last, outs) := next.run rest
    (last, out.toList ++ outs)

end StreamStage

/-- A stage ready to run. -/
inductive Stage where
  | streaming (s : StreamStage)
  | window (w : WindowStage)
deriving DecidableEq, Repr

namespace Stage

def isStreaming : Stage → Bool
  | streaming _ => true
  | window _ => false

def streaming? : Stage → Option StreamStage
  | streaming s => some s
  | window _ => none

def run : Stage → List Point → Stage × List Point
  | streaming s, points =>
    let (next, outs) := s.run points
    (streaming next, outs)
  | window w, points => (window w, w.apply points)

end Stage

/-- A fresh stage of a kind. Arguments beyond those needed make no difference. -/
def StageKind.fresh (k : StageKind) (args : List Argument) : Except StageError Stage :=
  let invalid (fault : ArgumentFault) : StageError := .invalidArgument k.name fault
  match k, args with
  | .derivative, _ => .ok (.streaming (.derivative .fresh))
  | _, [] => .error (.missingArguments k.name k.arity 0)
  | .constant op, arg :: _ =>
    match ConstantStage.make op arg with
    | .ok s => .ok (.streaming (.constant s))
    | .error fault => .error (invalid fault)
  | .window f, arg :: _ =>
    match WindowStage.make f arg with
    | .ok w => .ok (.window w)
    | .error fault => .error (invalid fault)

theorem StageKind.isStreaming_of_fresh {k : StageKind} {args : List Argument} {s : Stage}
    (h : k.fresh args = .ok s) : s.isStreaming = k.isStreaming := by
  unfold StageKind.fresh at h
  simp only at h
  split at h <;> (try split at h) <;> cases h <;> rfl

end SeriesQuery
