import SeriesQuery.Point
import SeriesQuery.Stage.Error

/-! # Constant arithmetic

Every value is added to, diminished, multiplied or divided by one constant. Floating points use the
constant as it is. Integer points use its integer part and wrap around; only where that part is zero
does a division turn an integer point into a floating one.
-/

namespace SeriesQuery

/-- The four operations. -/
inductive Arithmetic where
  | add
  | subtract
  | multiply
  | divide
deriving DecidableEq, Repr

/-- An operation and its second operand. -/
structure ConstantStage where
  op : Arithmetic
  constant : Double
deriving DecidableEq, Repr

namespace ConstantStage

/-- A stage from its argument, which must be a number and, for a divisor, not zero. -/
def make (op : Arithmetic) (arg : Argument) : Except ArgumentFault ConstantStage :=
  match arg.toDouble? with
  | none => .error (.notNumber arg)
  | some constant =>
    if op = .divide ∧ constant.isZero then .error (.zeroDivisor arg) else .ok ⟨op, constant⟩

def applyDouble (s : ConstantStage) (d : Double) : Double :=
  match s.op with
  | .add => d.add s.constant
  | .subtract => d.sub s.constant
  | .multiply => d.mul s.constant
  | .divide => d.div s.constant

/-- The operation on an integer. The quotient has no fraction; by a constant without an integer part
it is floating. -/
def applyInt (s : ConstantStage) (n : Int64) : Value :=
  let constant := s.constant.toInt64
  match s.op with
  | .add => .int (n + constant)
  | .subtract => .int (n - constant)
  | .multiply => .int (n * constant)
  | .divide =>
    if constant = 0 then .float ((Double.ofInt n.toInt).div s.constant) else .int (n / constant)

def apply (s : ConstantStage) (p : Point) : Point :=
  .ofValue p.time (match p.value with
    | .int n => s.applyInt n
    | .float d => .float (s.applyDouble d))

@[simp] theorem time_apply (s : ConstantStage) (p : Point) : (s.apply p).time = p.time := by
  simp [apply]

end ConstantStage
end SeriesQuery
