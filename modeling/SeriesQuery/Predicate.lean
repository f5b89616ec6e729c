/-! # Predicate trees

Boolean combinations of conditions, with any number of children under each combinator. A tree without
children holds under `all` and fails under `any`.
-/

namespace SeriesQuery

/-- A Boolean combination of conditions. -/
inductive Predicate (α : Type) where
  | leaf (condition : α)
  | all (children : List (Predicate α))
  | any (children : List (Predicate α))

namespace Predicate

variable {α β : Type}

instance [Inhabited α] : Inhabited (Predicate α) := ⟨leaf default⟩

def both (left right : Predicate α) : Predicate α := all [left, right]

def either (left right : Predicate α) : Predicate α := any [left, right]

def isCombinator : Predicate α → Bool
  | leaf _ => false
  | all _ | any _ => true

def children : Predicate α → List (Predicate α)
  | leaf _ => []
  | all cs | any cs => cs

/-- The tree with one more child at its end; `none` for a leaf, which takes no children. -/
def addChild? (tree child : Predicate α) : Option (Predicate α) :=
  match tree with
  | leaf _ => none
  | all cs => some (all (cs ++ [child]))
  | any cs => some (any (cs ++ [child]))

mutual
def holds (test : α → Bool) : Predicate α → Bool
  | leaf a => test a
  | all cs => holdsAll test cs
  | any cs => holdsAny test cs

def holdsAll (test : α → Bool) : List (Predicate α) → Bool
  | [] => true
  | c :: cs => c.holds test && holdsAll test cs

def holdsAny (test : α → Bool) : List (Predicate α) → Bool
  | [] => false
  | c :: cs => c.holds test || holdsAny test cs
end

mutual
def leaves : Predicate α → List α
  | leaf a => [a]
  | all cs => leavesAll cs
  | any cs => leavesAll cs

def leavesAll : List (Predicate α) → List α
  | [] => []
  | c :: cs => c.leaves ++ leavesAll cs
end

mutual
/-- Whether two trees have the same shape and equal conditions. -/
def same (equal : α → α → Bool) : Predicate α → Predicate α → Bool
  | leaf a, leaf b => equal a b
  | all cs, all ds => sameAll equal cs ds
  | any cs, any ds => sameAll equal cs ds
  | _, _ => false

def sameAll (equal : α → α → Bool) : List (Predicate α) → List (Predicate α) → Bool
  | [], [] => true
  | c :: cs, d :: ds => c.same equal d && sameAll equal cs ds
  | _, _ => false
end

theorem holdsAll_eq (test : α → Bool) (cs : List (Predicate α)) :
    holdsAll test cs = cs.all (holds test) := by
  induction cs with
  | nil => simp [holdsAll]
  | cons c cs ih => simp [holdsAll, ih]

theorem holdsAny_eq (test : α → Bool) (cs : List (Predicate α)) :
    holdsAny test cs = cs.any (holds test) := by
  induction cs with
  | nil => simp [holdsAny]
  | cons c cs ih => simp [holdsAny, ih]

theorem leavesAll_eq (cs : List (Predicate α)) : leavesAll cs = cs.flatMap leaves := by
  induction cs with
  | nil => simp [leavesAll]
  | cons c cs ih => simp [leavesAll, ih]

@[simp] theorem holds_leaf (test : α → Bool) (a : α) : (leaf a).holds test = test a := by
  simp [holds]

@[simp] theorem holds_all (test : α → Bool) (cs : List (Predicate α)) :
    (all cs).holds test = cs.all (holds test) := by
  simp [holds, holdsAll_eq]

@[simp] theorem holds_any (test : α → Bool) (cs : List (Predicate α)) :
    (any cs).holds test = cs.any (holds test) := by
  simp [holds, holdsAny_eq]

@[simp] theorem leaves_leaf (a : α) : (leaf a).leaves = [a] := by simp [leaves]

@[simp] theorem leaves_all (cs : List (Predicate α)) : (all cs).leaves = cs.flatMap leaves := by
  simp [leaves, leavesAll_eq]

@[simp] theorem leaves_any (cs : List (Predicate α)) : (any cs).leaves = cs.flatMap leaves := by
  simp [leaves, leavesAll_eq]

end Predicate
end SeriesQuery
