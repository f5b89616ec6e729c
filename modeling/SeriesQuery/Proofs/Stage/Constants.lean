import SeriesQuery.Proofs.Double.Truncation
import SeriesQuery.Proofs.Stage.IntegerConstant
import SeriesQuery.Proofs.Stage.Streaming
import SeriesQuery.Proofs.Stage.TimeOrder

/-! # Constants apply to every point

A divisor is checked as a double, and integers are divided by the integer part of it, which is zero for more numbers
than the check refuses: for all strictly between -1 and 1, and for what is no number. For these the quotient is
floating, so that no integer is ever divided by zero. Nothing else changes the kind of a value and nothing at all
the times, so a chain of constants gives a point for each point, at its time.
-/

namespace SeriesQuery

/-- The operation on integers where it is defined, before the result is cut to 64 bits. There is no quotient by
zero. -/
def Arithmetic.exactly? (op : Arithmetic) (v c : Int) : Option Int :=
  if op = .divide ∧ c = 0 then none else some (op.exactly v c)

namespace ConstantStage

/-- What `q` is when a stage makes it of `p`, by operations only where they are defined. -/
structure Treats (s : ConstantStage) (p q : Point) : Prop where
  time : q.time = p.time
  floating : ∀ d, p.value = .float d → q.value = .float (s.applyDouble d)
  /-- An integer stays one, with the integer part of the constant, and the result wraps around. -/
  integer : ∀ n, p.value = .int n → ¬ (s.op = .divide ∧ s.constant.number.IsFraction) →
    ∃ m, s.op.exactly? n.toInt s.constant.number.truncated.toInt = some m ∧ q.value = .int (.ofInt m)
  /-- Where there is no integer part to divide by, the quotient is floating. -/
  quotient : ∀ n, p.value = .int n → s.op = .divide → s.constant.number.IsFraction →
    s.constant.isZero = false ∧ q.value = .float ((Double.ofInt n.toInt).div s.constant)

theorem of_make {op : Arithmetic} {arg : Argument} {s : ConstantStage} (h : make op arg = .ok s) :
    s.op = op ∧ arg.toDouble? = some s.constant ∧ (s.op = .divide → s.constant.isZero = false) := by
  unfold make at h
  split at h
  · cases h
  · rename_i constant hconstant
    split at h
    · cases h
    · rename_i hzero
      cases h
      refine ⟨rfl, hconstant, fun hop => ?_⟩
      rw [← Bool.not_eq_true]
      exact fun hz => hzero ⟨hop, hz⟩

variable {s : ConstantStage}

theorem exactly?_eq_some {n c : Int} (h : s.op = .divide → c ≠ 0) : s.op.exactly? n c = some (s.op.exactly n c) :=
  if_neg fun hzero => h hzero.1 hzero.2

theorem truncated_ne_zero (h : ¬ (s.op = .divide ∧ s.constant.number.IsFraction)) (hop : s.op = .divide) :
    s.constant.toInt64 ≠ 0 := by
  rw [Double.toInt64_eq_truncated, Ne, Number.truncated_eq_zero_iff]
  exact fun hfraction => h ⟨hop, hfraction⟩

theorem applyInt_of_isFraction (hop : s.op = .divide) (h : s.constant.number.IsFraction) (n : Int64) :
    s.applyInt n = .float ((Double.ofInt n.toInt).div s.constant) := by
  rw [← Number.truncated_eq_zero_iff, ← Double.toInt64_eq_truncated] at h
  simp only [applyInt, hop, h, if_true]

theorem treats_apply (nonzero : s.op = .divide → s.constant.isZero = false) (p : Point) : s.Treats p (s.apply p) where
  time := s.time_apply p
  floating := by
    intro d hp
    rw [apply, hp, Point.value_ofValue]
  integer := by
    intro n hp hkept
    have hne := truncated_ne_zero hkept
    refine ⟨s.op.exactly n.toInt s.constant.number.truncated.toInt, exactly?_eq_some fun hop => ?_, ?_⟩
    · rw [← Double.toInt64_eq_truncated, ← Int64.toInt_zero, Ne, Int64.toInt_inj]
      exact hne hop
    · rw [apply, hp, Point.value_ofValue, ← Double.toInt64_eq_truncated]
      exact applyInt_of_ne_zero hne n
  quotient := by
    intro n hp hop hfraction
    refine ⟨nonzero hop, ?_⟩
    rw [apply, hp, Point.value_ofValue]
    exact applyInt_of_isFraction hop hfraction n

/-- The one quotient of 64-bit integers that is none wraps around. -/
theorem apply_minValue (hop : s.op = .divide) (h : s.constant.number.truncated = -1) (t : Int64) :
    s.apply (.ofInt t Int64.minValue) = .ofInt t Int64.minValue := by
  have hint : s.applyInt Int64.minValue = .int Int64.minValue := by
    rw [← Double.toInt64_eq_truncated] at h
    have hne : s.op = .divide → s.constant.toInt64 ≠ 0 := by
      intro _
      rw [h]
      decide
    rw [applyInt_of_ne_zero hne, hop, h]
    decide
  exact congrArg (Point.ofValue t) hint

end ConstantStage

/-! ## Chains of constants -/

theorem map_time_runBuffered {stages : List Stage} (constants : ∀ s ∈ stages, ∃ c, s = .streaming (.constant c))
    (points : List Point) : (runBuffered stages points).map Point.time = points.map Point.time := by
  induction stages generalizing points with
  | nil => rfl
  | cons s rest ih =>
    obtain ⟨⟨c, rfl⟩, hrest⟩ := List.forall_mem_cons.1 constants
    have hfirst : ((Stage.streaming (.constant c)).run points).2 = points.map c.apply := by
      rw [Stage.run, StreamStage.run_constant]
    rw [runBuffered, ih hrest, hfirst, List.map_map]
    exact List.map_congr_left fun p _ => c.time_apply p

theorem StageChain.constant_of_freshStages {templates : List StageTemplate} {stages : List Stage}
    (h : freshStages templates = .ok stages) (constants : ∀ t ∈ templates, ∃ op, t.kind = .constant op) :
    ∀ s ∈ stages, ∃ c, s = .streaming (.constant c) := by
  intro s hs
  obtain ⟨t, ht, hfresh⟩ := exists_template_of_mem h hs
  obtain ⟨op, hop⟩ := constants t ht
  obtain ⟨-, c, -, rfl⟩ | ⟨hkind, -⟩ | ⟨f, -, -, hkind, -, -⟩ := StageKind.fresh_cases hfresh
  · exact ⟨c, rfl⟩
  · cases hop.symm.trans hkind
  · cases hop.symm.trans hkind

/-- A chain of constants can be built for both ways of running it. -/
theorem Pipeline.exists_build_constants {chain : StageChain}
    (constants : ∀ t ∈ chain.templates, (∃ op, t.kind = .constant op) ∧ ∃ name args, StageTemplate.make name args = .ok t)
    (asked : ExecutionMode) :
    ∃ pipeline, build chain asked = .ok pipeline ∧ pipeline.mode = asked ∧
      ∀ points, (pipeline.run points).map Point.time = points.map Point.time := by
  have hkinds : ∀ t ∈ chain.templates, ∃ op, t.kind = .constant op := fun t ht => (constants t ht).1
  have hfresh : ∀ t ∈ chain.templates, ∃ s, t.fresh = .ok s := by
    intro t ht
    obtain ⟨-, name, args, hmake⟩ := constants t ht
    exact StageTemplate.exists_fresh_of_make hmake
  obtain ⟨stages, hstages⟩ := StageChain.exists_freshStages hfresh
  obtain ⟨pipeline, hbuild, hrun⟩ := exists_build hstages asked
  obtain ⟨same, hsame, hmode⟩ := exists_build_mode hstages asked
  cases hbuild.symm.trans hsame
  refine ⟨pipeline, hbuild, ?_, fun points => ?_⟩
  · have hstreaming : chain.mode = .streaming := by
      rw [StageChain.mode_eq_streaming_iff]
      intro t ht
      obtain ⟨op, hop⟩ := hkinds t ht
      rw [hop]
      rfl
    cases asked with
    | streaming => exact hmode.2 ⟨rfl, hstreaming⟩
    | materialized =>
      cases hm : pipeline.mode with
      | streaming => exact absurd (hmode.1 hm).1 (by decide)
      | materialized => rfl
  · rw [hrun]
    exact map_time_runBuffered (StageChain.constant_of_freshStages hstages hkinds) points

namespace ConstantStage

/-- A stage that was accepted applies to every point, and chains of such stages keep the number of points and their
times, point by point as well as over the whole buffer. -/
theorem treats_and_chains_keep_times {op : Arithmetic} {arg : Argument} {s : ConstantStage}
    (made : make op arg = .ok s) {chain : StageChain}
    (constants : ∀ t ∈ chain.templates, (∃ op, t.kind = .constant op) ∧ ∃ name args, StageTemplate.make name args = .ok t) :
    (s.op = op ∧ arg.toDouble? = some s.constant) ∧
      (∀ p, s.Treats p (s.apply p)) ∧
      (op = .divide → s.constant.number.truncated = -1 →
        ∀ t, s.apply (.ofInt t Int64.minValue) = .ofInt t Int64.minValue) ∧
      ∀ asked, ∃ pipeline, Pipeline.build chain asked = .ok pipeline ∧ pipeline.mode = asked ∧
        ∀ points, (pipeline.run points).map Point.time = points.map Point.time ∧
          (pipeline.run points).length = points.length := by
  obtain ⟨hop, harg, nonzero⟩ := of_make made
  refine ⟨⟨hop, harg⟩, treats_apply nonzero, fun hdivide => apply_minValue (hop.trans hdivide), fun asked => ?_⟩
  obtain ⟨pipeline, hbuild, hmode, htimes⟩ := Pipeline.exists_build_constants constants asked
  refine ⟨pipeline, hbuild, hmode, fun points => ⟨htimes points, ?_⟩⟩
  have hlength := congrArg List.length (htimes points)
  rwa [List.length_map, List.length_map] at hlength

def half : Double := ⟨0x3FE0000000000000⟩

/-- Divisions by minus one, by a half and by what is no number. -/
def divisions : StageChain :=
  ⟨[⟨.constant .divide, [.int (-1)]⟩, ⟨.constant .divide, [.float half]⟩,
    ⟨.constant .divide, [.float ⟨0x7FF8000000000000⟩]⟩]⟩

/-- A quotient that wraps around and one that is floating, and a chain of both and a third. -/
theorem treats_divisions :
    make .divide (.int (-1)) = .ok ⟨.divide, .ofInt (-1)⟩ ∧ (Double.ofInt (-1)).number.truncated = -1 ∧
      apply ⟨.divide, .ofInt (-1)⟩ (.ofInt 5 Int64.minValue) = .ofInt 5 Int64.minValue ∧
      make .divide (.float half) = .ok ⟨.divide, half⟩ ∧ half.number.IsFraction ∧
      (apply ⟨.divide, half⟩ (.ofInt 0 3)).value = .float ((Double.ofInt 3).div half) ∧
      (∀ t ∈ divisions.templates,
        (∃ op, t.kind = .constant op) ∧ ∃ name args, StageTemplate.make name args = .ok t) ∧
      ∃ pipeline, Pipeline.build divisions .streaming = .ok pipeline ∧
        (pipeline.run Pipeline.unsortedPoints).map Point.time = [4000, 1000, 1000, 2000, 3000] := by
  have negated : make .divide (.int (-1)) = .ok ⟨.divide, .ofInt (-1)⟩ := by rfl
  have halved : make .divide (.float half) = .ok ⟨.divide, half⟩ := by rfl
  have minusOne : (Double.ofInt (-1)).number.truncated = -1 := by
    rw [← Double.toInt64_eq_truncated]
    decide +kernel
  have fraction : half.number.IsFraction := by
    rw [← Number.truncated_eq_zero_iff, ← Double.toInt64_eq_truncated]
    decide +kernel
  have constants : ∀ t ∈ divisions.templates,
      (∃ op, t.kind = .constant op) ∧ ∃ name args, StageTemplate.make name args = .ok t := by
    simp only [divisions, List.forall_mem_cons]
    exact ⟨⟨⟨_, rfl⟩, "div", [.int (-1)], rfl⟩, ⟨⟨_, rfl⟩, "divide", [.float half], rfl⟩,
      ⟨⟨_, rfl⟩, "div", [.float ⟨0x7FF8000000000000⟩], rfl⟩, nofun⟩
  obtain ⟨-, -, wraps, pipelines⟩ := treats_and_chains_keep_times negated constants
  obtain ⟨-, treats, -, -⟩ := treats_and_chains_keep_times halved constants
  obtain ⟨pipeline, hbuild, -, hkeeps⟩ := pipelines .streaming
  exact ⟨negated, minusOne, wraps rfl minusOne 5, halved, fraction, ((treats (.ofInt 0 3)).quotient 3 rfl rfl fraction).2,
    constants, pipeline, hbuild, (hkeeps _).1⟩

end ConstantStage
end SeriesQuery
