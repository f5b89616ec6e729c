import SeriesQuery.Proofs.Execution.Reference

/-! # Stages of compiled queries do not fail

The arguments of a stage are checked once, when the query is compiled, and again for every series that the stage
runs over. Both checks are the same, so that a query that compiles gets the stages it names as often as it wants,
and each time as new as the first time. What is left to fail is the range or the path.
-/

namespace SeriesQuery.Query

open StageChain (freshStages)

/-- A query that compiles has stages that can be had any number of times, all alike and fresh, and pipelines that
stream when this is asked for and the chain can; so it fails for its range or its path only. -/
theorem stages_succeed_of_compile {query : String} {t : Target} (h : compile query = .ok t) :
    (∀ u ∈ t.templates, ∃ s : Stage, s.IsFresh ∧
      ∀ n, freshStages (List.replicate n u) = .ok (List.replicate n s)) ∧
    (∀ chain ∈ t.stages, ∀ asked, ∃ pipeline, Pipeline.build chain asked = .ok pipeline ∧
      (pipeline.mode = .streaming ↔ asked = .streaming ∧ chain.mode = .streaming)) ∧
    ∀ store database range force e, t.execute store database range force = .error e →
      (range.stop ≤ range.start ∧ e = .store .emptyRange) ∨
        ∃ cause, Store.Lacks store.entries (t.path database) cause ∧
          e = .notFound database t.selector cause := by
  have checked := isChecked_of_compile h
  obtain ⟨stages, hstages⟩ := checked.exists_freshStages
  refine ⟨?instances, ?pipelines, ?errors⟩
  case instances =>
    intro u hu
    obtain ⟨name, args, hmake⟩ := checked.made u hu
    obtain ⟨s, hs⟩ := StageTemplate.exists_fresh_of_make hmake
    have hone : freshStages [u] = .ok [s] := StageChain.freshStages_replicate hs 1
    have hfresh : s.IsFresh := StageChain.isFresh_of_freshStages hone s List.mem_cons_self
    exact ⟨s, hfresh, StageChain.freshStages_replicate hs⟩
  case pipelines =>
    intro chain hchain asked
    have htemplates : t.templates = chain.templates := by
      rw [Target.templates, Option.mem_def.1 hchain]
      rfl
    rw [htemplates] at hstages
    exact Pipeline.exists_build_mode hstages asked
  case errors =>
    intro store database range force e he
    rcases checked.execute_cases store database range force with
      ⟨hle, hrange⟩ | ⟨cause, lacks, hpath⟩ | ⟨output, hok⟩
    · left
      exact ⟨hle, Except.error.inj (he.symm.trans hrange)⟩
    · right
      exact ⟨cause, lacks, Except.error.inj (he.symm.trans hpath)⟩
    · cases he.symm.trans hok

def lastRate : Target :=
  ⟨"cpu", "usage", none, none, [], false,
    some ⟨[⟨.derivative, []⟩, ⟨.constant .divide, [.float (.ofDecimal false 5 (-1))]⟩,
      ⟨.window .last, [.int 60]⟩]⟩⟩

theorem compile_lastRate : compile "cpu.usage=>rate=>div,0.5=>last,60" = .ok lastRate := by rfl

/-- A stage with a memory, a chain that cannot stream although it is asked to, and an empty store. -/
theorem lastRate_stages_succeed :
    compile "cpu.usage=>rate=>div,0.5=>last,60" = .ok lastRate ∧
      (∃ s : Stage, s.IsFresh ∧
        ∀ n, freshStages (List.replicate n ⟨.derivative, []⟩) = .ok (List.replicate n s)) ∧
      (∀ chain ∈ lastRate.stages, ∃ pipeline, Pipeline.build chain .streaming = .ok pipeline ∧
        pipeline.mode ≠ .streaming) ∧
      ∃ cause, lastRate.execute .empty "metrics" .all false = .error (.notFound "metrics" "cpu.usage" cause) := by
  obtain ⟨instances, pipelines, errors⟩ := stages_succeed_of_compile compile_lastRate
  refine ⟨compile_lastRate, instances _ List.mem_cons_self, ?_, ?_⟩
  · intro chain hchain
    obtain ⟨pipeline, hbuild, hmode⟩ := pipelines chain hchain .streaming
    refine ⟨pipeline, hbuild, ?_⟩
    rw [Ne, hmode]
    cases hchain
    decide
  · have hfails : lastRate.execute .empty "metrics" .all false =
        .error (.notFound "metrics" "cpu.usage" (.noDatabase "metrics")) := by rfl
    rcases errors _ _ _ _ _ hfails with ⟨-, hrange⟩ | ⟨cause, -, hpath⟩
    · cases hrange
    · exact ⟨cause, hfails.trans (congrArg _ hpath)⟩

end SeriesQuery.Query
