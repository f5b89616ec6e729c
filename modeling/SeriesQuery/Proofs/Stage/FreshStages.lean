import SeriesQuery.Stage.Pipeline

/-! # Fresh stages of a chain

A template that was made from a name and arguments has passed the checks of its kind, and those are the
only ones that a fresh stage makes again. So a chain of such templates always gets its stages, one for
each template, and the stages can run point by point exactly when the kinds can.
-/

namespace SeriesQuery

theorem StageTemplate.exists_fresh_of_make {name : String} {args : List Argument}
    {t : StageTemplate} (h : make name args = .ok t) : ∃ s, t.fresh = .ok s := by
  unfold make at h
  split at h
  · cases h
  · rename_i kind hk
    split at h
    · rename_i s hs
      cases h
      exact ⟨s, hs⟩
    · cases h

/-- What a fresh stage of a kind is. -/
theorem StageKind.fresh_cases {k : StageKind} {args : List Argument} {s : Stage}
    (h : k.fresh args = .ok s) :
    (∃ op c, k = constant op ∧ s = .streaming (.constant c)) ∨
      (k = derivative ∧ s = .streaming (.derivative .fresh)) ∨
      ∃ f arg w, k = window f ∧ WindowStage.make f arg = .ok w ∧ s = .window w := by
  cases k with
  | derivative =>
    cases h
    exact .inr (.inl ⟨rfl, rfl⟩)
  | constant op =>
    cases args with
    | nil => cases h
    | cons arg args =>
      simp only [fresh] at h
      split at h
      · rename_i c hc
        cases h
        exact .inl ⟨op, c, rfl, rfl⟩
      · cases h
  | window f =>
    cases args with
    | nil => cases h
    | cons arg args =>
      simp only [fresh] at h
      split at h
      · rename_i w hw
        cases h
        exact .inr (.inr ⟨f, arg, w, rfl, hw, rfl⟩)
      · cases h

namespace StageChain

theorem exists_freshStages {templates : List StageTemplate}
    (h : ∀ t ∈ templates, ∃ s, t.fresh = .ok s) : ∃ stages, freshStages templates = .ok stages := by
  induction templates with
  | nil => exact ⟨[], rfl⟩
  | cons t rest ih =>
    obtain ⟨s, hs⟩ := h t List.mem_cons_self
    obtain ⟨stages, hrest⟩ := ih fun u hu => h u (List.mem_cons_of_mem t hu)
    exact ⟨s :: stages, by simp [freshStages, hs, hrest]⟩

theorem freshStages_cons_eq_ok {t : StageTemplate} {rest : List StageTemplate} {stages : List Stage}
    (h : freshStages (t :: rest) = .ok stages) :
    ∃ s after, t.fresh = .ok s ∧ freshStages rest = .ok after ∧ stages = s :: after := by
  rw [freshStages] at h
  split at h
  · cases h
  · rename_i s hs
    split at h
    · cases h
    · rename_i after hafter
      cases h
      exact ⟨s, after, hs, hafter, rfl⟩

/-- A template gives the same stage however often it is asked. -/
theorem freshStages_replicate {t : StageTemplate} {s : Stage} (h : t.fresh = .ok s) (n : Nat) :
    freshStages (List.replicate n t) = .ok (List.replicate n s) := by
  induction n with
  | zero => rfl
  | succ n ih => simp only [List.replicate_succ, freshStages, h, ih]

theorem exists_template_of_mem {templates : List StageTemplate} {stages : List Stage}
    (h : freshStages templates = .ok stages) {s : Stage} (hs : s ∈ stages) :
    ∃ t ∈ templates, t.fresh = .ok s := by
  induction templates generalizing stages with
  | nil =>
    cases h
    cases hs
  | cons t rest ih =>
    obtain ⟨first, after, hfirst, hafter, rfl⟩ := freshStages_cons_eq_ok h
    obtain rfl | hs := List.mem_cons.1 hs
    · exact ⟨t, List.mem_cons_self, hfirst⟩
    · obtain ⟨u, hu, hfresh⟩ := ih hafter hs
      exact ⟨u, List.mem_cons_of_mem t hu, hfresh⟩

/-- Stages can run point by point exactly when the kinds of their templates can. -/
theorem all_isStreaming_of_freshStages {templates : List StageTemplate} {stages : List Stage}
    (h : freshStages templates = .ok stages) :
    stages.all Stage.isStreaming = templates.all fun t => t.kind.isStreaming := by
  induction templates generalizing stages with
  | nil =>
    cases h
    rfl
  | cons t rest ih =>
    obtain ⟨s, after, hs, hafter, rfl⟩ := freshStages_cons_eq_ok h
    have hkind : s.isStreaming = t.kind.isStreaming := StageKind.isStreaming_of_fresh hs
    rw [List.all_cons, List.all_cons, hkind, ih hafter]

theorem mode_eq_streaming_iff (c : StageChain) :
    c.mode = .streaming ↔ ∀ t ∈ c.templates, t.kind.isStreaming = true := by
  by_cases h : (c.templates.all fun t => t.kind.isStreaming) = true
  · exact ⟨fun _ => List.all_eq_true.1 h, fun _ => if_pos h⟩
  · refine ⟨fun hm => ?_, fun hall => absurd (List.all_eq_true.2 hall) h⟩
    rw [mode, if_neg h] at hm
    cases hm

end StageChain

namespace Pipeline

/-- What is built once the stages are there depends on the mode asked for and the mode of the chain. -/
theorem build_of_freshStages {c : StageChain} {stages : List Stage}
    (h : StageChain.freshStages c.templates = .ok stages) (asked : ExecutionMode) :
    build c asked = .ok (if asked = .streaming ∧ c.mode = .streaming
      then streaming (stages.filterMap Stage.streaming?) else materialized stages) := by
  have hall : stages.all Stage.isStreaming = true ↔ c.mode = .streaming := by
    rw [StageChain.all_isStreaming_of_freshStages h, StageChain.mode_eq_streaming_iff]
    exact List.all_eq_true
  simp only [build, h, hall]
  split <;> rfl

theorem exists_build_mode {c : StageChain} {stages : List Stage}
    (h : StageChain.freshStages c.templates = .ok stages) (asked : ExecutionMode) :
    ∃ pipeline, build c asked = .ok pipeline ∧
      (pipeline.mode = .streaming ↔ asked = .streaming ∧ c.mode = .streaming) := by
  refine ⟨_, build_of_freshStages h asked, ?_⟩
  by_cases hmode : asked = .streaming ∧ c.mode = .streaming
  · simp [hmode, mode]
  · simp [hmode, mode]

end Pipeline

/-- Streaming stages in a row lose nothing when they are taken out of their wrapping. -/
theorem Stage.map_streaming_filterMap {stages : List Stage} (h : stages.all isStreaming = true) :
    (stages.filterMap streaming?).map streaming = stages := by
  induction stages with
  | nil => rfl
  | cons s rest ih =>
    obtain ⟨hs, hrest⟩ := (Bool.and_eq_true _ _).mp h
    cases s with
    | streaming m => simp [streaming?, ih hrest]
    | window w => cases hs

end SeriesQuery
