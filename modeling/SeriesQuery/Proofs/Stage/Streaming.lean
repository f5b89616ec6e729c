import SeriesQuery.Proofs.Stage.FreshStages

/-! # Running point by point and stage by stage

A stream passes each point through all stages before it takes the next one, while a materialized
pipeline finishes a stage before it starts the one behind it. Both give the same points. The invariant is
that a stream whose first stage is taken off is the stream of the other stages over what the first one
makes of the source: a point that the first stage drops is one that the others never see.
-/

namespace SeriesQuery

/-- The points that come out of a stream that is asked until it has no more. -/
inductive Stream.Yields : Stream → List Point → Prop where
  | done {s last : Stream} (h : s.next = (none, last)) : Yields s []
  | more {s rest : Stream} {p : Point} {out : List Point} (h : s.next = (some p, rest))
      (later : Yields rest out) : Yields s (p :: out)

namespace Stream

theorem Yields.unique {s : Stream} {a b : List Point} (ha : s.Yields a) (hb : s.Yields b) : a = b := by
  induction ha generalizing b with
  | done h =>
    cases hb with
    | done _ => rfl
    | more h' _ => cases h.symm.trans h'
  | more h _ ih =>
    cases hb with
    | done h' => cases h.symm.trans h'
    | more h' later =>
      cases h.symm.trans h'
      rw [ih later]

theorem Yields.of_next_eq {s t : Stream} {out : List Point} (h : s.next = t.next) (ht : t.Yields out) :
    s.Yields out := by
  cases ht with
  | done hn => exact .done (h.trans hn)
  | more hn later => exact .more (h.trans hn) later

theorem next_ofSource_nil (stages : List StreamStage) :
    (ofSource [] stages).next = (none, ⟨[], stages, true⟩) := rfl

/-- A point that no stage drops is the next one. -/
theorem next_ofSource_of_feed_some {stages after : List StreamStage} {p out : Point}
    (h : feed stages p = (after, some out)) (rest : List Point) :
    (ofSource (p :: rest) stages).next = (some out, ofSource rest after) := by
  simp [next, ofSource, pull, h]

/-- A point that some stage drops leaves nothing behind but the memory of the stages. -/
theorem next_ofSource_of_feed_none {stages after : List StreamStage} {p : Point}
    (h : feed stages p = (after, none)) (rest : List Point) :
    (ofSource (p :: rest) stages).next = (ofSource rest after).next := by
  simp [next, ofSource, pull, h]

theorem yields_points (stages : List StreamStage) (source : List Point) :
    (ofSource source stages).Yields (points stages source) := by
  induction source generalizing stages with
  | nil => exact .done (next_ofSource_nil stages)
  | cons p rest ih =>
    cases hf : feed stages p with
    | mk after out =>
      have hp : points stages (p :: rest) = out.toList ++ points after rest := by simp [points, hf]
      rw [hp]
      cases out with
      | none => exact .of_next_eq (next_ofSource_of_feed_none hf rest) (ih after)
      | some q => exact .more (next_ofSource_of_feed_some hf rest) (ih after)

theorem yields_iff {stages : List StreamStage} {source out : List Point} :
    (ofSource source stages).Yields out ↔ out = points stages source :=
  ⟨fun h => h.unique (yields_points stages source), fun h => h ▸ yields_points stages source⟩

theorem points_no_stages (source : List Point) : points [] source = source := by
  induction source with
  | nil => rfl
  | cons p rest ih => simp [points, feed, ih]

/-- Taking off the first stage: the others run over what it yields. -/
theorem points_cons (s : StreamStage) (others : List StreamStage) (source : List Point) :
    points (s :: others) source = points others (s.run source).2 := by
  induction source generalizing s others with
  | nil => rfl
  | cons p rest ih =>
    cases hs : s.step p with
    | mk next out =>
      have hrun : (s.run (p :: rest)).2 = out.toList ++ (next.run rest).2 := by
        simp [StreamStage.run, hs]
      rw [hrun]
      cases out with
      | none =>
        have hf : feed (s :: others) p = (next :: others, none) := by simp [feed, hs]
        simp [points, hf, ih]
      | some q =>
        have hf : feed (s :: others) p = (next :: (feed others q).1, (feed others q).2) := by
          simp [feed, hs]
        simp [points, hf, ih]

end Stream

/-- Stages that take one point at a time give the same points either way. -/
theorem runBuffered_map_streaming (stages : List StreamStage) (points : List Point) :
    runBuffered (stages.map .streaming) points = Stream.points stages points := by
  induction stages generalizing points with
  | nil => exact (Stream.points_no_stages points).symm
  | cons s rest ih =>
    rw [List.map_cons, runBuffered, ih, Stream.points_cons]
    rfl

namespace Pipeline

theorem run_streaming_eq_runBuffered {stages : List Stage} (h : stages.all Stage.isStreaming = true)
    (points : List Point) :
    (streaming (stages.filterMap Stage.streaming?)).run points = runBuffered stages points := by
  rw [run, ← runBuffered_map_streaming, Stage.map_streaming_filterMap h]

/-- Whatever is asked for, what is built runs the stages as if one after the other over the buffer. -/
theorem exists_build {c : StageChain} {stages : List Stage} (h : StageChain.freshStages c.templates = .ok stages)
    (asked : ExecutionMode) :
    ∃ pipeline, build c asked = .ok pipeline ∧ ∀ points, pipeline.run points = runBuffered stages points := by
  refine ⟨_, build_of_freshStages h asked, fun points => ?_⟩
  split
  · rename_i hmode
    apply run_streaming_eq_runBuffered
    rw [StageChain.all_isStreaming_of_freshStages h, List.all_eq_true]
    exact c.mode_eq_streaming_iff.1 hmode.2
  · rfl

/-- Either way of running a chain can be built and gives the same points, and a chain without windows
that is asked to stream does stream: what it answers, asked until it has no more, are these points. -/
theorem run_eq_of_modes (c : StageChain)
    (made : ∀ t ∈ c.templates, ∃ name args, StageTemplate.make name args = .ok t)
    (points : List Point) :
    ∃ asked whole, build c .streaming = .ok asked ∧ build c .materialized = .ok whole ∧
      asked.run points = whole.run points ∧ whole.mode = .materialized ∧
      ((∀ t ∈ c.templates, ∀ f, t.kind ≠ .window f) → ∃ stages, asked = streaming stages ∧
        ∀ out, (Stream.ofSource points stages).Yields out ↔ out = whole.run points) := by
  obtain ⟨stages, hstages⟩ := StageChain.exists_freshStages fun t ht => by
    obtain ⟨name, args, h⟩ := made t ht
    exact StageTemplate.exists_fresh_of_make h
  have hall := StageChain.all_isStreaming_of_freshStages hstages
  refine ⟨_, materialized stages, build_of_freshStages hstages .streaming,
    build_of_freshStages hstages .materialized, ?_, rfl, fun hw => ?_⟩
  · by_cases hmode : c.mode = .streaming
    · rw [if_pos ⟨rfl, hmode⟩]
      apply run_streaming_eq_runBuffered
      rw [hall, List.all_eq_true]
      exact c.mode_eq_streaming_iff.1 hmode
    · rw [if_neg fun h => hmode h.2]
  · have hkinds : ∀ t ∈ c.templates, t.kind.isStreaming = true := by
      intro t ht
      cases hk : t.kind with
      | window f => exact absurd hk (hw t ht f)
      | constant op => rfl
      | derivative => rfl
    have hstream : stages.all Stage.isStreaming = true := hall.trans (List.all_eq_true.2 hkinds)
    refine ⟨_, if_pos ⟨rfl, c.mode_eq_streaming_iff.2 hkinds⟩, fun out => ?_⟩
    rw [Stream.yields_iff]
    change out = (streaming (stages.filterMap Stage.streaming?)).run points ↔ _
    rw [run_streaming_eq_runBuffered hstream]
    rfl

/-- Three constants around two rates, the second of which sees only what the first lets through. -/
def rateOfRates : StageChain :=
  ⟨[⟨.constant .multiply, [.int 2]⟩, ⟨.derivative, []⟩, ⟨.constant .subtract, [.int 1, .text "unused"]⟩,
    ⟨.derivative, [.text "unused"]⟩, ⟨.constant .divide, [.float .infinity]⟩]⟩

/-- Integers and floating points whose times go back and stand still. -/
def unsortedPoints : List Point :=
  [.ofInt 4000 10, .ofDouble 1000 .infinity, .ofInt 1000 3, .ofInt 2000 (-4), .ofDouble 3000 .negativeZero]

theorem run_rateOfRates_of_modes :
    (∀ t ∈ rateOfRates.templates, ∃ name args, StageTemplate.make name args = .ok t) ∧
      (∀ t ∈ rateOfRates.templates, ∀ f, t.kind ≠ .window f) ∧
      ∃ stages whole, build rateOfRates .streaming = .ok (streaming stages) ∧
        build rateOfRates .materialized = .ok whole ∧
        ∀ out, (Stream.ofSource unsortedPoints stages).Yields out ↔ out = whole.run unsortedPoints := by
  have made : ∀ t ∈ rateOfRates.templates, ∃ name args, StageTemplate.make name args = .ok t := by
    simp only [rateOfRates, List.forall_mem_cons]
    exact ⟨⟨"multi", [.int 2], rfl⟩, ⟨"rate", [], rfl⟩, ⟨"subtract", [.int 1, .text "unused"], rfl⟩,
      ⟨"derivative", [.text "unused"], rfl⟩, ⟨"div", [.float .infinity], rfl⟩, by simp⟩
  have windowless : ∀ t ∈ rateOfRates.templates, ∀ f, t.kind ≠ .window f := by
    simp [rateOfRates]
  obtain ⟨asked, whole, hasked, hwhole, -, -, hstream⟩ :=
    run_eq_of_modes rateOfRates made unsortedPoints
  obtain ⟨stages, rfl, hyields⟩ := hstream windowless
  exact ⟨made, windowless, stages, whole, hasked, hwhole, hyields⟩

end Pipeline
end SeriesQuery
