import SeriesQuery.Proofs.Stage.FreshStages
import SeriesQuery.Proofs.Text.Cutting
import SeriesQuery.Query.Compile

/-! # Compiling what was rendered

A query is put together from a lookback text, a measurement, a field, a filter and stages. Five separators
hold it together, and they share characters with each other and with the operators of filters; where no
part holds a separator of its own level or of one above, compiling gives the parts back. Dots and `<` may
stand in a filter, as they are only looked for before it, and a part may end in `=`.
-/

namespace SeriesQuery

open Text

/-- What stands behind a lookback text. -/
inductive LookbackMarker where
  | below
  | upTo

def LookbackMarker.symbol : LookbackMarker → String
  | below => "<"
  | upTo => "<="

/-- A stage as written. -/
structure WrittenStage where
  name : String
  args : List String

/-- A query in its parts, as they are written. -/
structure WrittenQuery where
  lookback : Option (String × LookbackMarker)
  measurement : String
  field : String
  filter : Option String
  stages : List WrittenStage

namespace WrittenStage

def text (s : WrittenStage) : List Char :=
  s.name.toList ++ (s.args.map String.toList).flatMap fun a => [','] ++ a

/-- The arguments hold no separator, the last of them is not empty, and the stage can be made of them. -/
structure WellFormed (s : WrittenStage) : Prop where
  separatorFree : ∀ a ∈ s.args, ',' ∉ a.toList ∧ ArrowFree a.toList
  last : ∀ a ∈ s.args.getLast?, a ≠ ""
  accepted : ∃ t, StageTemplate.make s.name (s.args.map Argument.ofText) = .ok t

end WrittenStage

namespace WrittenQuery

def lookbackText (q : WrittenQuery) : List Char :=
  q.lookback.elim [] fun l => l.1.toList ++ l.2.symbol.toList

def selectionText (q : WrittenQuery) : List Char :=
  q.measurement.toList ++ '.' :: (q.field.toList ++ q.filter.elim [] fun e => '.' :: e.toList)

def text (q : WrittenQuery) : String :=
  String.ofList (q.lookbackText ++
    (q.selectionText ++ (q.stages.map WrittenStage.text).flatMap fun s => ['=', '>'] ++ s))

/-- No part holds what divides it from the others, and the filter and the stages can be read. -/
structure WellFormed (q : WrittenQuery) : Prop where
  lookback : ∀ l ∈ q.lookback, '<' ∉ l.1.toList ∧ '.' ∉ l.1.toList
  measurement_ne : q.measurement ≠ ""
  measurement : '.' ∉ q.measurement.toList ∧ '<' ∉ q.measurement.toList ∧ ArrowFree q.measurement.toList
  /-- Behind `<` it would be taken for a part of `<=`. -/
  measurement_start : ∀ l ∈ q.lookback, l.2 = .below → q.measurement.toList.head? ≠ some '='
  field_ne : q.field ≠ ""
  field : '.' ∉ q.field.toList ∧ ArrowFree q.field.toList
  filter : ∀ e ∈ q.filter, ArrowFree e.toList ∧ ∃ tree, Filter.parse e = .ok tree
  stages : ∀ s ∈ q.stages, s.WellFormed

end WrittenQuery

/-! ## Stages -/

/-- The names of stages hold no separator. -/
theorem StageKind.name_of_ofName? {name : String} {kind : StageKind} (h : ofName? name = some kind) :
    name ≠ "" ∧ ',' ∉ name.toList ∧ '=' ∉ name.toList := by
  have hall : ∀ e ∈ registry, e.1 ≠ "" ∧ ',' ∉ e.1.toList ∧ '=' ∉ e.1.toList := by decide
  obtain ⟨e, he, -⟩ := Option.map_eq_some_iff.1 h
  have hname : e.1 = name := by simpa using List.find?_some he
  exact hname ▸ hall e (List.mem_of_find?_eq_some he)

theorem StageKind.isStreaming_iff {kind : StageKind} :
    kind.isStreaming = true ↔ ∀ f, kind ≠ .window f := by
  cases kind <;> simp [isStreaming]

theorem StageTemplate.of_make {name : String} {args : List Argument} {t : StageTemplate}
    (h : make name args = .ok t) : StageKind.ofName? name = some t.kind ∧ t.args = args := by
  unfold make at h
  split at h
  · cases h
  · rename_i kind hkind
    split at h
    · cases h
      exact ⟨hkind, rfl⟩
    · cases h

namespace WrittenStage.WellFormed

variable {s : WrittenStage}

theorem name (h : s.WellFormed) : s.name ≠ "" ∧ ',' ∉ s.name.toList ∧ '=' ∉ s.name.toList := by
  obtain ⟨t, ht⟩ := h.accepted
  exact StageKind.name_of_ofName? (StageTemplate.of_make ht).1

theorem text_ne_nil (h : s.WellFormed) : s.text ≠ [] := by
  simp [text, h.name.1]

theorem arrowFree_text (h : s.WellFormed) : ArrowFree s.text := by
  apply arrowFree_joined (by decide) (by decide)
  refine List.forall_mem_cons.2 ⟨arrowFree_of_not_mem h.name.2.2, ?_⟩
  exact List.forall_mem_map.2 fun a ha => (h.separatorFree a ha).2

/-- The name and the arguments are found again. -/
theorem compileStage_text (h : s.WellFormed) :
    Query.compileStage s.text = StageTemplate.make s.name (s.args.map Argument.ofText) := by
  have hfree : ∀ piece ∈ s.name.toList :: s.args.map String.toList, ',' ∉ piece := by
    refine List.forall_mem_cons.2 ⟨h.name.2.1, ?_⟩
    exact List.forall_mem_map.2 fun a ha => (h.separatorFree a ha).1
  have hlast : ∀ last ∈ (s.args.map String.toList).getLast?, last ≠ [] := by
    intro last hl
    rw [List.getLast?_map] at hl
    obtain ⟨a, ha, rfl⟩ := Option.map_eq_some_iff.1 hl
    simpa using h.last a ha
  rw [Query.compileStage, text, pieces_joined hfree]
  simp only [firstAndRest, dropTrailingEmpty_of_getLast_ne_nil hlast, List.map_map, Function.comp_def,
    String.ofList_toList]

end WrittenStage.WellFormed

/-- Stages are compiled one by one, each to its kind and its arguments. -/
theorem WrittenStage.exists_compileStages {stages : List WrittenStage} (h : ∀ s ∈ stages, s.WellFormed) :
    ∃ templates, List.Forall₂ (fun s t => StageKind.ofName? s.name = some t.kind ∧
        t.args = s.args.map Argument.ofText) stages templates ∧
      Query.compileStages (stages.map text) = .ok templates := by
  induction stages with
  | nil => exact ⟨[], .nil, rfl⟩
  | cons s stages ih =>
    obtain ⟨hs, hstages⟩ := List.forall_mem_cons.1 h
    obtain ⟨t, ht⟩ := hs.accepted
    obtain ⟨templates, hkinds, hcompile⟩ := ih hstages
    refine ⟨t :: templates, .cons (StageTemplate.of_make ht) hkinds, ?_⟩
    rw [List.map_cons, Query.compileStages, hs.compileStage_text, ht, hcompile]
    rfl

/-! ## Selection and lookback -/

namespace Query

theorem cutLookback_of_dot {front back : List Char} (h : '<' ∉ front) :
    cutLookback (front ++ '.' :: back) = (none, front ++ '.' :: back) := by
  have hcut := cutAt_append_of_not_mem h ('.' :: back)
  have hdot : '.' ∈ front ++ (cutAt '<' ('.' :: back)).1 := by simp [cutAt]
  rw [cutLookback, hcut]
  cases (cutAt '<' ('.' :: back)).2 <;> simp [hdot]

theorem cutLookback_append_below {lookback rest : List Char} (hlt : '<' ∉ lookback) (hdot : '.' ∉ lookback)
    (hrest : rest.head? ≠ some '=') :
    cutLookback (lookback ++ '<' :: rest) = (some (lookback ++ ['<']), rest) := by
  rw [cutLookback, cutAt_append hlt]
  cases rest with
  | nil => simp [hdot]
  | cons c rest =>
    have hc : c ≠ '=' := by simpa using hrest
    simp [hdot, hc]

theorem cutLookback_append_upTo {lookback : List Char} (hlt : '<' ∉ lookback) (hdot : '.' ∉ lookback)
    (rest : List Char) :
    cutLookback (lookback ++ '<' :: '=' :: rest) = (some (lookback ++ ['<', '=']), rest) := by
  rw [cutLookback, cutAt_append hlt]
  simp [hdot]

end Query

namespace WrittenQuery

def target (q : WrittenQuery) (tree : Option TagPredicate) (templates : List StageTemplate) : Target where
  measurement := q.measurement
  field := q.field
  lookback := q.lookback.map fun l => l.1 ++ l.2.symbol
  filter := tree.map .comparisons
  filterElements := q.filter.elim [] Filter.tokens
  correlate := false
  stages := if templates.isEmpty then none else some ⟨templates⟩

namespace WellFormed

variable {q : WrittenQuery}

theorem cutLookback_text (h : q.WellFormed) (back : List Char) :
    Query.cutLookback (q.lookbackText ++ (q.selectionText ++ back)) =
      (q.lookback.map fun l => l.1.toList ++ l.2.symbol.toList, q.selectionText ++ back) := by
  cases hlookback : q.lookback with
  | none =>
    simp only [lookbackText, selectionText, hlookback, Option.elim_none, List.nil_append,
      List.append_assoc, List.cons_append]
    exact Query.cutLookback_of_dot h.measurement.2.1
  | some l =>
    obtain ⟨lookback, marker⟩ := l
    obtain ⟨hlt, hdot⟩ := h.lookback _ hlookback
    cases marker with
    | below =>
      have hstart : (q.selectionText ++ back).head? ≠ some '=' := by
        have hm := h.measurement_start _ hlookback rfl
        rw [selectionText, List.append_assoc, List.head?_append_of_ne_nil]
        · exact hm
        · simpa using h.measurement_ne
      have hcut := Query.cutLookback_append_below hlt hdot hstart
      simpa [lookbackText, hlookback, LookbackMarker.symbol] using hcut
    | upTo =>
      have hcut := Query.cutLookback_append_upTo hlt hdot (q.selectionText ++ back)
      simpa [lookbackText, hlookback, LookbackMarker.symbol] using hcut

theorem arrowFree_selectionText (h : q.WellFormed) : ArrowFree q.selectionText := by
  rw [selectionText, arrowFree_append_cons (by decide) (by decide)]
  refine ⟨h.measurement.2.2, ?_⟩
  cases hfilter : q.filter with
  | none =>
    rw [Option.elim_none, List.append_nil]
    exact h.field.2
  | some e =>
    rw [Option.elim_some, arrowFree_append_cons (by decide) (by decide)]
    exact ⟨h.field.2, (h.filter e hfilter).1⟩

theorem cutSelection_text (h : q.WellFormed) :
    Query.cutSelection q.selectionText =
      (q.measurement.toList, some q.field.toList, q.filter.map String.toList) := by
  rw [Query.cutSelection, selectionText, cutAt_append h.measurement.1]
  cases q.filter with
  | none => simp [cutAt_of_not_mem h.field.1]
  | some e => simp [cutAt_append h.field.1]

theorem compileSelection_text (h : q.WellFormed) :
    ∃ tree, q.filter.elim (tree = none) (fun e => Filter.parse e = .ok tree) ∧
      Query.compileSelection q.selectionText = .ok { q.target tree [] with lookback := none } := by
  have hm : q.measurement.toList.isEmpty = false := by simpa using h.measurement_ne
  have hf : q.field.toList.isEmpty = false := by simpa using h.field_ne
  simp only [Query.compileSelection, h.cutSelection_text, hm, hf, Bool.false_eq_true, if_false,
    String.ofList_toList]
  cases hfilter : q.filter with
  | none =>
    refine ⟨none, rfl, ?_⟩
    simp [Query.addFilter, target, hfilter, Target.ofField]
  | some e =>
    obtain ⟨tree, htree⟩ := (h.filter e hfilter).2
    refine ⟨tree, htree, ?_⟩
    simp [Query.addFilter, target, hfilter, Target.ofField, htree]

/-- Compiling a query that is put together from well-formed parts gives these parts. -/
theorem compile_text (h : q.WellFormed) :
    ∃ (tree : Option TagPredicate) (templates : List StageTemplate),
      q.filter.elim (tree = none) (fun e => Filter.parse e = .ok tree) ∧
      List.Forall₂ (fun s t => StageKind.ofName? s.name = some t.kind ∧
        t.args = s.args.map Argument.ofText) q.stages templates ∧
      Query.compile q.text = .ok (q.target tree templates) ∧
      ((StageChain.mk templates).mode = .streaming ↔ ∀ t ∈ templates, ∀ f, t.kind ≠ .window f) := by
  obtain ⟨tree, htree, hselection⟩ := h.compileSelection_text
  obtain ⟨templates, hkinds, hstages⟩ := WrittenStage.exists_compileStages h.stages
  refine ⟨tree, templates, htree, hkinds, ?_, ?_⟩
  · have hne : q.text.isEmpty = false := by simp [text, selectionText]
    have hfree : ∀ piece ∈ q.selectionText :: q.stages.map WrittenStage.text, ArrowFree piece := by
      refine List.forall_mem_cons.2 ⟨h.arrowFree_selectionText, ?_⟩
      exact List.forall_mem_map.2 fun s hs => (h.stages s hs).arrowFree_text
    have hlast : ∀ last ∈ (q.stages.map WrittenStage.text).getLast?, last ≠ [] := by
      intro last hl
      obtain ⟨s, hs, rfl⟩ := List.mem_map.1 (List.mem_of_getLast? hl)
      exact (h.stages s hs).text_ne_nil
    rw [Query.compile, hne, if_neg Bool.false_ne_true, text, String.toList_ofList]
    simp only [h.cutLookback_text, arrowPieces_joined hfree, firstAndRest,
      dropTrailingEmpty_of_getLast_ne_nil hlast, hselection, hstages]
    simp [target, Function.comp_def]
  · simp only [StageChain.mode_eq_streaming_iff, StageKind.isStreaming_iff]

end WellFormed

/-- Four parts end in `=` right before a separator that begins with it, and dots and `<` stand in the filter. -/
def narrowQuery : WrittenQuery where
  lookback := some ("7d", .upTo)
  measurement := "=m="
  field := "f="
  filter := some "a=1.5|b<r.x="
  stages := [⟨"mult", ["2.5", "", "x="]⟩, ⟨"rate", []⟩, ⟨"mean", ["60"]⟩]

theorem wellFormed_narrowQuery : narrowQuery.WellFormed where
  lookback := by
    rintro l ⟨⟩
    decide
  measurement_ne := by decide
  measurement := by decide
  measurement_start := by
    rintro l ⟨⟩
    nofun
  field_ne := by decide
  field := by decide
  filter := by
    rintro e ⟨⟩
    exact ⟨by decide, _, rfl⟩
  stages := by
    simp only [narrowQuery, List.forall_mem_cons]
    exact ⟨⟨by decide, by simp, _, rfl⟩, ⟨by decide, by simp, _, rfl⟩, ⟨by decide, by simp, _, rfl⟩,
      nofun⟩

theorem compile_narrowQuery :
    narrowQuery.WellFormed ∧ ∃ tree templates,
      Filter.parse "a=1.5|b<r.x=" = .ok tree ∧
      templates.map StageTemplate.kind = [.constant .multiply, .derivative, .window .mean] ∧
      Query.compile "7d<==m=.f=.a=1.5|b<r.x==>mult,2.5,,x==>rate=>mean,60" =
        .ok (narrowQuery.target tree templates) := by
  obtain ⟨tree, templates, hfilter, hkinds, hcompile, -⟩ := WellFormed.compile_text wellFormed_narrowQuery
  refine ⟨wellFormed_narrowQuery, tree, templates, hfilter, ?_, hcompile⟩
  obtain _ | ⟨⟨hmult, -⟩, _ | ⟨⟨hrate, -⟩, _ | ⟨⟨hmean, -⟩, _ | _⟩⟩⟩ := hkinds
  simp only [List.map_cons, List.map_nil, List.cons.injEq, and_true]
  exact ⟨Option.some.inj hmult.symm, Option.some.inj hrate.symm, Option.some.inj hmean.symm⟩

end WrittenQuery
end SeriesQuery
