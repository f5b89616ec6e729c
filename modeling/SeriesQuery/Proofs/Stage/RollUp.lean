import SeriesQuery.Proofs.Stage.Streaming
import SeriesQuery.Proofs.Stage.Windows

/-! # Windows of windows

Windows whose length is a multiple of that of finer ones are each made of whole finer windows. So a window can
be aggregated from the aggregates of the finer windows in it: sums, extremes and counts in whatever order the
points are, and the first and the last point when the points are in the order of time. What comes of the finer
windows has a double among its values exactly when the points have, so that integers stay integers alike.
-/

namespace SeriesQuery

namespace Aggregation

/-- How the aggregates of finer windows become that of a window: counts are added up. -/
def outer : Aggregation → Aggregation
  | count => sum
  | f => f

/-- Whether the points can be aggregated in two steps. -/
def RollsUp (points : List Point) : Aggregation → Prop
  | mean => False
  | sum | min | max => AllIntegers points
  | count => True
  | first | last => InTimeOrder points

theorem RollsUp.filter {f : Aggregation} {points : List Point} (h : f.RollsUp points) (test : Point → Bool) :
    f.RollsUp (points.filter test) := by
  cases f with
  | mean => exact h
  | count => trivial
  | first | last => exact List.Pairwise.filter _ h
  | sum | min | max => exact fun p hp => h p (List.mem_of_mem_filter hp)

/-- The point that stands for a window, if one of its points does. -/
def selected? : Aggregation → List Point → Option Point
  | first, points => points.head?
  | last, points => points.getLast?
  | _, _ => none

variable {f : Aggregation} {points : List Point}

theorem mem_of_selected? {p : Point} (h : f.selected? points = some p) : p ∈ points := by
  cases f with
  | first => exact List.mem_of_head? h
  | last => exact List.mem_of_getLast? h
  | _ => cases h

/-- What is selected from the part that is selected is selected from the whole. -/
theorem selected?_flatMap (part : Point → List Point) {p q : Point} (hq : f.selected? points = some q)
    (hp : f.selected? (part q) = some p) : f.selected? (points.flatMap part) = some p := by
  cases f with
  | first =>
    obtain ⟨rest, rfl⟩ := List.head?_eq_some_iff.1 hq
    rw [selected?, List.flatMap_cons, List.head?_append]
    exact congrArg (Option.or · _) hp
  | last =>
    obtain ⟨front, rfl⟩ := List.getLast?_eq_some_iff.1 hq
    rw [selected?, List.flatMap_append, List.flatMap_singleton, List.getLast?_append]
    exact congrArg (Option.or · _) hp
  | _ => cases hq

/-- How a selected point stands for its window. -/
def represented (points : List Point) (p : Point) : Value :=
  if AllIntegers points then .int p.raw else .float p.toDouble

theorem toDouble_represented {p : Point} (hp : p ∈ points) : (represented points p).toDouble = p.toDouble := by
  rw [represented]
  split
  · rename_i hintegers
    rw [Point.toDouble, Point.value, hintegers p hp]
    rfl
  · rfl

theorem result_iff_of_selects (hf : f = first ∨ f = last) {v : Value} :
    f.Result points v ↔ ∃ p, f.selected? points = some p ∧ represented points p = v := by
  have hstays : f.StaysInteger points ↔ AllIntegers points := by
    apply staysInteger_iff_of_ne <;> rcases hf with rfl | rfl <;> decide
  have hints (n : Int64) : f.OfIntegers (points.map Point.raw) n ↔
      ∃ p, f.selected? points = some p ∧ p.raw = n := by
    obtain rfl | rfl := hf <;> simp [OfIntegers, selected?]
  have hdoubles (d : Double) : f.OfDoubles (points.map Point.toDouble) d ↔
      ∃ p, f.selected? points = some p ∧ p.toDouble = d := by
    obtain rfl | rfl := hf <;> simp [OfDoubles, selected?]
  by_cases h : AllIntegers points
  · simp only [represented, if_pos h]
    cases v with
    | int n => simp [Result, hstays, h, hints]
    | float d => simp [Result, hstays, h]
  · simp only [represented, if_neg h]
    cases v with
    | int n => simp [Result, hstays, h]
    | float d => simp [Result, hstays, h, hdoubles]

end Aggregation

namespace WindowStage

variable {w coarse : WindowStage} {points parts output : List Point} {start : Int}

/-- A window is in a coarser one when one of its times is. -/
theorem startOf_within_iff (pos : 0 < w.length) {length : Int} (finer : w.length ∣ length)
    (aligned : w.length ∣ start) (time : Int64) :
    start ≤ w.startOf time ∧ w.startOf time < start + length ↔
      start ≤ time.toInt ∧ time.toInt < start + length := by
  rw [le_startOf_iff pos aligned, ← Int.not_le, ← Int.not_le, le_startOf_iff pos (Int.dvd_add aligned finer)]

theorem startOf_eq_of_eq_startOf (pos : 0 < w.length) (hcoarse : 0 < coarse.length)
    (finer : w.length ∣ coarse.length) {p q : Point} (hq : q.time.toInt = w.startOf p.time) :
    coarse.startOf q.time = coarse.startOf p.time := by
  have aligned := coarse.length_dvd_startOf p.time
  rw [startOf_eq_iff hcoarse, hq, startOf_within_iff pos finer (Int.dvd_trans finer aligned), ← startOf_eq_iff hcoarse]

theorem startsFit_of_finer (pos : 0 < w.length) (hcoarse : 0 < coarse.length) (finer : w.length ∣ coarse.length)
    (fits : coarse.StartsFit points) : w.StartsFit points := by
  intro p hp
  have hle : coarse.startOf p.time ≤ w.startOf p.time := by
    rw [le_startOf_iff pos (Int.dvd_trans finer (coarse.length_dvd_startOf p.time))]
    exact Int.ediv_mul_le _ (Int.ne_of_gt hcoarse)
  exact Int.le_trans (fits p hp) hle

theorem startsFit_apply (pos : 0 < w.length) (hcoarse : 0 < coarse.length) (finer : w.length ∣ coarse.length)
    (fits : coarse.StartsFit points) : coarse.StartsFit (w.apply points) := by
  intro q hq
  obtain ⟨p, hp, htime⟩ := exists_of_mem_apply (startsFit_of_finer pos hcoarse finer fits) hq
  rw [startOf_eq_of_eq_startOf pos hcoarse finer htime]
  exact fits p hp

namespace Summarizes

/-- In a coarser window are the windows of the points in it. -/
theorem members (pos : 0 < w.length) (finer : w.length ∣ coarse.length) (aligned : coarse.length ∣ start)
    (h : w.Summarizes points parts) :
    w.Summarizes (coarse.members points start) (coarse.members parts start) where
  ascending := h.ascending.filter _
  aligned q hq := h.aligned q (List.mem_of_mem_filter hq)
  occurs s hs := by
    have hwithin {p : Point} (hp : s ≤ p.time.toInt ∧ p.time.toInt < s + w.length) :
        start ≤ s ∧ s < start + coarse.length ↔ start ≤ p.time.toInt ∧ p.time.toInt < start + coarse.length := by
      rw [← (startOf_eq_iff pos).2 ⟨hs, hp⟩]
      exact startOf_within_iff pos finer (Int.dvd_trans finer aligned) p.time
    constructor
    · rintro ⟨q, hq, rfl⟩
      obtain ⟨hq, hin⟩ := List.mem_filter.1 hq
      obtain ⟨p, hp, htime⟩ := (h.occurs _ hs).1 ⟨q, hq, rfl⟩
      refine ⟨p, List.mem_filter.2 ⟨hp, ?_⟩, htime⟩
      exact decide_eq_true ((hwithin htime).1 (of_decide_eq_true hin))
    · rintro ⟨p, hp, htime⟩
      obtain ⟨hp, hin⟩ := List.mem_filter.1 hp
      obtain ⟨q, hq, rfl⟩ := (h.occurs _ hs).2 ⟨p, hp, htime⟩
      refine ⟨q, List.mem_filter.2 ⟨hq, ?_⟩, rfl⟩
      exact decide_eq_true ((hwithin htime).2 (of_decide_eq_true hin))
  result q hq := by
    obtain ⟨hq, hin⟩ := List.mem_filter.1 hq
    have hsame : w.members (coarse.members points start) q.time.toInt = w.members points q.time.toInt := by
      rw [WindowStage.members, WindowStage.members, List.filter_filter]
      refine List.filter_congr fun p _ => ?_
      rw [Bool.and_eq_left_iff_imp, decide_eq_true_eq, decide_eq_true_eq]
      intro hp
      rw [← startOf_within_iff pos finer (Int.dvd_trans finer aligned),
        (startOf_eq_iff pos).2 ⟨h.aligned q hq, hp⟩]
      exact of_decide_eq_true hin
    rw [hsame]
    exact h.result q hq

/-- Points in the order of time are those of the windows, one window behind the other. -/
theorem flatMap_members_of_inTimeOrder (pos : 0 < w.length) (h : w.Summarizes points parts)
    (order : InTimeOrder points) : (parts.flatMap fun q => w.members points q.time.toInt) = points := by
  have sorted : points.Pairwise fun p q => w.startOf p.time ≤ w.startOf q.time := by
    refine order.imp fun {p q} hle => ?_
    have hquotients := Int.ediv_le_ediv pos (Int64.le_iff_toInt_le.1 hle)
    exact Int.mul_le_mul_of_nonneg_right hquotients (Int.le_of_lt pos)
  have ascending : (parts.map fun q => q.time.toInt).Pairwise (· ≤ ·) := by
    rw [List.pairwise_map]
    exact h.ascending.inTimeOrder.imp Int64.le_iff_toInt_le.1
  rw [h.flatMap_members pos, OrderedMap.flatMap_valuesOf_of_pairwise _ h.nodup_starts ascending
    (h.startOf_mem_starts pos) sorted, List.flatMap_singleton']

/-- A window becomes an integer just when its aggregate is one. -/
theorem floating_eq_false_iff (h : w.Summarizes points parts) {q : Point} (hq : q ∈ parts) :
    q.floating = false ↔ w.aggregation.StaysInteger (w.members points q.time.toInt) := by
  have hresult := h.result q hq
  rw [Point.value] at hresult
  split at hresult
  · rename_i hfloating
    exact iff_of_false (by simp [hfloating]) hresult.1
  · rename_i hfloating
    exact iff_of_true (by simpa using hfloating) hresult.1

theorem ofIntegers_raw (h : w.Summarizes points parts) {q : Point} (hq : q ∈ parts)
    (integer : q.floating = false) :
    w.aggregation.OfIntegers ((w.members points q.time.toInt).map Point.raw) q.raw := by
  have hresult := h.result q hq
  rw [Point.value, integer] at hresult
  exact hresult.2

theorem mem_members_iff {p : Point} : p ∈ w.members points start ↔
    p ∈ points ∧ start ≤ p.time.toInt ∧ p.time.toInt < start + w.length := by
  rw [WindowStage.members, List.mem_filter, decide_eq_true_eq]

theorem exists_mem_members (pos : 0 < w.length) (h : w.Summarizes points parts) {p : Point} (hp : p ∈ points) :
    ∃ q ∈ parts, p ∈ w.members points q.time.toInt := by
  have hmem := (h.perm_flatMap_members pos).mem_iff.2 hp
  exact List.mem_flatMap.1 hmem

/-- The windows are integers throughout when the points are. -/
theorem allIntegers_iff (pos : 0 < w.length) (h : w.Summarizes points parts) (hcount : w.aggregation ≠ .count)
    (hmean : w.aggregation ≠ .mean) : AllIntegers parts ↔ AllIntegers points := by
  have hpart {q : Point} (hq : q ∈ parts) :
      q.floating = false ↔ AllIntegers (w.members points q.time.toInt) := by
    rw [h.floating_eq_false_iff hq, Aggregation.staysInteger_iff_of_ne hcount hmean]
  constructor
  · intro hparts p hp
    obtain ⟨q, hq, hmem⟩ := h.exists_mem_members pos hp
    exact (hpart hq).1 (hparts q hq) p hmem
  · intro hpoints q hq
    exact (hpart hq).2 fun p hp => hpoints p (mem_members_iff.1 hp).1

variable {v : Value}

theorem sum_of_counts (pos : 0 < w.length) (h : w.Summarizes points parts) (count : w.aggregation = .count)
    (hv : Aggregation.sum.Result parts v) : Aggregation.count.Result points v := by
  have hparts : AllIntegers parts := by
    intro q hq
    rw [h.floating_eq_false_iff hq, count]
    exact .inl rfl
  cases v with
  | int n =>
    refine ⟨.inl rfl, ?_⟩
    obtain ⟨-, hn⟩ := hv
    rw [Aggregation.OfIntegers, List.map_map] at hn
    rw [Aggregation.OfIntegers, List.length_map, hn]
    exact h.ofInt_sum_counts pos count
  | float d => exact absurd (.inr ⟨by decide, hparts⟩) hv.1

/-- The sums of the windows add up to the sum of the points, as far as 64 bits can tell. -/
theorem ofInt_sum_sums (pos : 0 < w.length) (h : w.Summarizes points parts) (sum : w.aggregation = .sum)
    (integers : AllIntegers points) :
    Int64.ofInt (parts.map fun q => q.raw.toInt).sum = .ofInt (points.map fun p => p.raw.toInt).sum := by
  have hparts : AllIntegers parts := (h.allIntegers_iff pos (by simp [sum]) (by simp [sum])).2 integers
  have hsums : ∀ q ∈ parts, q.raw = .ofInt
      (((w.members points q.time.toInt).map Point.raw).map Int64.toInt).sum := by
    intro q hq
    have hraw := h.ofIntegers_raw hq (hparts q hq)
    rwa [sum] at hraw
  refine (ofInt_sum_raw hsums).trans (congrArg Int64.ofInt ?_)
  rw [← ((h.perm_flatMap_members pos).map fun p => p.raw.toInt).sum_eq]
  rw [List.map_flatMap, List.flatMap_def, List.sum_flatten, List.map_map]
  simp only [List.map_map, Function.comp_def]

/-- What is extreme among the extremes of the windows is so among all points. -/
theorem extreme_of_extremes (pos : 0 < w.length) (h : w.Summarizes points parts) (le : Int64 → Int64 → Prop)
    (trans : ∀ {a b c}, le a b → le b c → le a c)
    (hparts : ∀ q ∈ parts, q.raw ∈ (w.members points q.time.toInt).map Point.raw ∧
      ∀ n ∈ (w.members points q.time.toInt).map Point.raw, le q.raw n)
    {n : Int64} (hn : n ∈ parts.map Point.raw ∧ ∀ m ∈ parts.map Point.raw, le n m) :
    n ∈ points.map Point.raw ∧ ∀ m ∈ points.map Point.raw, le n m := by
  obtain ⟨hmem, hextreme⟩ := hn
  constructor
  · obtain ⟨q, hq, rfl⟩ := List.mem_map.1 hmem
    obtain ⟨p, hp, hraw⟩ := List.mem_map.1 (hparts q hq).1
    exact List.mem_map.2 ⟨p, (mem_members_iff.1 hp).1, hraw⟩
  · rw [List.forall_mem_map] at hextreme ⊢
    intro p hp
    obtain ⟨q, hq, hmem⟩ := h.exists_mem_members pos hp
    exact trans (hextreme q hq) ((hparts q hq).2 _ (List.mem_map_of_mem hmem))

/-- A sum of sums, a least of least and a greatest of greatest integers is that of all points. -/
theorem ofIntegers_of_parts (pos : 0 < w.length) (h : w.Summarizes points parts)
    (hf : w.aggregation = .sum ∨ w.aggregation = .min ∨ w.aggregation = .max) (integers : AllIntegers points)
    (hparts : AllIntegers parts) {n : Int64} (hn : w.aggregation.OfIntegers (parts.map Point.raw) n) :
    w.aggregation.OfIntegers (points.map Point.raw) n := by
  have hraw : ∀ q ∈ parts, w.aggregation.OfIntegers ((w.members points q.time.toInt).map Point.raw) q.raw :=
    fun q hq => h.ofIntegers_raw hq (hparts q hq)
  rcases hf with sum | min | max
  · rw [sum, Aggregation.OfIntegers, List.map_map] at hn ⊢
    exact hn.trans (h.ofInt_sum_sums pos sum integers)
  · rw [min] at hraw hn ⊢
    exact h.extreme_of_extremes pos (· ≤ ·) Int64.le_trans hraw hn
  · rw [max] at hraw hn ⊢
    exact h.extreme_of_extremes pos (· ≥ ·) (fun hab hbc => Int64.le_trans hbc hab) hraw hn

theorem result_of_integers (pos : 0 < w.length) (h : w.Summarizes points parts)
    (hf : w.aggregation = .sum ∨ w.aggregation = .min ∨ w.aggregation = .max) (integers : AllIntegers points)
    (hv : w.aggregation.Result parts v) : w.aggregation.Result points v := by
  have hcount : w.aggregation ≠ .count := by rcases hf with hf | hf | hf <;> simp [hf]
  have hmean : w.aggregation ≠ .mean := by rcases hf with hf | hf | hf <;> simp [hf]
  have hparts : AllIntegers parts := (h.allIntegers_iff pos hcount hmean).2 integers
  cases v with
  | int n => exact ⟨.inr ⟨hmean, integers⟩, h.ofIntegers_of_parts pos hf integers hparts hv.2⟩
  | float d => exact absurd (.inr ⟨hmean, hparts⟩) hv.1

theorem selected_of_selected (pos : 0 < w.length) (h : w.Summarizes points parts)
    (selects : w.aggregation = .first ∨ w.aggregation = .last) (order : InTimeOrder points)
    (hv : w.aggregation.Result parts v) : w.aggregation.Result points v := by
  have hintegers : AllIntegers parts ↔ AllIntegers points :=
    h.allIntegers_iff pos (by obtain hf | hf := selects <;> simp [hf]) (by obtain hf | hf := selects <;> simp [hf])
  rw [Aggregation.result_iff_of_selects selects] at hv ⊢
  obtain ⟨q, hq, rfl⟩ := hv
  have hpart := h.result q (Aggregation.mem_of_selected? hq)
  rw [Aggregation.result_iff_of_selects selects] at hpart
  obtain ⟨p, hp, hvalue⟩ := hpart
  have hselected := Aggregation.selected?_flatMap (fun q => w.members points q.time.toInt) hq hp
  rw [h.flatMap_members_of_inTimeOrder pos order] at hselected
  refine ⟨p, hselected, ?_⟩
  by_cases hpoints : AllIntegers points
  · have hmembers : AllIntegers (w.members points q.time.toInt) := fun r hr => hpoints r (mem_members_iff.1 hr).1
    have hinteger : q.floating = false := hintegers.2 hpoints q (Aggregation.mem_of_selected? hq)
    rw [Aggregation.represented, if_pos hmembers, Point.value, hinteger] at hvalue
    rw [Aggregation.represented, if_pos hpoints, Aggregation.represented, if_pos (hintegers.2 hpoints)]
    exact hvalue
  · have hdouble := Aggregation.toDouble_represented (Aggregation.mem_of_selected? hp)
    rw [hvalue] at hdouble
    rw [Aggregation.represented, if_neg hpoints, Aggregation.represented, if_neg (mt hintegers.1 hpoints)]
    exact congrArg Value.float hdouble.symm

/-- The aggregate of the windows of a window is the aggregate of its points. -/
theorem result_of_parts (pos : 0 < w.length) (h : w.Summarizes points parts)
    (rolls : w.aggregation.RollsUp points) (hv : w.aggregation.outer.Result parts v) :
    w.aggregation.Result points v := by
  obtain ⟨f, length⟩ := w
  cases f with
  | mean => exact rolls.elim
  | sum => exact h.result_of_integers pos (.inl rfl) rolls hv
  | min => exact h.result_of_integers pos (.inr (.inl rfl)) rolls hv
  | max => exact h.result_of_integers pos (.inr (.inr rfl)) rolls hv
  | count => exact h.sum_of_counts pos rfl hv
  | last => exact h.selected_of_selected pos (.inr rfl) rolls hv
  | first => exact h.selected_of_selected pos (.inl rfl) rolls hv

/-- Windows of finer windows are what the points make in the coarser windows alone. -/
theorem of_finer {f : Aggregation} {fine length : Int} (pos : 0 < fine) (finer : fine ∣ length)
    (rolls : f.RollsUp points) (h : Summarizes ⟨f, fine⟩ points parts)
    (hcoarse : Summarizes ⟨f.outer, length⟩ parts output) : Summarizes ⟨f, length⟩ points output where
  ascending := hcoarse.ascending
  aligned := hcoarse.aligned
  occurs start aligned := by
    rw [hcoarse.occurs start aligned]
    have hfine : fine ∣ start := Int.dvd_trans finer aligned
    have hwithin (time : Int64) := startOf_within_iff (w := ⟨f, fine⟩) pos finer hfine time
    constructor
    · rintro ⟨q, hq, hin⟩
      obtain ⟨p, hp, hstart⟩ := h.exists_member pos hq
      exact ⟨p, hp, (hwithin p.time).1 (hstart ▸ hin)⟩
    · rintro ⟨p, hp, hin⟩
      obtain ⟨q, hq, hstart⟩ := List.mem_map.1 (h.startOf_mem_starts pos p hp)
      exact ⟨q, hq, hstart ▸ (hwithin p.time).2 hin⟩
  result q hq := by
    have hparts := h.members pos finer (hcoarse.aligned q hq)
    exact result_of_parts (w := ⟨f, fine⟩) pos hparts (rolls.filter _) (hcoarse.result q hq)

end Summarizes

/-- Windows of finer windows, as the stages make them. -/
theorem apply_apply {f : Aggregation} {fine length : Int} (pos : 0 < fine) (hlength : 0 < length)
    (finer : fine ∣ length) (rolls : f.RollsUp points) (fits : StartsFit ⟨f, length⟩ points) :
    apply ⟨f.outer, length⟩ (apply ⟨f, fine⟩ points) = apply ⟨f, length⟩ points := by
  have hfine : Summarizes ⟨f, fine⟩ points (apply ⟨f, fine⟩ points) :=
    summarizes_apply pos (startsFit_of_finer pos hlength finer fits)
  have houter : Summarizes ⟨f.outer, length⟩ _ (apply ⟨f.outer, length⟩ (apply ⟨f, fine⟩ points)) :=
    summarizes_apply hlength (startsFit_apply pos hlength finer fits)
  exact (hfine.of_finer pos finer rolls houter).unique (summarizes_apply hlength fits)

end WindowStage

/-- Windows of windows: each step aggregates in windows of a number of seconds. -/
def StageChain.windows (steps : List (Aggregation × Int64)) : StageChain :=
  ⟨steps.map fun step => ⟨.window step.1, [.int step.2]⟩⟩

namespace Pipeline

open StageChain (windows freshStages)

/-- Windows in two steps, the seconds of the first dividing those of the second, give what the second step
alone gives of the points. -/
theorem run_windows_of_dvd {f : Aggregation} {a b : Int64} {fine coarse : WindowStage}
    (ha : WindowStage.make f (.int a) = .ok fine) (hb : WindowStage.make f (.int b) = .ok coarse)
    (divides : a.toInt ∣ b.toInt) {points : List Point} (fits : coarse.StartsFit points)
    (rolls : f.RollsUp points) (asked : ExecutionMode) :
    ∃ twice once, build (windows [(f, a), (f.outer, b)]) asked = .ok twice ∧
      build (windows [(f, b)]) asked = .ok once ∧ twice.run points = once.run points := by
  have pos := WindowStage.length_pos_of_make ha
  have hlength := WindowStage.length_pos_of_make hb
  obtain ⟨_, ⟨⟩, hpos, hfits, rfl⟩ := WindowStage.make_eq_ok_iff.1 ha
  obtain ⟨_, ⟨⟩, hposCoarse, hfitsCoarse, rfl⟩ := WindowStage.make_eq_ok_iff.1 hb
  have houter : WindowStage.make f.outer (.int b) = .ok ⟨f.outer, b.toInt * 1000⟩ :=
    WindowStage.make_eq_ok_iff.2 ⟨b, rfl, hposCoarse, hfitsCoarse, rfl⟩
  have htwice : freshStages (windows [(f, a), (f.outer, b)]).templates =
      .ok [.window ⟨f, a.toInt * 1000⟩, .window ⟨f.outer, b.toInt * 1000⟩] := by
    simp [windows, freshStages, StageTemplate.fresh, StageKind.fresh, ha, houter]
  have honce : freshStages (windows [(f, b)]).templates = .ok [.window ⟨f, b.toInt * 1000⟩] := by
    simp [windows, freshStages, StageTemplate.fresh, StageKind.fresh, hb]
  obtain ⟨twice, hbuildTwice, hrunTwice⟩ := exists_build htwice asked
  obtain ⟨once, hbuildOnce, hrunOnce⟩ := exists_build honce asked
  refine ⟨twice, once, hbuildTwice, hbuildOnce, ?_⟩
  have finer : a.toInt * 1000 ∣ b.toInt * 1000 := Int.mul_dvd_mul_right 1000 divides
  rw [hrunTwice, hrunOnce]
  exact WindowStage.apply_apply pos hlength finer rolls fits

/-- Integers on both sides of the epoch, the later ones first; two of them add up beyond 64 bits. -/
def scattered : List Point :=
  [.ofInt 95000 Int64.maxValue, .ofInt (-1) 5, .ofInt 61000 1, .ofInt (-59000) 7, .ofInt 30000 (-2)]

theorem run_scattered_sums :
    WindowStage.make .sum (.int 20) = .ok ⟨.sum, 20000⟩ ∧ WindowStage.make .sum (.int 60) = .ok ⟨.sum, 60000⟩ ∧
      (20 : Int64).toInt ∣ (60 : Int64).toInt ∧ WindowStage.StartsFit ⟨.sum, 60000⟩ scattered ∧
      Aggregation.sum.RollsUp scattered ∧
      ∃ twice once, build (windows [(.sum, 20), (.sum, 60)]) .materialized = .ok twice ∧
        build (windows [(.sum, 60)]) .materialized = .ok once ∧ twice.run scattered = once.run scattered := by
  have hfine : WindowStage.make .sum (.int 20) = .ok ⟨.sum, 20000⟩ := by rfl
  have hcoarse : WindowStage.make .sum (.int 60) = .ok ⟨.sum, 60000⟩ := by rfl
  have divides : (20 : Int64).toInt ∣ (60 : Int64).toInt := by decide
  have fits : WindowStage.StartsFit ⟨.sum, 60000⟩ scattered := by
    unfold WindowStage.StartsFit
    decide
  have rolls : Aggregation.sum.RollsUp scattered := by
    change AllIntegers scattered
    decide
  exact ⟨hfine, hcoarse, divides, fits, rolls, run_windows_of_dvd hfine hcoarse divides fits rolls .materialized⟩

end Pipeline
end SeriesQuery
