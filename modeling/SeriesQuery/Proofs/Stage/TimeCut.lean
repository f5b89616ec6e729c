import SeriesQuery.Proofs.Stage.TimeOrder

/-! # Cutting points at a time

Constants look at one point at a time, and windows that begin at the cut never hold points from both sides of
it. So stages of these two kinds can run over the points before a time and the points from it on apart. The
invariant along a chain is that what comes of the first part stays before the cut and what comes of the second
part does not; a rate would look back over the cut, and a window that does not begin there would move points
from the second part before it.
-/

namespace SeriesQuery

def AllBefore (cut : Int64) (points : List Point) : Prop := ∀ p ∈ points, p.time < cut

def AllFrom (cut : Int64) (points : List Point) : Prop := ∀ p ∈ points, cut ≤ p.time

/-- The stage is a constant, or a window begins at the time. -/
def Stage.CutsAt (cut : Int64) : Stage → Prop
  | streaming (.constant _) => True
  | streaming (.derivative _) => False
  | window w => 0 < w.length ∧ w.length ∣ cut.toInt

namespace WindowStage

variable {w : WindowStage} {cut : Int64} {front back points : List Point}

/-- A window that begins at a multiple of its length or behind it holds only times from there on, and holds all of
them. -/
theorem le_startOf_iff (pos : 0 < w.length) {bound : Int} (aligned : w.length ∣ bound) (time : Int64) :
    bound ≤ w.startOf time ↔ bound ≤ time.toInt := by
  obtain ⟨k, rfl⟩ := aligned
  rw [startOf, Int.mul_comm w.length k, Int.mul_le_mul_right pos, Int.le_ediv_iff_mul_le pos]

/-- A time and the start of its window lie on the same side of a cut. -/
theorem cut_le_startOf_iff (pos : 0 < w.length) (begins : w.length ∣ cut.toInt) (time : Int64) :
    cut.toInt ≤ w.startOf time ↔ cut ≤ time := by
  rw [le_startOf_iff pos begins, Int64.le_iff_toInt_le]

theorem apply_append (pos : 0 < w.length) (begins : w.length ∣ cut.toInt) (hfront : AllBefore cut front)
    (hback : AllFrom cut back) : w.apply (front ++ back) = w.apply front ++ w.apply back := by
  have hentries : (w.group (front ++ back)).entries = (w.group front).entries ++ (w.group back).entries := by
    simp only [group_eq_gather]
    refine OrderedMap.entries_gather_append fun p hp q hq => Int.compare_eq_lt.2 ?_
    have hbefore := mt (cut_le_startOf_iff pos begins p.time).1 (Int64.not_le.2 (hfront p hp))
    exact Int.lt_of_lt_of_le (Int.not_le.1 hbefore) ((cut_le_startOf_iff pos begins q.time).2 (hback q hq))
  rw [apply, hentries, List.filterMap_append, apply, apply]

theorem exists_of_mem_apply (fits : w.StartsFit points) {q : Point} (h : q ∈ w.apply points) :
    ∃ p ∈ points, q.time.toInt = w.startOf p.time := by
  obtain ⟨e, he, hq⟩ := List.mem_filterMap.1 h
  obtain ⟨value, -, rfl⟩ := Option.map_eq_some_iff.1 hq
  obtain ⟨p, hp, hstart⟩ := exists_of_mem_group he
  refine ⟨p, hp, ?_⟩
  rw [Point.time_ofValue, ← hstart, toInt_ofInt_startOf (fits p hp)]

theorem startsFit_of_allFrom (pos : 0 < w.length) (begins : w.length ∣ cut.toInt) (h : AllFrom cut points) :
    w.StartsFit points := by
  intro p hp
  have hmin := Int64.le_iff_toInt_le.1 cut.minValue_le
  have hstart := (cut_le_startOf_iff pos begins p.time).2 (h p hp)
  omega

end WindowStage

/-- Constants keep whatever holds of the times. -/
theorem StreamStage.forall_time_run_constant {c : ConstantStage} {P : Int64 → Prop} {points : List Point}
    (h : ∀ p ∈ points, P p.time) : ∀ q ∈ ((constant c).run points).2, P q.time := by
  rw [run_constant]
  refine List.forall_mem_map.2 fun p hp => ?_
  rw [ConstantStage.time_apply]
  exact h p hp

namespace Stage

variable {s : Stage} {cut : Int64} {front back points : List Point}

theorem startsFit_append : s.StartsFit (front ++ back) ↔ s.StartsFit front ∧ s.StartsFit back := by
  cases s with
  | streaming s => exact iff_of_true trivial ⟨trivial, trivial⟩
  | window w => exact List.forall_mem_append

theorem startsFit_of_allFrom (cuts : s.CutsAt cut) (h : AllFrom cut points) : s.StartsFit points := by
  cases s with
  | streaming s => trivial
  | window w => exact WindowStage.startsFit_of_allFrom cuts.1 cuts.2 h

theorem run_append (cuts : s.CutsAt cut) (hfront : AllBefore cut front) (hback : AllFrom cut back) :
    (s.run (front ++ back)).2 = (s.run front).2 ++ (s.run back).2 := by
  match s with
  | streaming (.constant c) => simp only [run, StreamStage.run_constant, List.map_append]
  | streaming (.derivative d) => exact cuts.elim
  | window w => exact WindowStage.apply_append cuts.1 cuts.2 hfront hback

/-- What comes out of a stage lies on the same side of the cut as some point that went in. -/
theorem exists_same_side (cuts : s.CutsAt cut) (fits : s.StartsFit points) {q : Point} (hq : q ∈ (s.run points).2) :
    ∃ p ∈ points, (cut ≤ q.time ↔ cut ≤ p.time) := by
  match s with
  | streaming (.constant c) =>
    rw [run, StreamStage.run_constant] at hq
    obtain ⟨p, hp, rfl⟩ := List.mem_map.1 hq
    exact ⟨p, hp, by rw [ConstantStage.time_apply]⟩
  | streaming (.derivative d) => exact cuts.elim
  | window w =>
    obtain ⟨p, hp, htime⟩ := WindowStage.exists_of_mem_apply fits hq
    refine ⟨p, hp, ?_⟩
    rw [Int64.le_iff_toInt_le, htime, WindowStage.cut_le_startOf_iff cuts.1 cuts.2]

theorem allBefore_run (cuts : s.CutsAt cut) (h : AllBefore cut points) (fits : s.StartsFit points) :
    AllBefore cut (s.run points).2 := by
  intro q hq
  obtain ⟨p, hp, hside⟩ := exists_same_side cuts fits hq
  rw [← Int64.not_le, hside, Int64.not_le]
  exact h p hp

theorem allFrom_run (cuts : s.CutsAt cut) (h : AllFrom cut points) : AllFrom cut (s.run points).2 := by
  intro q hq
  obtain ⟨p, hp, hside⟩ := exists_same_side cuts (startsFit_of_allFrom cuts h) hq
  exact hside.2 (h p hp)

end Stage

variable {stages : List Stage} {cut : Int64}

/-- From a time on at which all windows begin, no window can start too early. -/
theorem startsFitAlong_of_allFrom (cuts : ∀ s ∈ stages, s.CutsAt cut) {points : List Point}
    (h : AllFrom cut points) : StartsFitAlong stages points := by
  induction stages generalizing points with
  | nil => trivial
  | cons s rest ih =>
    obtain ⟨hs, hrest⟩ := List.forall_mem_cons.1 cuts
    exact ⟨Stage.startsFit_of_allFrom hs h, ih hrest (Stage.allFrom_run hs h)⟩

/-- Stages that cut at a time run over the points before it and those from it on as if these were apart. -/
theorem runBuffered_append (cuts : ∀ s ∈ stages, s.CutsAt cut) {front back : List Point}
    (hfront : AllBefore cut front) (hback : AllFrom cut back) (fits : StartsFitAlong stages (front ++ back)) :
    runBuffered stages (front ++ back) = runBuffered stages front ++ runBuffered stages back ∧
      StartsFitAlong stages front := by
  induction stages generalizing front back with
  | nil => exact ⟨rfl, trivial⟩
  | cons s rest ih =>
    obtain ⟨hs, hrest⟩ := List.forall_mem_cons.1 cuts
    obtain ⟨hfirst, hlater⟩ := fits
    have hfirstFront := (Stage.startsFit_append.1 hfirst).1
    rw [Stage.run_append hs hfront hback] at hlater
    obtain ⟨happend, hlaterFront⟩ := ih hrest (Stage.allBefore_run hs hfront hfirstFront)
      (Stage.allFrom_run hs hback) hlater
    refine ⟨?_, hfirstFront, hlaterFront⟩
    rw [runBuffered, Stage.run_append hs hfront hback, happend]
    rfl

end SeriesQuery
