import SeriesQuery.Proofs.Execution.Fetching

/-! # Assembled output

Points by series key become one series for each key, in the order of the keys. Nothing of a point is lost: the
values with their times, turned back into points, are the points of the key bit by bit, stably sorted by time.
There is only one output like that.
-/

namespace SeriesQuery.OutputSeries

def points (s : OutputSeries) : List Point := s.datapoints.map fun d => .ofValue d.2 d.1

/-- One series for each key, in strictly ascending order of the keys, and in each of them the points of the key,
stably sorted by time. -/
structure IsAssembly (byKey : OrderedMap String (List Point)) (output : List OutputSeries) : Prop where
  ascending : (output.map target).Pairwise (· < ·)
  keys (key : String) : key ∈ output.map target ↔ ∃ points, byKey.find? key = some points
  sorted {s : OutputSeries} (h : s ∈ output) : ∃ points, byKey.find? s.target = some points ∧
    StablySorted points s.points ∧ s.points.Perm points

theorem points_ofPoints (key : String) (points : List Point) : (ofPoints key points).points = points := by
  simp [ofPoints, OutputSeries.points, Function.comp_def]

/-- A series shows no more than its points. -/
theorem ofPoints_points (s : OutputSeries) : ofPoints s.target s.points = s := by
  simp [ofPoints, points, Function.comp_def]

theorem points_sortByTime (s : OutputSeries) : s.sortByTime.points = Target.sortPoints s.points := by
  rw [points, sortByTime, Target.sortPoints, points]
  apply List.map_mergeSort
  intro a _ b _
  simp

theorem points_sortByTime_ofPoints (key : String) (points : List Point) :
    (ofPoints key points).sortByTime.points = Target.sortPoints points := by
  rw [points_sortByTime, points_ofPoints]

theorem map_target_assemble (byKey : OrderedMap String (List Point)) :
    (assemble byKey).map target = byKey.keys := by
  rw [assemble_eq_map, List.map_map]
  rfl

theorem isAssembly_assemble (byKey : OrderedMap String (List Point)) : IsAssembly byKey (assemble byKey) := by
  constructor
  case ascending =>
    rw [map_target_assemble]
    exact byKey.ascending_keys.imp compareOfLessAndEq_eq_lt.1
  case keys =>
    intro key
    rw [map_target_assemble, OrderedMap.mem_keys_iff]
  case sorted =>
    intro s hs
    rw [assemble_eq_map] at hs
    obtain ⟨e, he, rfl⟩ := List.mem_map.1 hs
    have hsorted := Target.stablySorted_sortPoints e.2
    rw [points_sortByTime_ofPoints]
    exact ⟨e.2, OrderedMap.find?_eq_some_iff.2 he, hsorted, Target.perm_of_stablySorted hsorted⟩

/-- An assembly can be computed key by key. -/
theorem IsAssembly.eq_map {byKey : OrderedMap String (List Point)} {output : List OutputSeries}
    (h : IsAssembly byKey output) : output = (output.map target).map fun key =>
      ofPoints key (Target.sortPoints ((byKey.find? key).getD [])) := by
  rw [List.map_map]
  refine ((List.map_congr_left fun s hs => ?_).trans (List.map_id _)).symm
  obtain ⟨points, hfind, hsorted, -⟩ := h.sorted hs
  have hpoints : Target.sortPoints points = s.points := (Target.stablySorted_sortPoints points).unique hsorted
  rw [Function.comp_apply, hfind, Option.getD_some, hpoints, ofPoints_points, id]

/-- The output is one series for each key in ascending order, with the points of the key stably sorted by time and
not changed in a bit, and no other output is like that. -/
theorem isAssembly_iff_eq_assemble (byKey : OrderedMap String (List Point)) (output : List OutputSeries) :
    IsAssembly byKey output ↔ output = assemble byKey := by
  constructor
  · intro h
    have hassemble := isAssembly_assemble byKey
    have htargets : output.map target = (assemble byKey).map target :=
      OrderedMap.eq_of_ascending (h.ascending.imp compareOfLessAndEq_eq_lt.2)
        (hassemble.ascending.imp compareOfLessAndEq_eq_lt.2) fun key => (h.keys key).trans (hassemble.keys key).symm
    rw [h.eq_map, htargets, ← hassemble.eq_map]
  · rintro rfl
    exact isAssembly_assemble byKey

end SeriesQuery.OutputSeries
