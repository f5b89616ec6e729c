import SeriesQuery.Point
import SeriesQuery.Proofs.Sort.ByKey

/-! # Points in the order of time

Points that are stably sorted by time are in the order of time, and those of one time are the ones that there
were, in the order that they had. At most one list is like that, and it can be put together from the points
before a time and those from that time on.
-/

namespace SeriesQuery

/-- No point is earlier than one before it. -/
def InTimeOrder (points : List Point) : Prop := points.Pairwise fun p q => p.time ≤ q.time

instance (points : List Point) : Decidable (InTimeOrder points) :=
  inferInstanceAs (Decidable (points.Pairwise fun p q => p.time ≤ q.time))

/-- Every point is later than those before it. -/
def InStrictTimeOrder (points : List Point) : Prop := points.Pairwise fun p q => p.time < q.time

theorem InStrictTimeOrder.inTimeOrder {points : List Point} (h : InStrictTimeOrder points) :
    InTimeOrder points := h.imp Int64.le_of_lt

/-- The points are those of `points`, in the order of time; ties keep their order. -/
structure StablySorted (points sorted : List Point) : Prop where
  inTimeOrder : InTimeOrder sorted
  ties (time : Int64) : (sorted.filter fun p => p.time = time) = points.filter fun p => p.time = time

namespace StablySorted

variable {points a b : List Point}

theorem unique (ha : StablySorted points a) (hb : StablySorted points b) : a = b :=
  SortByKey.eq_of_ties ha.inTimeOrder hb.inTimeOrder fun time => (ha.ties time).trans (hb.ties time).symm

theorem mem_iff (h : StablySorted points a) {p : Point} : p ∈ a ↔ p ∈ points :=
  SortByKey.mem_iff_of_ties h.ties

/-- Points in the order of time stay as they are. -/
theorem of_inTimeOrder (h : InTimeOrder points) : StablySorted points points := ⟨h, fun _ => rfl⟩

/-- The points before a time and those from that time on can be sorted apart. -/
theorem append (cut : Int64) {front back : List Point}
    (hfront : StablySorted (points.filter fun p => p.time < cut) front)
    (hback : StablySorted (points.filter fun p => cut ≤ p.time) back) :
    StablySorted points (front ++ back) where
  inTimeOrder := by
    refine List.pairwise_append.2 ⟨hfront.inTimeOrder, hback.inTimeOrder, fun p hp q hq => ?_⟩
    have hbefore : p.time < cut := by simpa using (List.mem_filter.1 (hfront.mem_iff.1 hp)).2
    have hbehind : cut ≤ q.time := by simpa using (List.mem_filter.1 (hback.mem_iff.1 hq)).2
    exact Int64.le_of_lt (Int64.lt_of_lt_of_le hbefore hbehind)
  ties time := by
    rw [List.filter_append, hfront.ties, hback.ties, List.filter_filter, List.filter_filter]
    by_cases ht : time < cut
    · have hnone : (points.filter fun p => decide (p.time = time) && decide (cut ≤ p.time)) = [] := by
        refine List.filter_eq_nil_iff.2 fun p _ => ?_
        simp only [Bool.and_eq_true, decide_eq_true_eq, not_and]
        rintro rfl
        exact Int64.not_le.2 ht
      rw [hnone, List.append_nil]
      refine List.filter_congr fun p _ => ?_
      by_cases hp : p.time = time <;> simp [hp, ht]
    · have hnone : (points.filter fun p => decide (p.time = time) && decide (p.time < cut)) = [] := by
        refine List.filter_eq_nil_iff.2 fun p _ => ?_
        simp only [Bool.and_eq_true, decide_eq_true_eq, not_and]
        rintro rfl
        exact ht
      rw [hnone, List.nil_append]
      refine List.filter_congr fun p _ => ?_
      by_cases hp : p.time = time <;> simp [hp, Int64.not_lt.1 ht]

end StablySorted
end SeriesQuery
