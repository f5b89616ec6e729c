import SeriesQuery.Proofs.Stage.RollUp

/-! # Windows that select a value

The least, the greatest, the first and the last value of a window are values of the window. In a window of integers
they are the integers themselves. A window with a double among its values has a double for its aggregate, so that
an integer of such a window counts as the double nearest to it, which is the same number only as long as its
significant bits fit.
-/

namespace SeriesQuery

theorem Value.isNaN_toDouble {v : Value} (h : v.number ≠ .nan) : v.toDouble.isNaN = false := by
  cases v with
  | int n => exact Double.isNaN_ofInt n
  | float d => simpa [number, toDouble] using h

namespace Aggregation

def Selects : Aggregation → Prop
  | min | max | first | last => True
  | mean | sum | count => False

variable {f : Aggregation} {points : List Point} {v : Value}

theorem ofDoubles_mem_of_extreme (hf : f = min ∨ f = max) {values : List Double} {d : Double}
    (h : f.OfDoubles values d) (number : ∃ d ∈ values, d.isNaN = false) : d ∈ values := by
  obtain rfl | rfl := hf
  · exact Double.IsExtreme.mem h number
  · exact Double.IsExtreme.mem h number

theorem ofIntegers_mem_of_extreme (hf : f = min ∨ f = max) {values : List Int64} {n : Int64}
    (h : f.OfIntegers values n) : n ∈ values := by
  obtain rfl | rfl := hf
  · exact h.1
  · exact h.1

/-- The extreme of points is that of one of them, unless they are NaNs. -/
theorem exists_represented_of_extreme (hf : f = min ∨ f = max) (h : f.Result points v)
    (number : ∃ p ∈ points, p.value.number ≠ .nan) : ∃ p ∈ points, represented points p = v := by
  have hstays : f.StaysInteger points ↔ AllIntegers points := by
    apply staysInteger_iff_of_ne <;> rcases hf with rfl | rfl <;> decide
  rw [Result.eq_def] at h
  cases v with
  | int n =>
    obtain ⟨p, hp, hraw⟩ := List.mem_map.1 (ofIntegers_mem_of_extreme hf h.2)
    exact ⟨p, hp, by rw [represented, if_pos (hstays.1 h.1), hraw]⟩
  | float d =>
    have hnumber : ∃ d ∈ points.map Point.toDouble, d.isNaN = false := by
      obtain ⟨p, hp, hnumber⟩ := number
      exact ⟨_, List.mem_map_of_mem hp, Value.isNaN_toDouble hnumber⟩
    obtain ⟨p, hp, hdouble⟩ := List.mem_map.1 (ofDoubles_mem_of_extreme hf h.2 hnumber)
    exact ⟨p, hp, by rw [represented, if_neg (mt hstays.2 h.1), hdouble]⟩

theorem exists_represented (hf : f.Selects) (h : f.Result points v)
    (number : f = min ∨ f = max → ∃ p ∈ points, p.value.number ≠ .nan) :
    ∃ p ∈ points, (f = first → points.head? = some p) ∧ (f = last → points.getLast? = some p) ∧
      v = represented points p := by
  by_cases hextreme : f = min ∨ f = max
  · obtain ⟨p, hp, rfl⟩ := exists_represented_of_extreme hextreme h (number hextreme)
    refine ⟨p, hp, ?_, ?_, rfl⟩
    · rintro rfl
      simp at hextreme
    · rintro rfl
      simp at hextreme
  · have hends : f = first ∨ f = last := by
      cases f <;> simp [Selects] at hf hextreme ⊢
    obtain ⟨p, hp, rfl⟩ := (result_iff_of_selects hends).1 h
    refine ⟨p, mem_of_selected? hp, ?_, ?_, rfl⟩
    · rintro rfl
      exact hp
    · rintro rfl
      exact hp

/-- A selected point stands for its own number, or for the nearest one that a double can be. -/
theorem number_represented_iff {p : Point} (hp : p ∈ points) :
    (represented points p).number = p.value.number ↔
      AllIntegers points ∨ p.floating = true ∨ Double.FitsSignificand p.raw.toInt := by
  by_cases hall : AllIntegers points
  · simp [represented, hall, Point.value, hall p hp]
  · cases hfloating : p.floating with
    | true => simp [represented, hall, Point.value, Point.toDouble, Value.toDouble, hfloating]
    | false =>
      simp [represented, hall, Point.value, Point.toDouble, Value.toDouble, hfloating, Value.number,
        Double.number_ofInt_eq_iff]

end Aggregation

namespace WindowStage

/-- The points in the window whose start, cut to 64 bits, is a time. -/
def bucket (w : WindowStage) (points : List Point) (time : Int64) : List Point :=
  points.filter fun p => Int64.ofInt (w.startOf p.time) = time

/-- Lengths in whole seconds keep windows apart also where a start is cut to 64 bits: two starts differ by a turn
of the 64 bits at most, and a turn is no whole number of seconds. -/
theorem startOf_eq_of_ofInt_eq {f : Aggregation} {arg : Argument} {w : WindowStage} (h : make f arg = .ok w)
    {a b : Int64} (hab : Int64.ofInt (w.startOf a) = Int64.ofInt (w.startOf b)) : w.startOf a = w.startOf b := by
  have pos := length_pos_of_make h
  obtain ⟨n, -, -, hfits, hw⟩ := make_eq_ok_iff.1 h
  have hlength : w.length = n.toInt * 1000 := by rw [hw]
  have hmax : Int64.maxValue.toInt = 2 ^ 63 - 1 := by decide
  have near (time : Int64) : -2 ^ 64 < w.startOf time ∧ w.startOf time < 2 ^ 63 := by
    obtain ⟨-, hle, hlt⟩ := (startOf_eq_iff pos).1 (Eq.refl (w.startOf time))
    have hlow := time.le_toInt
    have hhigh := time.toInt_lt
    omega
  have seconds (time : Int64) : 1000 ∣ w.startOf time := by
    apply Int.dvd_trans _ (w.length_dvd_startOf time)
    rw [hlength]
    exact Int.dvd_mul_left _ _
  rw [← Int64.toInt_inj, Int64.toInt_ofInt, Int64.toInt_ofInt, Int.bmod_eq_bmod_iff_bmod_sub_eq_zero] at hab
  obtain ⟨turns, hturns⟩ := Int.dvd_of_bmod_eq_zero hab
  have hsize : (Int64.size : Int) = 2 ^ 64 := by decide
  rw [hsize] at hturns
  have hfew : turns = -1 ∨ turns = 0 ∨ turns = 1 := by
    have hnearA := near a
    have hnearB := near b
    omega
  have hsecondsA := seconds a
  have hsecondsB := seconds b
  rcases hfew with rfl | rfl | rfl <;> omega

/-- What comes out has the aggregate of the points of its window. -/
theorem result_bucket {f : Aggregation} {arg : Argument} {w : WindowStage} (h : make f arg = .ok w)
    {points : List Point} {q : Point} (hq : q ∈ w.apply points) : f.Result (w.bucket points q.time) q.value := by
  obtain ⟨_, v, ⟨p, -, rfl⟩, hv, rfl⟩ := mem_apply_iff.1 hq
  have hbucket : w.bucket points (.ofInt (w.startOf p.time)) =
      points.filter fun r => w.startOf r.time = w.startOf p.time := by
    apply List.filter_congr
    intro r _
    rw [decide_eq_decide]
    exact ⟨startOf_eq_of_ofInt_eq h, congrArg Int64.ofInt⟩
  have hf : w.aggregation = f := by
    obtain ⟨n, -, -, -, rfl⟩ := make_eq_ok_iff.1 h
    rfl
  rw [Point.time_ofValue, Point.value_ofValue, hbucket, ← hf]
  exact hv

/-- The least, the greatest, the first and the last value of a window are values of points of the window, where
an integer next to a double counts as the double nearest to it. Of NaNs alone there is neither a least nor a
greatest value. -/
theorem selects_value_of_bucket {f : Aggregation} {arg : Argument} {w : WindowStage} (h : make f arg = .ok w)
    (selects : f.Selects) {points : List Point} {q : Point} (hq : q ∈ w.apply points)
    (number : f = .min ∨ f = .max → ∃ p ∈ w.bucket points q.time, p.value.number ≠ .nan) :
    ∃ p ∈ w.bucket points q.time,
      (f = .first → (w.bucket points q.time).head? = some p) ∧
      (f = .last → (w.bucket points q.time).getLast? = some p) ∧
      q.value = (if AllIntegers (w.bucket points q.time) then p.value else .float p.toDouble) ∧
      (q.value.number = p.value.number ↔
        AllIntegers (w.bucket points q.time) ∨ p.floating = true ∨ Double.FitsSignificand p.raw.toInt) := by
  obtain ⟨p, hp, hfirst, hlast, hvalue⟩ := Aggregation.exists_represented selects (result_bucket h hq) number
  refine ⟨p, hp, hfirst, hlast, ?_, ?_⟩
  · rw [hvalue, Aggregation.represented]
    split
    · rename_i hall
      simp [Point.value, hall p hp]
    · rfl
  · rw [hvalue]
    exact Aggregation.number_represented_iff hp

/-- Integers and a NaN in one window, and an infinity in the one before the epoch. -/
def mixed : List Point :=
  [.ofInt 0 2, .ofDouble 100 ⟨0x7FF8000000000000⟩, .ofInt 200 7, .ofDouble (-1) .negativeInfinity]

theorem maximum_of_mixed :
    make .max (.int 1) = .ok ⟨.max, 1000⟩ ∧ Aggregation.Selects .max ∧
      apply ⟨.max, 1000⟩ mixed = [.ofDouble (-1000) .negativeInfinity, .ofDouble 0 ⟨0x401C000000000000⟩] ∧
      (∃ p ∈ bucket ⟨.max, 1000⟩ mixed 0, p.value.number ≠ .nan) ∧
      ∃ p ∈ bucket ⟨.max, 1000⟩ mixed 0, Double.number ⟨0x401C000000000000⟩ = p.value.number := by
  have hmake : make .max (.int 1) = .ok ⟨.max, 1000⟩ := by rfl
  have houtput : apply ⟨.max, 1000⟩ mixed =
      [.ofDouble (-1000) .negativeInfinity, .ofDouble 0 ⟨0x401C000000000000⟩] := by decide +kernel
  have hbucket : bucket ⟨.max, 1000⟩ mixed 0 =
      [.ofInt 0 2, .ofDouble 100 ⟨0x7FF8000000000000⟩, .ofInt 200 7] := by decide
  have hnumber : ∃ p ∈ bucket ⟨.max, 1000⟩ mixed 0, p.value.number ≠ .nan := by
    refine ⟨.ofInt 0 2, by decide, ?_⟩
    simp [Point.value, Point.ofInt, Value.number]
  have hq : Point.ofDouble 0 ⟨0x401C000000000000⟩ ∈ apply ⟨.max, 1000⟩ mixed := by simp [houtput]
  obtain ⟨p, hp, -, -, -, hsame⟩ := selects_value_of_bucket hmake trivial hq fun _ => hnumber
  refine ⟨hmake, trivial, houtput, hnumber, p, hp, hsame.2 (.inr ?_)⟩
  rw [show (Point.ofDouble 0 ⟨0x401C000000000000⟩).time = 0 from rfl, hbucket] at hp
  simp only [List.mem_cons, List.not_mem_nil, or_false] at hp
  rcases hp with rfl | rfl | rfl
  · exact .inr ⟨2, 0, by decide, by decide⟩
  · exact .inl rfl
  · exact .inr ⟨7, 0, by decide, by decide⟩

/-- An integer with a significant bit more than a double has, next to a NaN, and a NaN alone. -/
def besideNaN : List Point :=
  [.ofInt 0 9007199254740993, .ofDouble 1 ⟨0x7FF8000000000000⟩, .ofDouble 1000 ⟨0x7FF8000000000000⟩]

/-- Neither maximum is the value of a point. -/
theorem maxima_besideNaN_of_no_point :
    make .max (.int 1) = .ok ⟨.max, 1000⟩ ∧
      apply ⟨.max, 1000⟩ besideNaN =
        [.ofDouble 0 ⟨0x4340000000000000⟩, .ofDouble 1000 .negativeInfinity] ∧
      ∀ q ∈ apply ⟨.max, 1000⟩ besideNaN, ∀ p ∈ bucket ⟨.max, 1000⟩ besideNaN q.time,
        q.value.number ≠ p.value.number := by
  have hmake : make .max (.int 1) = .ok ⟨.max, 1000⟩ := by rfl
  have houtput : apply ⟨.max, 1000⟩ besideNaN =
      [.ofDouble 0 ⟨0x4340000000000000⟩, .ofDouble 1000 .negativeInfinity] := by decide +kernel
  have hmixed : bucket ⟨.max, 1000⟩ besideNaN 0 =
      [.ofInt 0 9007199254740993, .ofDouble 1 ⟨0x7FF8000000000000⟩] := by decide
  have halone : bucket ⟨.max, 1000⟩ besideNaN 1000 = [.ofDouble 1000 ⟨0x7FF8000000000000⟩] := by decide
  have hnan (time : Int64) : (Point.ofDouble time ⟨0x7FF8000000000000⟩).value.number = .nan := by
    rw [show (Point.ofDouble time ⟨0x7FF8000000000000⟩).value = .float ⟨0x7FF8000000000000⟩ from rfl, Value.number]
    exact Double.number_eq_nan_iff.2 (by decide)
  have hwide : (Point.ofDouble 0 ⟨0x4340000000000000⟩).value.number ≠ .finite (9007199254740993 : Int64).toInt := by
    have hdouble : (Point.ofDouble 0 ⟨0x4340000000000000⟩).value =
        .float (Double.ofInt (9007199254740993 : Int64).toInt) := by decide +kernel
    rw [hdouble, Value.number, Ne, Double.number_ofInt_eq_iff, Double.fitsSignificand_iff]
    decide +kernel
  refine ⟨hmake, houtput, ?_⟩
  rw [houtput]
  intro q hq p hp
  simp only [List.mem_cons, List.not_mem_nil, or_false] at hq
  rcases hq with rfl | rfl
  · rw [show (Point.ofDouble 0 ⟨0x4340000000000000⟩).time = 0 from rfl, hmixed] at hp
    simp only [List.mem_cons, List.not_mem_nil, or_false] at hp
    rcases hp with rfl | rfl
    · exact hwide
    · rw [hnan]
      exact mt Double.number_eq_nan_iff.1 (by decide)
  · rw [show (Point.ofDouble 1000 .negativeInfinity).time = 1000 from rfl, halone, List.mem_singleton] at hp
    rw [hp, hnan]
    exact mt Double.number_eq_nan_iff.1 (by decide)

end WindowStage
end SeriesQuery
