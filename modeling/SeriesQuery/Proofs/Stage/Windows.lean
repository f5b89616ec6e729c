import Mathlib.Algebra.BigOperators.Ring.Finset
import SeriesQuery.Proofs.Double.Extremes
import SeriesQuery.Proofs.Double.Number
import SeriesQuery.Proofs.Stage.TimeCut

/-! # What windows make of points

The windows of one length divide the time line, so that every point falls into exactly one of them, the one
that begins at the last multiple of the length that is not later. What comes out has one point for each window
that holds a point, at its start, and its value depends on nothing but the points of that window in their order.
-/

namespace SeriesQuery

/-- The library knows this of the smaller of two integers only. -/
instance lawfulOrderLeftLeaningMaxInt64 : Std.LawfulOrderLeftLeaningMax Int64 where
  max_eq_left a b h := by
    change (if a ≤ b then b else a) = a
    split
    · rename_i hab
      exact Int64.le_antisymm h hab
    · rfl
  max_eq_right a b h := if_pos (Std.le_of_not_ge h)

namespace Double

/-- The sum of doubles from the left, rounded after each of them. The sum of none is the negative zero, which
leaves what is added to it as it is. -/
inductive IsSum : List Double → Double → Prop
  | nil : IsSum [] negativeZero
  | concat {values : List Double} {sum : Double} (d : Double) (front : IsSum values sum) :
      IsSum (values ++ [d]) (sum.add d)

theorem isSum_sum (values : List Double) : IsSum values (sum values) := by
  induction values using List.reverseRecOn with
  | nil => exact .nil
  | append_singleton front d ih =>
    rw [sum, List.foldl_append]
    exact .concat d ih

theorem IsSum.eq_sum {values : List Double} {s : Double} (h : IsSum values s) : s = sum values := by
  induction h with
  | nil => rfl
  | concat d _ ih => rw [ih, sum, sum, List.foldl_append, List.foldl_cons, List.foldl_nil]

end Double

/-- Whether there is no double among the values of the points. -/
def AllIntegers (points : List Point) : Prop := ∀ p ∈ points, p.floating = false

instance (points : List Point) : Decidable (AllIntegers points) :=
  inferInstanceAs (Decidable (∀ p ∈ points, p.floating = false))

namespace Aggregation

/-- The aggregate of integers, as a condition on it. A sum is taken exactly and then cut to 64 bits. -/
def OfIntegers (values : List Int64) (n : Int64) : Aggregation → Prop
  | mean => False
  | sum => n = Int64.ofInt (values.map Int64.toInt).sum
  | min => n ∈ values ∧ ∀ v ∈ values, n ≤ v
  | max => n ∈ values ∧ ∀ v ∈ values, v ≤ n
  | count => n = Int64.ofNat values.length
  | last => values.getLast? = some n
  | first => values.head? = some n

/-- The aggregate of doubles, as a condition on it. The extremes are taken in the order of numbers, and of equal
numbers the first; NaNs alone leave the infinity that every number is beyond. -/
def OfDoubles (values : List Double) (d : Double) : Aggregation → Prop
  | mean => ∃ s, Double.IsSum values s ∧ d = s.div (.ofInt values.length)
  | sum => Double.IsSum values d
  | min => Double.IsExtreme (fun a b => a.number.Less b.number) .infinity values d
  | max => Double.IsExtreme (fun a b => b.number.Less a.number) .negativeInfinity values d
  | count => d = .ofInt values.length
  | last => values.getLast? = some d
  | first => values.head? = some d

/-- Whether the aggregate of the points is an integer. -/
def StaysInteger (f : Aggregation) (points : List Point) : Prop :=
  f = count ∨ f ≠ mean ∧ AllIntegers points

/-- What an aggregation makes of the points of one window. -/
def Result (f : Aggregation) (points : List Point) : Value → Prop
  | .int n => f.StaysInteger points ∧ f.OfIntegers (points.map Point.raw) n
  | .float d => ¬ f.StaysInteger points ∧ f.OfDoubles (points.map Point.toDouble) d

theorem foldl_add_eq_ofInt_sum (values : List Int64) (n : Int64) :
    values.foldl (· + ·) n = Int64.ofInt (n.toInt + (values.map Int64.toInt).sum) := by
  induction values generalizing n with
  | nil => simp
  | cons v values ih =>
    rw [List.foldl_cons, ih, Int64.ofInt_add, Int64.ofInt_toInt, List.map_cons, List.sum_cons,
      Int64.ofInt_add, Int64.ofInt_add, Int64.ofInt_toInt, Int64.ofInt_toInt, Int64.add_assoc]

theorem ofInts_eq_some_iff {f : Aggregation} {values : List Int64} {n : Int64} :
    f.ofInts values = some n ↔ f.OfIntegers values n := by
  cases f with
  | mean => simp [ofInts, OfIntegers]
  | sum =>
    rw [ofInts, OfIntegers, foldl_add_eq_ofInt_sum, Int64.toInt_zero, Int.zero_add, Option.some_inj, eq_comm]
  | min => exact List.min?_eq_some_iff
  | max => exact List.max?_eq_some_iff
  | count => rw [ofInts, OfIntegers, Option.some_inj, eq_comm]
  | last => rfl
  | first => rfl

theorem ofInts_isSome {f : Aggregation} (hf : f ≠ mean) {values : List Int64} (h : values ≠ []) :
    ∃ n, f.ofInts values = some n := by
  obtain ⟨v, values, rfl⟩ := List.exists_cons_of_ne_nil h
  cases f with
  | mean => exact absurd rfl hf
  | last => exact ⟨_, List.getLast?_eq_some_getLast h⟩
  | _ => exact ⟨_, rfl⟩

theorem exists_ofDoubles (f : Aggregation) {values : List Double} (h : values ≠ []) :
    ∃ d, f.ofDoubles values = some d ∧ f.OfDoubles values d := by
  have hvalues : values.isEmpty = false := List.isEmpty_eq_false_iff.2 h
  simp only [ofDoubles, hvalues, Bool.false_eq_true, if_false]
  cases f with
  | mean => exact ⟨_, rfl, _, Double.isSum_sum values, rfl⟩
  | sum => exact ⟨_, rfl, Double.isSum_sum values⟩
  | min =>
    refine ⟨_, rfl, ?_⟩
    simpa only [OfDoubles, ← Double.lt_iff_less] using Double.isExtreme_lesser values
  | max =>
    refine ⟨_, rfl, ?_⟩
    simpa only [OfDoubles, ← Double.lt_iff_less] using Double.isExtreme_greater values
  | count => exact ⟨_, rfl, rfl⟩
  | last => exact ⟨_, List.getLast?_eq_some_getLast h, List.getLast?_eq_some_getLast h⟩
  | first => exact ⟨_, List.head?_eq_some_head h, List.head?_eq_some_head h⟩

theorem OfDoubles.unique {f : Aggregation} {values : List Double} {d e : Double} (hd : f.OfDoubles values d)
    (he : f.OfDoubles values e) : d = e := by
  cases f with
  | mean =>
    obtain ⟨s, hs, rfl⟩ := hd
    obtain ⟨t, ht, rfl⟩ := he
    rw [hs.eq_sum, ht.eq_sum]
  | sum => exact hd.eq_sum.trans he.eq_sum.symm
  | min | max => exact Double.IsExtreme.unique hd he
  | count => exact hd.trans he.symm
  | last | first => exact Option.some.inj (hd.symm.trans he)

theorem ofDoubles_eq_some_iff {f : Aggregation} {values : List Double} (h : values ≠ []) {d : Double} :
    f.ofDoubles values = some d ↔ f.OfDoubles values d := by
  obtain ⟨e, hsome, he⟩ := f.exists_ofDoubles h
  rw [hsome, Option.some_inj]
  exact ⟨fun heq => heq ▸ he, he.unique⟩

variable {f : Aggregation} {points : List Point}

theorem staysInteger_iff_of_ne (hcount : f ≠ count) (hmean : f ≠ mean) :
    f.StaysInteger points ↔ AllIntegers points := by
  rw [StaysInteger, or_iff_right hcount, and_iff_right hmean]

/-- Points whose aggregate is an integer are aggregated as integers. -/
theorem ofPoints_of_staysInteger (h : f.StaysInteger points) (ne : points ≠ []) :
    f.ofPoints points = (f.ofInts (points.map Point.raw)).map .int := by
  rw [ofPoints]
  obtain rfl | ⟨hmean, hints⟩ := h
  · simp [ofInts]
  · have hall : (points.all fun p => !p.floating) = true := by simpa [AllIntegers] using hints
    have hne : points.map Point.raw ≠ [] := mt List.map_eq_nil_iff.1 ne
    obtain ⟨n, hn⟩ := ofInts_isSome hmean hne
    by_cases hcount : f = count
    · simp [hcount, ofInts]
    · simp [hcount, hall, hn]

theorem ofPoints_of_not_staysInteger (h : ¬ f.StaysInteger points) :
    f.ofPoints points = (f.ofDoubles (points.map Point.toDouble)).map .float := by
  rw [StaysInteger, not_or, not_and_or, not_not] at h
  obtain ⟨hcount, hmean | hmixed⟩ := h
  · subst hmean
    simp [ofPoints, ofInts]
  · have hall : (points.all fun p => !p.floating) = false := by
      rw [Bool.eq_false_iff]
      intro hall
      exact hmixed (by simpa [AllIntegers] using hall)
    simp [ofPoints, hcount, hall]

/-- Points in a window always have an aggregate, and it is the only one that there can be. -/
theorem ofPoints_eq_some_iff (ne : points ≠ []) {v : Value} :
    f.ofPoints points = some v ↔ f.Result points v := by
  by_cases h : f.StaysInteger points
  · rw [ofPoints_of_staysInteger h ne, Option.map_eq_some_iff]
    cases v with
    | int n => simp [Result, h, ← ofInts_eq_some_iff]
    | float d => simp [Result, h]
  · rw [ofPoints_of_not_staysInteger h, Option.map_eq_some_iff]
    cases v with
    | int n => simp [Result, h]
    | float d => simp [Result, h, ← ofDoubles_eq_some_iff (mt List.map_eq_nil_iff.1 ne)]

theorem exists_result (f : Aggregation) (ne : points ≠ []) : ∃ v, f.Result points v := by
  by_cases h : f.StaysInteger points
  · obtain rfl | ⟨hmean, -⟩ := id h
    · exact ⟨.int (.ofNat points.length), h, by simp [OfIntegers]⟩
    · obtain ⟨n, hn⟩ := ofInts_isSome hmean (mt List.map_eq_nil_iff.1 ne)
      exact ⟨.int n, h, ofInts_eq_some_iff.1 hn⟩
  · obtain ⟨d, -, hd⟩ := f.exists_ofDoubles (mt List.map_eq_nil_iff.1 ne)
    exact ⟨.float d, h, hd⟩

theorem Result.unique {v w : Value} (ne : points ≠ []) (hv : f.Result points v) (hw : f.Result points w) :
    v = w :=
  Option.some.inj (((ofPoints_eq_some_iff ne).2 hv).symm.trans ((ofPoints_eq_some_iff ne).2 hw))

end Aggregation

namespace WindowStage

/-- The arguments that a window accepts. -/
theorem make_eq_ok_iff {f : Aggregation} {arg : Argument} {w : WindowStage} :
    make f arg = .ok w ↔
      ∃ n : Int64, arg = .int n ∧ 0 < n ∧ n.toInt * 1000 ≤ Int64.maxValue.toInt ∧ w = ⟨f, n.toInt * 1000⟩ := by
  cases arg with
  | int n =>
    simp only [make, Argument.toInt?, Argument.int.injEq]
    constructor
    · intro h
      split at h
      · cases h
      · rename_i hpos
        split at h
        · cases h
        · rename_i hfits
          cases h
          exact ⟨n, rfl, Int64.not_le.1 hpos, Int.not_lt.1 hfits, rfl⟩
    · rintro ⟨n, rfl, hpos, hfits, rfl⟩
      rw [if_neg (Int64.not_le.2 hpos), if_neg (Int.not_lt.2 hfits)]
  | float d => simp [make, Argument.toInt?]
  | text s => simp [make, Argument.toInt?]

theorem length_pos_of_make {f : Aggregation} {arg : Argument} {w : WindowStage} (h : make f arg = .ok w) :
    0 < w.length := by
  obtain ⟨n, -, hn, -, rfl⟩ := make_eq_ok_iff.1 h
  rw [Int64.lt_iff_toInt_lt, Int64.toInt_zero] at hn
  exact Int.mul_pos hn (by decide)

def members (w : WindowStage) (points : List Point) (start : Int) : List Point :=
  points.filter fun p => start ≤ p.time.toInt ∧ p.time.toInt < start + w.length

/-- Cutting to 64 bits can wait until the sum is taken. -/
theorem ofInt_sum_raw {points : List Point} {exact : Point → Int}
    (h : ∀ q ∈ points, q.raw = .ofInt (exact q)) :
    Int64.ofInt (points.map fun q => q.raw.toInt).sum = .ofInt (points.map exact).sum := by
  induction points with
  | nil => rfl
  | cons q points ih =>
    obtain ⟨hq, hpoints⟩ := List.forall_mem_cons.1 h
    rw [List.map_cons, List.sum_cons, Int64.ofInt_add, Int64.ofInt_toInt, ih hpoints, hq, List.map_cons,
      List.sum_cons, Int64.ofInt_add]

/-- What comes of points in windows of a length. -/
structure Summarizes (w : WindowStage) (points output : List Point) : Prop where
  ascending : InStrictTimeOrder output
  aligned : ∀ q ∈ output, w.length ∣ q.time.toInt
  occurs (start : Int) : w.length ∣ start →
    ((∃ q ∈ output, q.time.toInt = start) ↔
      ∃ p ∈ points, start ≤ p.time.toInt ∧ p.time.toInt < start + w.length)
  result : ∀ q ∈ output, w.aggregation.Result (w.members points q.time.toInt) q.value

variable {w : WindowStage} {points output : List Point}

theorem length_dvd_startOf (w : WindowStage) (time : Int64) : w.length ∣ w.startOf time :=
  Int.dvd_mul_left _ _

/-- A window begins at the only multiple of its length from which its times are less than a length away. -/
theorem startOf_eq_iff (pos : 0 < w.length) {time : Int64} {start : Int} :
    w.startOf time = start ↔
      w.length ∣ start ∧ start ≤ time.toInt ∧ time.toInt < start + w.length := by
  constructor
  · rintro rfl
    have hle := Int.ediv_mul_le time.toInt (Int.ne_of_gt pos)
    have hlt := Int.lt_ediv_add_one_mul_self time.toInt pos
    rw [Int.add_mul, Int.one_mul] at hlt
    exact ⟨w.length_dvd_startOf time, hle, hlt⟩
  · rintro ⟨⟨k, rfl⟩, hle, hlt⟩
    have hquotient : time.toInt / w.length = k := by
      rw [Int.ediv_eq_iff_of_pos pos, Int.mul_comm k]
      exact ⟨hle, hlt⟩
    rw [startOf, hquotient, Int.mul_comm]

/-- The start of a window is a product of 64 bits where 64 bits hold it, and its quotient never goes beyond them. -/
theorem toInt_mul_eq_startOf {f : Aggregation} {arg : Argument} (h : make f arg = .ok w) {time : Int64}
    (fits : Int64.minValue.toInt ≤ w.startOf time) : ∃ quotient length : Int64,
      length.toInt = w.length ∧ quotient.toInt = time.toInt / w.length ∧
        (quotient * length).toInt = w.startOf time := by
  have pos := length_pos_of_make h
  have hlength : w.length ≤ Int64.maxValue.toInt := by
    obtain ⟨n, -, -, hn, rfl⟩ := make_eq_ok_iff.1 h
    exact hn
  have hmax : Int64.maxValue.toInt = 2 ^ 63 - 1 := by decide
  have hlow : -2 ^ 63 ≤ time.toInt / w.length := by
    rw [Int.le_ediv_iff_mul_le pos]
    have := time.le_toInt
    omega
  have hhigh : time.toInt / w.length < 2 ^ 63 := by
    rw [Int.ediv_lt_iff_lt_mul pos]
    have := time.toInt_lt
    omega
  refine ⟨.ofInt (time.toInt / w.length), .ofInt w.length, ?_, Int64.toInt_ofInt_of_le hlow hhigh, ?_⟩
  · exact Int64.toInt_ofInt_of_le (by omega) (by omega)
  · have hle := w.startOf_le time
    rw [startOf] at fits hle ⊢
    rw [← Int64.ofInt_mul]
    exact Int64.toInt_ofInt_of_le fits (by omega)

theorem members_eq_filter (pos : 0 < w.length) {start : Int} (aligned : w.length ∣ start) :
    w.members points start = points.filter fun p => w.startOf p.time = start := by
  refine List.filter_congr fun p _ => ?_
  rw [decide_eq_decide, startOf_eq_iff pos]
  exact (and_iff_right aligned).symm

theorem entries_group (w : WindowStage) (points : List Point) :
    (w.group points).entries =
      (w.group points).keys.map fun s => (s, points.filter fun p => w.startOf p.time = s) := by
  rw [group_eq_gather, OrderedMap.entries_gather]
  simp only [OrderedMap.valuesOf, List.flatMap_singleton']

theorem mem_keys_group {start : Int} :
    start ∈ (w.group points).keys ↔ ∃ p ∈ points, w.startOf p.time = start := by
  rw [group_eq_gather, OrderedMap.mem_keys_gather]

theorem filter_startOf_ne_nil {p : Point} (h : p ∈ points) {start : Int} (hp : w.startOf p.time = start) :
    (points.filter fun p => w.startOf p.time = start) ≠ [] :=
  List.ne_nil_of_mem (List.mem_filter.2 ⟨h, by simpa using hp⟩)

/-- What comes out is one point for each window that holds a point. -/
theorem mem_apply_iff {q : Point} :
    q ∈ w.apply points ↔ ∃ start v, (∃ p ∈ points, w.startOf p.time = start) ∧
      w.aggregation.Result (points.filter fun p => w.startOf p.time = start) v ∧
      q = .ofValue (.ofInt start) v := by
  rw [apply, entries_group, List.mem_filterMap]
  constructor
  · rintro ⟨e, he, hq⟩
    obtain ⟨start, hstart, rfl⟩ := List.mem_map.1 he
    obtain ⟨p, hp, hs⟩ := mem_keys_group.1 hstart
    obtain ⟨v, hv, rfl⟩ := Option.map_eq_some_iff.1 hq
    have ne := filter_startOf_ne_nil hp hs
    exact ⟨start, v, ⟨p, hp, hs⟩, (Aggregation.ofPoints_eq_some_iff ne).1 hv, rfl⟩
  · rintro ⟨start, v, ⟨p, hp, hs⟩, hv, rfl⟩
    have ne := filter_startOf_ne_nil hp hs
    refine ⟨_, List.mem_map.2 ⟨start, mem_keys_group.2 ⟨p, hp, hs⟩, rfl⟩, ?_⟩
    rw [(Aggregation.ofPoints_eq_some_iff ne).2 hv]
    rfl

/-- Windows come out in the order of time, each with the aggregate of its points. -/
theorem summarizes_apply (pos : 0 < w.length) (fits : w.StartsFit points) :
    w.Summarizes points (w.apply points) where
  ascending := apply_inStrictTimeOrder fits
  aligned q hq := by
    obtain ⟨p, -, htime⟩ := exists_of_mem_apply fits hq
    rw [htime]
    exact w.length_dvd_startOf p.time
  occurs start aligned := by
    have hstart (p : Point) : start ≤ p.time.toInt ∧ p.time.toInt < start + w.length ↔
        w.startOf p.time = start := by
      rw [startOf_eq_iff pos, and_iff_right aligned]
    simp only [hstart]
    constructor
    · rintro ⟨q, hq, rfl⟩
      obtain ⟨p, hp, htime⟩ := exists_of_mem_apply fits hq
      exact ⟨p, hp, htime.symm⟩
    · rintro ⟨p, hp, rfl⟩
      have ne := filter_startOf_ne_nil (w := w) hp rfl
      obtain ⟨v, hv⟩ := w.aggregation.exists_result ne
      refine ⟨_, mem_apply_iff.2 ⟨_, v, ⟨p, hp, rfl⟩, hv, rfl⟩, ?_⟩
      rw [Point.time_ofValue, toInt_ofInt_startOf (fits p hp)]
  result q hq := by
    obtain ⟨start, v, ⟨p, hp, rfl⟩, hv, rfl⟩ := mem_apply_iff.1 hq
    rw [Point.time_ofValue, toInt_ofInt_startOf (fits p hp), Point.value_ofValue,
      members_eq_filter pos (w.length_dvd_startOf p.time)]
    exact hv

namespace Summarizes

theorem nodup_starts (h : w.Summarizes points output) : (output.map fun q => q.time.toInt).Nodup := by
  rw [List.Nodup, List.pairwise_map]
  exact h.ascending.imp fun hlt => Int.ne_of_lt (Int64.lt_iff_toInt_lt.1 hlt)

theorem startOf_mem_starts (pos : 0 < w.length) (h : w.Summarizes points output) :
    ∀ p ∈ points, w.startOf p.time ∈ output.map fun q => q.time.toInt := by
  intro p hp
  obtain ⟨aligned, hwithin⟩ := (startOf_eq_iff pos).1 (Eq.refl (w.startOf p.time))
  obtain ⟨q, hq, htime⟩ := (h.occurs _ aligned).2 ⟨p, hp, hwithin⟩
  exact List.mem_map.2 ⟨q, hq, htime⟩

theorem flatMap_members (pos : 0 < w.length) (h : w.Summarizes points output) :
    (output.flatMap fun q => w.members points q.time.toInt) =
      (output.map fun q => q.time.toInt).flatMap
        (OrderedMap.valuesOf (fun p : Point => w.startOf p.time) (fun p => [p]) points) := by
  rw [List.flatMap_map]
  apply List.flatMap_congr
  intro q hq
  rw [members_eq_filter pos (h.aligned q hq), OrderedMap.valuesOf, List.flatMap_singleton']

/-- Every point is in one of the windows that come out. -/
theorem perm_flatMap_members (pos : 0 < w.length) (h : w.Summarizes points output) :
    (output.flatMap fun q => w.members points q.time.toInt).Perm points := by
  have hperm := OrderedMap.perm_flatMap_valuesOf (fun p : Point => w.startOf p.time) (fun p => [p])
    h.nodup_starts (h.startOf_mem_starts pos)
  rwa [List.flatMap_singleton', ← h.flatMap_members pos] at hperm

theorem sum_length_members (pos : 0 < w.length) (h : w.Summarizes points output) :
    (output.map fun q => (w.members points q.time.toInt).length).sum = points.length := by
  rw [← (h.perm_flatMap_members pos).length_eq, List.length_flatMap]

theorem exists_member (pos : 0 < w.length) (h : w.Summarizes points output) {q : Point} (hq : q ∈ output) :
    ∃ p ∈ points, w.startOf p.time = q.time.toInt := by
  obtain ⟨p, hp, hwithin⟩ := (h.occurs _ (h.aligned q hq)).1 ⟨q, hq, rfl⟩
  exact ⟨p, hp, (startOf_eq_iff pos).2 ⟨h.aligned q hq, hwithin⟩⟩

theorem members_ne_nil (h : w.Summarizes points output) {q : Point} (hq : q ∈ output) :
    w.members points q.time.toInt ≠ [] := by
  obtain ⟨p, hp, hwithin⟩ := (h.occurs _ (h.aligned q hq)).1 ⟨q, hq, rfl⟩
  exact List.ne_nil_of_mem (List.mem_filter.2 ⟨hp, by simpa using hwithin⟩)

/-- Nothing else comes of the points in these windows. -/
theorem unique {other : List Point} (h : w.Summarizes points output) (hother : w.Summarizes points other) :
    output = other := by
  have hsubset {a b : List Point} (ha : w.Summarizes points a) (hb : w.Summarizes points b) : ∀ q ∈ a, q ∈ b := by
    intro q hq
    have aligned := ha.aligned q hq
    obtain ⟨r, hr, htime⟩ := (hb.occurs _ aligned).2 ((ha.occurs _ aligned).1 ⟨q, hq, rfl⟩)
    have hresult := hb.result r hr
    rw [htime] at hresult
    have hvalue := Aggregation.Result.unique (ha.members_ne_nil hq) (ha.result q hq) hresult
    rw [← Point.ofValue_value q, ← Int64.toInt_inj.1 htime, hvalue, Point.ofValue_value]
    exact hr
  have nodup {a : List Point} (ha : w.Summarizes points a) : a.Nodup :=
    ha.nodup_starts.of_map _
  have hperm : output.Perm other := (List.perm_ext_iff_of_nodup (nodup h) (nodup hother)).2 fun q =>
    ⟨hsubset h hother q, hsubset hother h q⟩
  exact hperm.eq_of_pairwise (fun p q _ _ hpq hqp => absurd hpq (Int64.lt_asymm hqp)) h.ascending hother.ascending

theorem raw_of_count (h : w.Summarizes points output) (count : w.aggregation = .count) {q : Point}
    (hq : q ∈ output) : q.raw = .ofNat (w.members points q.time.toInt).length := by
  have hresult := h.result q hq
  rw [count, Point.value] at hresult
  split at hresult
  · exact absurd (.inl rfl) hresult.1
  · have hraw := hresult.2
    rwa [Aggregation.OfIntegers, List.length_map] at hraw

/-- Counts add up to the number of points, as far as 64 bits can tell. -/
theorem ofInt_sum_counts (pos : 0 < w.length) (h : w.Summarizes points output)
    (count : w.aggregation = .count) :
    Int64.ofInt (output.map fun q => q.raw.toInt).sum = .ofNat points.length := by
  have hcounts : ∀ q ∈ output, q.raw = .ofInt (w.members points q.time.toInt).length := by
    intro q hq
    rw [h.raw_of_count count hq, Int64.ofInt_eq_ofNat]
  rw [ofInt_sum_raw hcounts, ← h.sum_length_members pos, ← Int64.ofInt_eq_ofNat, Nat.cast_list_sum, List.map_map]
  rfl

theorem sum_counts (pos : 0 < w.length) (h : w.Summarizes points output) (count : w.aggregation = .count)
    (fits : points.length < 2 ^ 63) : (output.map fun q => q.raw.toInt).sum = points.length := by
  have hexact : ∀ q ∈ output, q.raw.toInt = (w.members points q.time.toInt).length := by
    intro q hq
    rw [h.raw_of_count count hq]
    have hle : (w.members points q.time.toInt).length ≤ points.length := List.length_filter_le _ _
    exact Int64.toInt_ofNat_of_lt (by omega)
  rw [← h.sum_length_members pos, List.map_congr_left hexact, Nat.cast_list_sum, List.map_map]
  rfl

end Summarizes

/-- A window accepts the positive integers whose milliseconds fit, and makes of points one for each window that
holds some, in the order of time and of those in their order; no point is lost. -/
theorem accepts_and_summarizes :
    (∀ f arg w, make f arg = .ok w ↔ ∃ n : Int64, arg = .int n ∧ 0 < n ∧
      n.toInt * 1000 ≤ Int64.maxValue.toInt ∧ w = ⟨f, n.toInt * 1000⟩) ∧
    ∀ f arg w, make f arg = .ok w → ∀ points, w.StartsFit points →
      w.Summarizes points (w.apply points) ∧
      ((w.apply points).map fun q => (w.members points q.time.toInt).length).sum = points.length ∧
      (f = .count →
        Int64.ofInt ((w.apply points).map fun q => q.raw.toInt).sum = .ofNat points.length ∧
        (points.length < 2 ^ 63 → ((w.apply points).map fun q => q.raw.toInt).sum = points.length)) := by
  refine ⟨fun _ _ _ => make_eq_ok_iff, fun f arg w hmake points fits => ?_⟩
  have pos := length_pos_of_make hmake
  have h := summarizes_apply pos fits
  refine ⟨h, h.sum_length_members pos, fun hf => ?_⟩
  have count : w.aggregation = .count := by
    obtain ⟨n, -, -, -, rfl⟩ := make_eq_ok_iff.1 hmake
    exact hf
  exact ⟨h.ofInt_sum_counts pos count, h.sum_counts pos count⟩

/-- Three minutes with points, the first before the epoch and the second with an integer and a double. -/
def threeMinutes : List Point :=
  [.ofInt 65000 10, .ofInt (-1) 5, .ofDouble 30000 ⟨0x3FE0000000000000⟩, .ofInt 5000 1]

theorem maxima_threeMinutes :
    make .max (.int 60) = .ok ⟨.max, 60000⟩ ∧ WindowStage.StartsFit ⟨.max, 60000⟩ threeMinutes ∧
      apply ⟨.max, 60000⟩ threeMinutes =
        [.ofInt (-60000) 5, .ofDouble 0 ⟨0x3FF0000000000000⟩, .ofInt 60000 10] ∧
      WindowStage.Summarizes ⟨.max, 60000⟩ threeMinutes
        [.ofInt (-60000) 5, .ofDouble 0 ⟨0x3FF0000000000000⟩, .ofInt 60000 10] := by
  have hmake : make .max (.int 60) = .ok ⟨.max, 60000⟩ := by rfl
  have fits : WindowStage.StartsFit ⟨.max, 60000⟩ threeMinutes := by
    unfold StartsFit
    decide
  have houtput : apply ⟨.max, 60000⟩ threeMinutes =
      [.ofInt (-60000) 5, .ofDouble 0 ⟨0x3FF0000000000000⟩, .ofInt 60000 10] := by decide +kernel
  refine ⟨hmake, fits, houtput, ?_⟩
  rw [← houtput]
  exact (accepts_and_summarizes.2 _ _ _ hmake _ fits).1

end WindowStage
end SeriesQuery
