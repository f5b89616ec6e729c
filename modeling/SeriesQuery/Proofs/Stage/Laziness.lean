import SeriesQuery.Proofs.Stage.Streaming
import SeriesQuery.Proofs.Stage.TimeOrder

/-! # How far a stream reads ahead

A stream takes as many points from its source as its stages need for the points that it has given, and not one
more. What it remembers after some calls is what its stages remember of the points taken, so that its answers
depend on these points only; and the last point taken is the one that came through as the last answer.
-/

namespace SeriesQuery

/-- A point that comes through stages keeps its time. -/
theorem StreamStage.time_of_step {s next : StreamStage} {p out : Point} (h : s.step p = (next, some out)) :
    out.time = p.time := by
  cases s with
  | constant c =>
    cases h
    exact c.time_apply p
  | derivative d =>
    simp only [step, DerivativeStage.step, Prod.mk.injEq, Option.bind_eq_some_iff] at h
    obtain ⟨-, previous, -, hbetween⟩ := h
    exact (DerivativeStage.time_of_between? hbetween).2

theorem time_of_feed {stages after : List StreamStage} {p out : Point} (h : feed stages p = (after, some out)) :
    out.time = p.time := by
  induction stages generalizing p after with
  | nil =>
    cases h
    rfl
  | cons s rest ih =>
    cases hs : s.step p with
    | mk next q =>
      cases q with
      | none => simp [feed, hs] at h
      | some q =>
        simp only [feed, hs, Prod.mk.injEq] at h
        have hrest : feed rest q = ((feed rest q).1, some out) := Prod.ext rfl h.2
        rw [ih hrest, StreamStage.time_of_step hs]

namespace Stream

def fed (stages : List StreamStage) (points : List Point) : List StreamStage :=
  points.foldl (fun stages p => (feed stages p).1) stages

@[simp] theorem fed_nil (stages : List StreamStage) : fed stages [] = stages := rfl

@[simp] theorem fed_cons (stages : List StreamStage) (p : Point) (rest : List Point) :
    fed stages (p :: rest) = fed (feed stages p).1 rest := rfl

@[simp] theorem fed_append (stages : List StreamStage) (front back : List Point) :
    fed stages (front ++ back) = fed (fed stages front) back :=
  List.foldl_append

@[simp] theorem points_nil (stages : List StreamStage) : points stages [] = [] := rfl

theorem points_cons_source (stages : List StreamStage) (p : Point) (rest : List Point) :
    points stages (p :: rest) = (feed stages p).2.toList ++ points (feed stages p).1 rest := rfl

/-- What comes of the front of a source does not depend on what is behind it. -/
theorem points_append (stages : List StreamStage) (front back : List Point) :
    points stages (front ++ back) = points stages front ++ points (fed stages front) back := by
  induction front generalizing stages with
  | nil => rfl
  | cons p rest ih => simp [points_cons_source, ih]

theorem points_concat (stages : List StreamStage) (front : List Point) (p : Point) :
    points stages (front ++ [p]) = points stages front ++ (feed (fed stages front) p).2.toList := by
  simp [points_append, points_cons_source]

theorem points_isPrefix (stages : List StreamStage) {front whole : List Point} (h : front <+: whole) :
    points stages front <+: points stages whole := by
  obtain ⟨back, rfl⟩ := h
  rw [points_append]
  exact List.prefix_append _ _

/-- A call takes points until one comes through, or else all there are. -/
theorem next_cases (stages : List StreamStage) (source : List Point) :
    (∃ dropped p out rest, source = dropped ++ p :: rest ∧ points stages dropped = [] ∧
        (feed (fed stages dropped) p).2 = some out ∧
        (ofSource source stages).next = (some out, ofSource rest (fed stages (dropped ++ [p])))) ∨
      (points stages source = [] ∧
        (ofSource source stages).next = (none, ⟨[], fed stages source, true⟩)) := by
  induction source generalizing stages with
  | nil => exact .inr ⟨rfl, next_ofSource_nil stages⟩
  | cons p rest ih =>
    cases hf : feed stages p with
    | mk after out =>
      cases out with
      | some out =>
        left
        exact ⟨[], p, out, rest, rfl, rfl, by simp [hf], by simp [next_ofSource_of_feed_some hf, hf]⟩
      | none =>
        have hnext := next_ofSource_of_feed_none hf rest
        obtain ⟨dropped, q, out, behind, rfl, hdropped, hq, hcall⟩ | ⟨hnone, hcall⟩ := ih after
        · left
          refine ⟨p :: dropped, q, out, behind, rfl, ?_, ?_, ?_⟩
          · simp [points_cons_source, hf, hdropped]
          · simp [hf, hq]
          · simp [hnext, hcall, hf]
        · right
          exact ⟨by simp [points_cons_source, hf, hnone], by simp [hnext, hcall, hf]⟩

def after (s : Stream) : Nat → Stream
  | 0 => s
  | k + 1 => (s.after k).next.2

/-- What the call behind `k` calls answers. -/
def answer (s : Stream) (k : Nat) : Option Point := (s.after k).next.1

/-- The stream has taken `front`, the shortest beginning of its source of which `k` points come. -/
structure HasTaken (stages : List StreamStage) (source front : List Point) (k : Nat) (s : Stream) : Prop where
  state : ∃ back, source = front ++ back ∧ s = ofSource back (fed stages front)
  given : (points stages front).length = k
  needed {init : List Point} {p : Point} (h : front = init ++ [p]) : (points stages init).length < k

variable {stages : List StreamStage} {source : List Point} {k : Nat} {s : Stream}

namespace HasTaken

variable {front : List Point}

theorem zero (stages : List StreamStage) (source : List Point) :
    HasTaken stages source [] 0 (ofSource source stages) where
  state := ⟨source, rfl, rfl⟩
  given := rfl
  needed h := by simp at h

/-- A call that gives a point takes the points up to the one that comes through. -/
theorem next (h : HasTaken stages source front k s) (more : k < (points stages source).length) :
    ∃ dropped p, HasTaken stages source (front ++ dropped ++ [p]) (k + 1) s.next.2 ∧
      s.next.1 = (points stages source)[k]? ∧ s.next.1.map Point.time = some p.time := by
  obtain ⟨⟨back, rfl, rfl⟩, rfl, -⟩ := h
  rw [points_append, List.length_append] at more
  obtain ⟨dropped, p, out, rest, rfl, hdropped, hout, hcall⟩ | ⟨hnone, -⟩ := next_cases (fed stages front) back
  · have hbefore : points stages (front ++ dropped) = points stages front := by
      rw [points_append, hdropped, List.append_nil]
    have hwith : points stages (front ++ dropped ++ [p]) = points stages front ++ [out] := by
      rw [points_concat, hbefore, fed_append, hout, Option.toList_some]
    refine ⟨dropped, p, ⟨⟨rest, by simp, by simp [hcall]⟩, by rw [hwith]; simp, ?_⟩, ?_, ?_⟩
    · intro init q h
      obtain ⟨rfl, -⟩ := List.append_inj' h rfl
      simp [hbefore]
    · have hsource : front ++ (dropped ++ p :: rest) = front ++ dropped ++ [p] ++ rest := by simp
      rw [hcall, hsource, points_append, hwith]
      simp
    · have hfeed : feed (fed stages (front ++ dropped)) p =
          ((feed (fed stages (front ++ dropped)) p).1, some out) := Prod.ext rfl (by simp [hout])
      simp [hcall, time_of_feed hfeed]
  · simp [hnone] at more

/-- A call that gives none takes all that is left. -/
theorem next_last (h : HasTaken stages source front (points stages source).length s) :
    s.next = (none, ⟨[], fed stages source, true⟩) := by
  obtain ⟨⟨back, rfl, rfl⟩, hgiven, -⟩ := h
  rw [points_append, List.length_append] at hgiven
  obtain ⟨dropped, p, out, rest, rfl, -, hout, -⟩ | ⟨-, hcall⟩ := next_cases (fed stages front) back
  · simp [points_append, points_cons_source, hout] at hgiven
  · rw [hcall, fed_append]

/-- Of no shorter beginning of the source come so many points. -/
theorem length_points_take_lt (h : HasTaken stages source front k s) {n : Nat} (hn : n < front.length) :
    (points stages (source.take n)).length < k := by
  obtain ⟨⟨back, rfl, rfl⟩, -, hneeded⟩ := h
  obtain rfl | ⟨init, p, rfl⟩ := List.eq_nil_or_concat front
  · simp at hn
  rw [List.concat_eq_append] at hn hneeded ⊢
  have hshort : (init ++ [p] ++ back).take n <+: init := by
    rw [List.length_append, List.length_singleton] at hn
    rw [List.append_assoc, List.take_append_of_le_length (by omega)]
    exact List.take_prefix n init
  exact Nat.lt_of_le_of_lt (points_isPrefix stages hshort).length_le (hneeded rfl)

end HasTaken

/-- As long as there are points to give, each call takes the shortest piece of the source that it can. -/
theorem exists_hasTaken (stages : List StreamStage) (source : List Point) {k : Nat}
    (h : k ≤ (points stages source).length) :
    ∃ front, HasTaken stages source front k ((ofSource source stages).after k) := by
  induction k with
  | zero => exact ⟨[], .zero stages source⟩
  | succ k ih =>
    obtain ⟨front, hfront⟩ := ih (by omega)
    obtain ⟨dropped, p, hnext, -⟩ := hfront.next (by omega)
    exact ⟨_, hnext⟩

/-- A stream that has found its source at an end leaves it alone, even if points have come up in it since. -/
theorem next_of_exhausted (refilled : List Point) (stages : List StreamStage) :
    (⟨refilled, stages, true⟩ : Stream).next = (none, ⟨refilled, stages, true⟩) := rfl

theorem after_of_length_lt (stages : List StreamStage) (source : List Point) {k : Nat}
    (h : (points stages source).length < k) :
    (ofSource source stages).after k = ⟨[], fed stages source, true⟩ := by
  induction k with
  | zero => omega
  | succ k ih =>
    rw [after]
    by_cases hk : (points stages source).length = k
    · obtain ⟨front, hfront⟩ := exists_hasTaken stages source (Nat.le_of_eq hk.symm)
      rw [← hk] at hfront ⊢
      rw [hfront.next_last]
    · rw [ih (by omega), next_of_exhausted]

theorem answer_eq_getElem? (stages : List StreamStage) (source : List Point) (k : Nat) :
    (ofSource source stages).answer k = (points stages source)[k]? := by
  rw [answer]
  rcases Nat.lt_trichotomy k (points stages source).length with h | rfl | h
  · obtain ⟨front, hfront⟩ := exists_hasTaken stages source (Nat.le_of_lt h)
    obtain ⟨dropped, p, -, hanswer, -⟩ := hfront.next h
    exact hanswer
  · obtain ⟨front, hfront⟩ := exists_hasTaken stages source Nat.le.refl
    simp [hfront.next_last]
  · rw [after_of_length_lt stages source h, next_of_exhausted]
    simp [Nat.le_of_lt h]

theorem length_points_of_constants (constants : ∀ s ∈ stages, ∃ c, s = .constant c) (source : List Point) :
    (points stages source).length = source.length := by
  induction stages generalizing source with
  | nil => rw [points_no_stages]
  | cons s rest ih =>
    obtain ⟨⟨c, rfl⟩, hrest⟩ := List.forall_mem_cons.1 constants
    rw [points_cons, ih hrest, StreamStage.run_constant, List.length_map]

/-- What stages make of a whole buffer of points, without a stream. -/
def buffered (stages : List StreamStage) (points : List Point) : List Point :=
  runBuffered (stages.map .streaming) points

theorem buffered_eq_points (stages : List StreamStage) (source : List Point) :
    buffered stages source = points stages source :=
  runBuffered_map_streaming stages source

/-- The calls give one by one what the stages make of the whole source, and before each of them as many points
have been taken as the answers so far need: of fewer points come fewer answers. A call that gives a point takes no
point behind the one that came through. The first call that gives none has taken everything, and the calls behind
it do not look whether the source has points again. Constants take one point for each that they give. -/
theorem calls_take_least (stages : List StreamStage) (source : List Point) :
    (∀ k, (ofSource source stages).answer k = (buffered stages source)[k]?) ∧
    (∀ k ≤ (buffered stages source).length, ∃ n ≤ source.length,
      ((ofSource source stages).after k).source = source.drop n ∧
      (buffered stages (source.take n)).length = k ∧
      ∀ m < n, (buffered stages (source.take m)).length < k) ∧
    (∀ k out, (ofSource source stages).answer k = some out → ∃ dropped p,
      ((ofSource source stages).after k).source = dropped ++ p :: ((ofSource source stages).after (k + 1)).source ∧
      p.time = out.time) ∧
    (∀ k > (buffered stages source).length, ((ofSource source stages).after k).source = [] ∧
      ∀ refilled, { (ofSource source stages).after k with source := refilled }.next =
        (none, { (ofSource source stages).after k with source := refilled })) ∧
    ((∀ s ∈ stages, ∃ c, s = .constant c) →
      ∀ k ≤ source.length, ((ofSource source stages).after k).source = source.drop k) := by
  simp only [buffered_eq_points]
  have least : ∀ k ≤ (points stages source).length, ∃ n ≤ source.length,
      ((ofSource source stages).after k).source = source.drop n ∧
      (points stages (source.take n)).length = k ∧ ∀ m < n, (points stages (source.take m)).length < k := by
    intro k hk
    obtain ⟨front, hfront⟩ := exists_hasTaken stages source hk
    obtain ⟨back, rfl, hstate⟩ := hfront.state
    refine ⟨front.length, by simp, ?_, by simp [hfront.given], fun m hm => hfront.length_points_take_lt hm⟩
    rw [hstate]
    simp [ofSource]
  refine ⟨answer_eq_getElem? stages source, least, fun k out hout => ?_, fun k hk => ?_, fun constants k hk => ?_⟩
  · rw [answer_eq_getElem?] at hout
    obtain ⟨hk, -⟩ := List.getElem?_eq_some_iff.1 hout
    obtain ⟨front, hfront⟩ := exists_hasTaken stages source (Nat.le_of_lt hk)
    obtain ⟨dropped, p, hnext, hanswer, htime⟩ := hfront.next hk
    obtain ⟨back, hsource, hstate⟩ := hfront.state
    obtain ⟨rest, hsource', hstate'⟩ := hnext.state
    refine ⟨dropped, p, ?_, ?_⟩
    · rw [after, hstate', hstate]
      refine List.append_cancel_left (?_ : front ++ _ = front ++ _)
      simp [ofSource, ← hsource, hsource']
    · simp [hanswer, hout] at htime
      exact htime.symm
  · rw [after_of_length_lt stages source hk]
    exact ⟨rfl, fun refilled => next_of_exhausted refilled _⟩
  · have hall := length_points_of_constants constants
    obtain ⟨n, hn, hsource, hgiven, -⟩ := least k (by rwa [hall])
    rw [hall, List.length_take, Nat.min_eq_left hn] at hgiven
    rw [hsource, hgiven]

def doubled : List StreamStage := [.constant ⟨.multiply, .ofInt 2⟩]

def doubledRates : List StreamStage := .derivative .fresh :: doubled

/-- Three times, the first two of them with two points. -/
def standing : List Point := [.ofInt 0 5, .ofInt 0 6, .ofInt 1000 7, .ofInt 1000 8, .ofInt 2000 9]

/-- The first rate takes three points, two of them at one time. -/
theorem calls_doubledRates_standing :
    1 ≤ (buffered doubledRates standing).length ∧
    (∃ n ≤ 5, ((ofSource standing doubledRates).after 1).source = standing.drop n ∧
      (buffered doubledRates (standing.take n)).length = 1 ∧
      ∀ m < n, (buffered doubledRates (standing.take m)).length < 1) ∧
    (∃ out, (ofSource standing doubledRates).answer 0 = some out ∧ ∃ dropped p,
      standing = dropped ++ p :: ((ofSource standing doubledRates).after 1).source ∧ p.time = out.time) ∧
    3 > (buffered doubledRates standing).length ∧ ((ofSource standing doubledRates).after 3).source = [] ∧
    (∀ s ∈ doubled, ∃ c, s = .constant c) ∧ 3 ≤ standing.length ∧
      ((ofSource standing doubled).after 3).source = standing.drop 3 := by
  have hlength : (buffered doubledRates standing).length = 2 := by rfl
  have constants : ∀ s ∈ doubled, ∃ c, s = .constant c := by simp [doubled]
  obtain ⟨answers, least, through, fused, -⟩ := calls_take_least doubledRates standing
  obtain ⟨-, -, -, -, each⟩ := calls_take_least doubled standing
  have hfirst := (answers 0).trans (List.getElem?_eq_getElem (by omega))
  exact ⟨by omega, least 1 (by omega), ⟨_, hfirst, through 0 _ hfirst⟩, by omega, (fused 3 (by omega)).1,
    constants, by decide, each constants 3 (by decide)⟩

end Stream
end SeriesQuery
