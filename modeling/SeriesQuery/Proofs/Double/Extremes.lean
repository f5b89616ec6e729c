import SeriesQuery.Double.Basic

/-! # Extremes of doubles

The least and the greatest of doubles are found by going through them from an infinity, which each gives way to.
A NaN gives way to all of them, and of equal numbers the first one stays. So what is found is the first among the
extreme ones, bit for bit, as soon as one of them is no NaN; among NaNs alone the infinity is left.
-/

namespace SeriesQuery.Double

/-- The first of the doubles that no other one goes before. NaNs are passed over. -/
def IsFirst (before : Double → Double → Prop) (values : List Double) (d : Double) : Prop :=
  ∃ front back, values = front ++ d :: back ∧ d.isNaN = false ∧
    (∀ v ∈ front, v.isNaN = false → before d v) ∧ ∀ v ∈ back, ¬ before v d

/-- The first of the doubles, or what takes its place where there are only NaNs. -/
def IsExtreme (before : Double → Double → Prop) (otherwise : Double) (values : List Double) (d : Double) : Prop :=
  IsFirst before values d ∨ (∀ v ∈ values, v.isNaN = true) ∧ d = otherwise

namespace IsFirst

variable {before : Double → Double → Prop} {values : List Double} {d e start : Double}

theorem mem_and_isNaN (h : IsFirst before values d) : d ∈ values ∧ d.isNaN = false := by
  obtain ⟨front, back, rfl, hnumber, -⟩ := h
  exact ⟨List.mem_append_right front List.mem_cons_self, hnumber⟩

theorem unique (hd : IsFirst before values d) (he : IsFirst before values e) : d = e := by
  obtain ⟨front, back, rfl, hnumber, hfront, hback⟩ := hd
  obtain ⟨front', back', hsplit, hnumber', hfront', hback'⟩ := he
  rcases List.append_eq_append_iff.1 hsplit with ⟨between, rfl, hrest⟩ | ⟨between, rfl, hrest⟩
  · cases between with
    | nil => exact (List.cons.inj hrest).1
    | cons _ between =>
      obtain ⟨rfl, rfl⟩ := List.cons.inj hrest
      exact absurd (hfront' d (by simp) hnumber) (hback e (by simp))
  · cases between with
    | nil => exact (List.cons.inj hrest).1.symm
    | cons _ between =>
      obtain ⟨rfl, rfl⟩ := List.cons.inj hrest
      exact absurd (hfront e (by simp) hnumber') (hback' d (by simp))

/-- A double in front that all numbers go before is first only where there are no numbers but itself. -/
theorem of_cons (last : ∀ v : Double, v.isNaN = false → ¬ before v start → v = start)
    (h : IsFirst before (start :: values) d) : IsExtreme before start values d := by
  obtain ⟨front, back, hsplit, hnumber, hfront, hback⟩ := h
  cases front with
  | cons _ front =>
    obtain ⟨rfl, rfl⟩ := List.cons.inj hsplit
    exact .inl ⟨front, back, rfl, hnumber, (List.forall_mem_cons.1 hfront).2, hback⟩
  | nil =>
    obtain ⟨rfl, rfl⟩ := List.cons.inj hsplit
    cases hfind : values.find? fun v => !v.isNaN with
    | none =>
      rw [List.find?_eq_none] at hfind
      exact .inr ⟨fun v hv => by simpa using hfind v hv, rfl⟩
    | some v =>
      obtain ⟨hv, front, back, hvalues, hnans⟩ := List.find?_eq_some_iff_append.1 hfind
      obtain rfl := last v (by simpa using hv) (hback v (List.mem_of_find?_eq_some hfind))
      refine .inl ⟨front, back, hvalues, hnumber, fun w hw hw' => ?_, fun w hw => hback w (by simp [hvalues, hw])⟩
      exact absurd (hnans w hw) (by simp [hw'])

end IsFirst

theorem IsExtreme.unique {before : Double → Double → Prop} {otherwise : Double} {values : List Double} {d e : Double}
    (hd : IsExtreme before otherwise values d) (he : IsExtreme before otherwise values e) : d = e := by
  have apart {v : Double} (hfirst : IsFirst before values v) : ¬ ∀ v ∈ values, v.isNaN = true := by
    obtain ⟨hmem, hnumber⟩ := hfirst.mem_and_isNaN
    exact fun hnans => absurd (hnans v hmem) (by simp [hnumber])
  rcases hd with hd | ⟨hnans, rfl⟩
  · exact hd.unique (he.resolve_right fun h => apart hd h.1)
  · exact (he.resolve_left fun h => apart h hnans).2.symm

/-- Among doubles of which one is a number, an extreme one is found. -/
theorem IsExtreme.mem {before : Double → Double → Prop} {otherwise : Double} {values : List Double} {d : Double}
    (h : IsExtreme before otherwise values d) (number : ∃ v ∈ values, v.isNaN = false) : d ∈ values := by
  rcases h with h | ⟨hnans, -⟩
  · exact h.mem_and_isNaN.1
  · obtain ⟨v, hv, hnumber⟩ := number
    exact absurd (hnans v hv) (by simp [hnumber])

/-- The second of two doubles is picked where it goes before the first, in an order that NaNs have no place in. -/
structure Picks (pick : Double → Double → Double) (before : Double → Double → Prop) : Prop where
  of_before {a b : Double} : before b a → pick a b = b
  of_not_before {a b : Double} : a.isNaN = false → ¬ before b a → pick a b = a
  isNaN {a b : Double} : before b a → b.isNaN = false
  trans {a b c : Double} : before a b → before b c → before a c
  trans_not {a b c : Double} : before a b → c.isNaN = false → ¬ before c b → before a c

theorem picks_lesser : Picks lesser fun a b => a.lt b = true where
  of_before h := by grind [lesser, lt]
  of_not_before ha h := by grind [lesser]
  isNaN h := by grind [lt]
  trans hab hbc := by grind [lt]
  trans_not hab hc h := by grind [lt]

theorem picks_greater : Picks greater fun a b => b.lt a = true where
  of_before h := by grind [greater, lt]
  of_not_before ha h := by grind [greater]
  isNaN h := by grind [lt]
  trans hab hbc := by grind [lt]
  trans_not hab hc h := by grind [lt]

/-- Going through doubles finds the first of them all, the start included. The induction is on the doubles, and
whatever has been picked takes the place of the start. -/
theorem Picks.isFirst_foldl {pick : Double → Double → Double} {before : Double → Double → Prop}
    (h : Picks pick before) {start : Double} (hstart : start.isNaN = false) (values : List Double) :
    IsFirst before (start :: values) (values.foldl pick start) := by
  induction values generalizing start with
  | nil => exact ⟨[], [], rfl, hstart, by simp, by simp⟩
  | cons v rest ih =>
    rw [List.foldl_cons]
    by_cases hv : before v start
    · rw [h.of_before hv]
      obtain ⟨front, back, hsplit, hnumber, hfront, hback⟩ := ih (h.isNaN hv)
      refine ⟨start :: front, back, by rw [hsplit, List.cons_append], hnumber,
        List.forall_mem_cons.2 ⟨fun _ => ?_, hfront⟩, hback⟩
      cases front with
      | nil =>
        rw [← (List.cons.inj hsplit).1]
        exact hv
      | cons _ front =>
        obtain ⟨rfl, -⟩ := List.cons.inj hsplit
        exact h.trans (hfront v List.mem_cons_self (h.isNaN hv)) hv
    · rw [h.of_not_before hstart hv]
      obtain ⟨front, back, hsplit, hnumber, hfront, hback⟩ := ih hstart
      cases front with
      | nil =>
        obtain ⟨heq, rfl⟩ := List.cons.inj hsplit
        rw [← heq] at hback ⊢
        exact ⟨[], v :: rest, rfl, hstart, by simp, List.forall_mem_cons.2 ⟨hv, hback⟩⟩
      | cons _ front =>
        obtain ⟨rfl, hrest⟩ := List.cons.inj hsplit
        rw [List.forall_mem_cons] at hfront
        refine ⟨start :: v :: front, back, congrArg (start :: v :: ·) hrest, hnumber, ?_, hback⟩
        rw [List.forall_mem_cons, List.forall_mem_cons]
        exact ⟨hfront.1, fun hvalue => h.trans_not (hfront.1 hstart) hvalue hv, hfront.2⟩

theorem eq_of_isNegative_of_magnitude {a b : Double} (hsign : a.isNegative = b.isNegative)
    (hmagnitude : a.magnitude = b.magnitude) : a = b := by
  obtain ⟨a⟩ := a
  obtain ⟨b⟩ := b
  simp only [isNegative, magnitude, Nat.pow_eq, decide_eq_decide] at hsign hmagnitude
  have ha := a.toNat_lt
  have hb := b.toNat_lt
  rw [mk.injEq, ← UInt64.toNat_inj]
  omega

/-- A number as far from zero as the infinities is one of them. -/
theorem eq_infinite_of_magnitude {d : Double} (hd : d.isNaN = false) (h : infinityMagnitude ≤ d.magnitude) :
    d = if d.isNegative then negativeInfinity else infinity := by
  rw [isNaN, decide_eq_false_iff_not] at hd
  have hmagnitude : d.magnitude = infinityMagnitude := by omega
  split
  · rename_i hsign
    exact eq_of_isNegative_of_magnitude hsign hmagnitude
  · rename_i hsign
    exact eq_of_isNegative_of_magnitude (Bool.eq_false_iff.2 hsign) hmagnitude

theorem eq_infinity_of_not_lt {d : Double} (hd : d.isNaN = false) (h : ¬ d.lt infinity = true) : d = infinity := by
  have hinfinity : infinity.isNaN = false ∧ infinity.rank = infinityMagnitude := by decide
  have hrank : ¬ d.rank < infinityMagnitude := by simpa [lt, hd, hinfinity] using h
  rw [rank] at hrank
  split at hrank
  · simp only [infinityMagnitude] at hrank
    omega
  · rename_i hsign
    simpa [hsign] using eq_infinite_of_magnitude hd (by omega)

theorem eq_negativeInfinity_of_not_lt {d : Double} (hd : d.isNaN = false) (h : ¬ negativeInfinity.lt d = true) :
    d = negativeInfinity := by
  have hinfinity : negativeInfinity.isNaN = false ∧ negativeInfinity.rank = -infinityMagnitude := by decide
  have hrank : ¬ -(infinityMagnitude : Int) < d.rank := by simpa [lt, hd, hinfinity] using h
  rw [rank] at hrank
  split at hrank
  · rename_i hsign
    simpa [hsign] using eq_infinite_of_magnitude hd (by omega)
  · simp only [infinityMagnitude] at hrank
    omega

theorem isExtreme_lesser (values : List Double) :
    IsExtreme (fun a b => a.lt b = true) infinity values (values.foldl lesser infinity) :=
  (picks_lesser.isFirst_foldl rfl values).of_cons fun _ => eq_infinity_of_not_lt

theorem isExtreme_greater (values : List Double) :
    IsExtreme (fun a b => b.lt a = true) negativeInfinity values (values.foldl greater negativeInfinity) :=
  (picks_greater.isFirst_foldl rfl values).of_cons fun _ => eq_negativeInfinity_of_not_lt

end SeriesQuery.Double
