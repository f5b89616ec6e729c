import SeriesQuery.Pattern.Match

/-! # What a pattern matches

A pattern relates the places of a text between which it matches. Matching by sets of places computes this
relation: the places reached from a set are those that the pattern relates to one of its members. A repetition
without a bound is covered as well, since an iteration that does not move can be left out, and the others move
to a later place each.
-/

namespace SeriesQuery.Pattern

/-- The character before a place of a text, which has another one in front of it. -/
def charBefore (first : Option Char) (text : List Char) : Nat → Option Char
  | 0 => first
  | i + 1 => text[i]?

def Repeats (step : Nat → Nat → Prop) : Nat → Nat → Nat → Prop
  | 0, i, j => i = j
  | n + 1, i, j => ∃ k, step i k ∧ Repeats step n k j

/-- Whether a pattern matches what is between two places of a text. -/
def Node.Spans (text : List Char) : Node → Nat → Nat → Prop
  | .empty, i, j => i = j ∧ i ≤ text.length
  | .set c, i, j => j = i + 1 ∧ text[i]?.any c.contains
  | .look l, i, j => i = j ∧ i ≤ text.length ∧ l.holds (charBefore none text i) text[i]?
  | .seq a b, i, j => ∃ k, a.Spans text i k ∧ b.Spans text k j
  | .alt a b, i, j => a.Spans text i j ∨ b.Spans text i j
  | .many body least most _, i, j =>
    ∃ times, least ≤ times ∧ (∀ n, most = some n → times ≤ max least n) ∧ Repeats (body.Spans text) times i j
  | .group _ body, i, j => body.Spans text i j

section Steps

variable {step : Nat → Nat → Prop}

theorem Repeats.forward {last : Nat} (hstep : ∀ i j, step i j → i ≤ j ∧ (i < j → j ≤ last)) {n i j : Nat}
    (h : Repeats step n i j) : i ≤ j ∧ (i < j → j ≤ last) := by
  induction n generalizing i with
  | zero =>
    rw [Repeats] at h
    omega
  | succ n ih =>
    rcases h with ⟨k, hik, hkj⟩
    have hfirst := hstep i k hik
    have hothers := ih hkj
    omega

/-- Steps that do not move can be left out. -/
theorem Repeats.exists_le_sub {last : Nat} (hstep : ∀ i j, step i j → i ≤ j ∧ (i < j → j ≤ last)) {n i j : Nat}
    (h : Repeats step n i j) : ∃ m, m ≤ n ∧ m ≤ j - i ∧ Repeats step m i j := by
  induction n generalizing i with
  | zero => exact ⟨0, Nat.le_refl 0, Nat.zero_le _, h⟩
  | succ n ih =>
    rcases h with ⟨k, hik, hkj⟩
    rcases ih hkj with ⟨m, hmn, hm, hrepeats⟩
    by_cases hmoves : i = k
    · subst hmoves
      exact ⟨m, by omega, hm, hrepeats⟩
    · have hfirst := hstep i k hik
      have hothers := hkj.forward hstep
      exact ⟨m + 1, by omega, by omega, k, hik, hrepeats⟩

theorem repeats_or_eq_iff {n i j : Nat} :
    Repeats (fun i j => i = j ∨ step i j) n i j ↔ ∃ m, m ≤ n ∧ Repeats step m i j := by
  induction n generalizing i with
  | zero =>
    constructor
    · intro h
      exact ⟨0, Nat.le_refl 0, h⟩
    · rintro ⟨m, hm, h⟩
      rwa [Nat.le_zero.1 hm] at h
  | succ n ih =>
    simp only [Repeats, ih]
    constructor
    · rintro ⟨k, rfl | hik, m, hm, h⟩
      · exact ⟨m, by omega, h⟩
      · exact ⟨m + 1, by omega, k, hik, h⟩
    · rintro ⟨m, hm, h⟩
      cases m with
      | zero => exact ⟨i, .inl rfl, 0, by omega, h⟩
      | succ m =>
        rcases h with ⟨k, hik, h⟩
        exact ⟨k, .inr hik, m, by omega, h⟩

theorem repeats_add_iff {m n i j : Nat} :
    Repeats step (m + n) i j ↔ ∃ k, Repeats step m i k ∧ Repeats step n k j := by
  induction m generalizing i with
  | zero => simp [Repeats]
  | succ m ih =>
    rw [Nat.add_right_comm]
    simp only [Repeats, ih]
    constructor
    · rintro ⟨l, hil, k, hlk, hkj⟩
      exact ⟨k, ⟨l, hil, hlk⟩, hkj⟩
    · rintro ⟨k, ⟨l, hil, hlk⟩, hkj⟩
      exact ⟨l, hil, k, hlk, hkj⟩

theorem iterate_of_eq {f : Nat → Nat} {s : Nat} (h : f s = s) (n : Nat) : iterate f n s = s := by
  cases n with
  | zero => rfl
  | succ n => simp [iterate, h]

/-- Stopping where nothing changes makes no difference. -/
theorem iterate_succ (f : Nat → Nat) (n s : Nat) : iterate f (n + 1) s = iterate f n (f s) := by
  by_cases h : f s = s
  · rw [h, iterate_of_eq h, iterate_of_eq h]
  · simp [iterate, h]

theorem testBit_iterate {f : Nat → Nat} (hf : ∀ s j, (f s).testBit j ↔ ∃ i, s.testBit i ∧ step i j)
    (n s j : Nat) : (iterate f n s).testBit j ↔ ∃ i, s.testBit i ∧ Repeats step n i j := by
  induction n generalizing s with
  | zero => simp [iterate, Repeats]
  | succ n ih =>
    rw [iterate_succ, ih]
    simp only [hf, Repeats]
    constructor
    · rintro ⟨k, ⟨i, hi, hik⟩, hkj⟩
      exact ⟨i, hi, k, hik, hkj⟩
    · rintro ⟨i, hi, k, hik, hkj⟩
      exact ⟨k, ⟨i, hi, hik⟩, hkj⟩

end Steps

theorem testBit_single_if (place j : Nat) (b : Bool) :
    (if b then 1 <<< place else 0 : Nat).testBit j ↔ j = place ∧ b := by
  cases b <;> simp [Nat.one_shiftLeft, Nat.testBit_two_pow, eq_comm]

theorem testBit_placesWhere (test : Option Char → Option Char → Bool) (place : Nat) (first : Option Char)
    (text : List Char) (j : Nat) : (placesWhere test place first text).testBit j ↔
      ∃ i, j = place + i ∧ i ≤ text.length ∧ test (charBefore first text i) text[i]? := by
  induction text generalizing place first with
  | nil =>
    rw [placesWhere, testBit_single_if]
    constructor
    · rintro ⟨rfl, htest⟩
      exact ⟨0, rfl, Nat.le_refl 0, htest⟩
    · rintro ⟨i, rfl, hi, htest⟩
      cases Nat.le_zero.1 hi
      exact ⟨rfl, htest⟩
  | cons c text ih =>
    rw [placesWhere, Nat.testBit_or, Bool.or_eq_true, testBit_single_if, ih]
    constructor
    · rintro (⟨rfl, htest⟩ | ⟨i, rfl, hi, htest⟩)
      · exact ⟨0, rfl, Nat.zero_le _, htest⟩
      · refine ⟨i + 1, by omega, Nat.succ_le_succ hi, ?_⟩
        cases i <;> exact htest
    · rintro ⟨i, rfl, hi, htest⟩
      cases i with
      | zero => exact .inl ⟨rfl, htest⟩
      | succ i =>
        refine .inr ⟨i, by omega, Nat.le_of_succ_le_succ hi, ?_⟩
        cases i <;> exact htest

theorem testBit_places (test : Option Char → Option Char → Bool) (text : List Char) (i : Nat) :
    (placesWhere test 0 none text).testBit i ↔ i ≤ text.length ∧ test (charBefore none text i) text[i]? := by
  rw [testBit_placesWhere]
  simp only [Nat.zero_add, exists_eq_left']

theorem testBit_allPlaces (n i : Nat) : ((1 <<< (n + 1)) - 1).testBit i ↔ i ≤ n := by
  rw [Nat.one_shiftLeft, Nat.testBit_two_pow_sub_one, decide_eq_true_eq, Nat.lt_succ_iff]

theorem lt_length_of_any {text : List Char} {test : Char → Bool} {i : Nat} (h : text[i]?.any test) :
    i < text.length := by
  rcases (Option.any_eq_true_iff_get _ _).1 h with ⟨hsome, -⟩
  simpa using hsome

namespace Node

variable {text : List Char}

/-- A match does not go back, and where it goes on it stays in the text. -/
theorem Spans.forward {n : Node} {i j : Nat} (h : n.Spans text i j) : i ≤ j ∧ (i < j → j ≤ text.length) := by
  induction n generalizing i j with
  | empty =>
    rcases h with ⟨rfl, hi⟩
    omega
  | set c =>
    rcases h with ⟨rfl, hc⟩
    have hlt := lt_length_of_any hc
    omega
  | look l =>
    rcases h with ⟨rfl, hi, -⟩
    omega
  | seq a b iha ihb =>
    rcases h with ⟨k, hik, hkj⟩
    have hfirst := iha hik
    have hsecond := ihb hkj
    omega
  | alt a b iha ihb =>
    rcases h with h | h
    · exact iha h
    · exact ihb h
  | many body least most isLazy ih =>
    rcases h with ⟨times, -, -, h⟩
    exact h.forward fun _ _ => ih
  | group capturing body ih => exact ih h

theorem testBit_run_keep (places s j : Nat) :
    ((Moves.keep places).run s).testBit j ↔ ∃ i, s.testBit i ∧ i = j ∧ places.testBit i := by
  rw [Moves.run, Nat.testBit_and, Bool.and_eq_true]
  constructor
  · rintro ⟨hs, hplaces⟩
    exact ⟨j, hs, rfl, hplaces⟩
  · rintro ⟨i, hs, rfl, hplaces⟩
    exact ⟨hs, hplaces⟩

theorem testBit_run_advance (places s j : Nat) :
    ((Moves.advance places).run s).testBit j ↔ ∃ i, s.testBit i ∧ j = i + 1 ∧ places.testBit i := by
  rw [Moves.run, Nat.testBit_shiftLeft, Nat.testBit_and]
  constructor
  · intro h
    simp only [Bool.and_eq_true, decide_eq_true_eq] at h
    exact ⟨j - 1, h.2.1, by omega, h.2.2⟩
  · rintro ⟨i, hs, rfl, hplaces⟩
    simp [hs, hplaces]

/-- Sets of places follow the relation of a pattern. -/
theorem testBit_run (n : Node) (s j : Nat) :
    ((n.on text).run s).testBit j ↔ ∃ i, s.testBit i ∧ n.Spans text i j := by
  induction n generalizing s j with
  | empty => simp only [Node.on, testBit_run_keep, testBit_allPlaces, Spans]
  | set c =>
    have hplaces (i : Nat) : (placesWhere (fun _ after => after.any c.contains) 0 none text).testBit i ↔
        text[i]?.any c.contains := by
      rw [testBit_places]
      apply and_iff_right_of_imp
      intro hc
      exact Nat.le_of_lt (lt_length_of_any hc)
    simp only [Node.on, testBit_run_advance, hplaces, Spans]
  | look l => simp only [Node.on, testBit_run_keep, testBit_places, Spans]
  | seq a b iha ihb =>
    rw [Node.on, Moves.run, ihb]
    simp only [iha, Spans]
    constructor
    · rintro ⟨k, ⟨i, hs, hik⟩, hkj⟩
      exact ⟨i, hs, k, hik, hkj⟩
    · rintro ⟨i, hs, k, hik, hkj⟩
      exact ⟨k, ⟨i, hs, hik⟩, hkj⟩
  | alt a b iha ihb =>
    rw [Node.on, Moves.run, Nat.testBit_or, Bool.or_eq_true, iha, ihb]
    simp only [Spans, and_or_left, exists_or]
  | many body least most isLazy ih =>
    have hgrow (s j : Nat) : (s ||| (body.on text).run s).testBit j ↔
        ∃ i, s.testBit i ∧ (i = j ∨ body.Spans text i j) := by
      rw [Nat.testBit_or, Bool.or_eq_true, ih]
      simp only [and_or_left, exists_or, exists_eq_right]
    simp only [Node.on, Moves.run, testBit_iterate hgrow, testBit_iterate ih, repeats_or_eq_iff]
    constructor
    · rintro ⟨k, ⟨i, hs, hleast⟩, extra, hextra, hmore⟩
      refine ⟨i, hs, least + extra, Nat.le_add_right _ _, ?_, repeats_add_iff.2 ⟨k, hleast, hmore⟩⟩
      rintro n rfl
      dsimp only at hextra
      omega
    · rintro ⟨i, hs, times, hleast, hmost, hrepeats⟩
      obtain ⟨extra, rfl⟩ := Nat.exists_eq_add_of_le hleast
      rcases repeats_add_iff.1 hrepeats with ⟨k, hfirst, hmore⟩
      cases most with
      | some n =>
        have hextra := hmost n rfl
        exact ⟨k, ⟨i, hs, hfirst⟩, extra, by dsimp only; omega, hmore⟩
      | none =>
        have hforward (i j : Nat) (h : body.Spans text i j) := h.forward
        rcases hmore.exists_le_sub hforward with ⟨m, -, hm, hmoves⟩
        have hends := hmoves.forward hforward
        exact ⟨k, ⟨i, hs, hfirst⟩, m, by dsimp only; omega, hmoves⟩
  | group capturing body ih => exact ih s j

theorem occursIn_iff (n : Node) : n.occursIn text ↔ ∃ i j, i ≤ text.length ∧ n.Spans text i j := by
  rw [occursIn, bne_iff_ne]
  constructor
  · intro h
    rcases Nat.exists_testBit_of_ne_zero h with ⟨j, hj⟩
    rcases (testBit_run n _ _).1 hj with ⟨i, hi, hspans⟩
    exact ⟨i, j, (testBit_allPlaces _ _).1 hi, hspans⟩
  · rintro ⟨i, j, hi, hspans⟩ hzero
    have hj := (testBit_run n _ j).2 ⟨i, (testBit_allPlaces _ _).2 hi, hspans⟩
    rw [hzero, Nat.zero_testBit] at hj
    cases hj

theorem spans_textStart_iff {i j : Nat} : (look .textStart).Spans text i j ↔ i = 0 ∧ j = 0 := by
  constructor
  · rintro ⟨rfl, hi, hstart⟩
    cases i with
    | zero => exact ⟨rfl, rfl⟩
    | succ i =>
      have hnone : text[i]? = none := by simpa [Look.holds, charBefore] using hstart
      rw [List.getElem?_eq_none_iff] at hnone
      omega
  · rintro ⟨rfl, rfl⟩
    exact ⟨rfl, Nat.zero_le _, rfl⟩

theorem spans_textEnd_iff {i j : Nat} :
    (look .textEnd).Spans text i j ↔ i = text.length ∧ j = text.length := by
  constructor
  · rintro ⟨rfl, hi, hend⟩
    have hnone : text[i]? = none := by simpa [Look.holds] using hend
    rw [List.getElem?_eq_none_iff] at hnone
    omega
  · rintro ⟨rfl, rfl⟩
    exact ⟨rfl, Nat.le_refl _, by simp [Look.holds]⟩

def whole (n : Node) : Node := .seq (.look .textStart) (.seq (.group false n) (.seq (.look .textEnd) .empty))

/-- Between the start and the end of a text, a pattern occurs where it matches the whole text. -/
theorem occursIn_whole_iff (n : Node) : n.whole.occursIn text ↔ n.Spans text 0 text.length := by
  rw [occursIn_iff]
  constructor
  · rintro ⟨i, j, -, k, hstart, l, hspans, m, hend, -⟩
    rcases spans_textStart_iff.1 hstart with ⟨-, rfl⟩
    rcases spans_textEnd_iff.1 hend with ⟨rfl, -⟩
    exact hspans
  · intro h
    have hstart := (@spans_textStart_iff text 0 0).2 ⟨rfl, rfl⟩
    have hend := (@spans_textEnd_iff text _ _).2 ⟨rfl, rfl⟩
    exact ⟨0, text.length, Nat.zero_le _, 0, hstart, text.length, h, text.length, hend, rfl, Nat.le_refl _⟩

end Node

end SeriesQuery.Pattern
