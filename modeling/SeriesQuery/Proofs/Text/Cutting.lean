import Mathlib.Data.List.Chain
import SeriesQuery.Text.Pieces

/-! # Cutting what was put together

Pieces that do not hold their separator come out of a joined text as they went in. For the arrow `=>` this
also needs that no arrow arises where a piece ends, and none does: a piece that ends in `=` stands before
the `=` of the separator, and the `>` of an arrow belongs to the nearest `=`.
-/

namespace SeriesQuery.Text

theorem pieces_append_separator {separator : Char} {piece : List Char} (h : separator ∉ piece)
    (rest : List Char) : pieces separator (piece ++ separator :: rest) = piece :: pieces separator rest := by
  induction piece with
  | nil => simp [pieces]
  | cons c piece ih =>
    rw [List.mem_cons, not_or] at h
    simp [pieces, Ne.symm h.1, ih h.2, extendFirst]

/-- A way of cutting that takes off one piece at a time takes apart what was joined. -/
theorem cut_joined (cut : List Char → List (List Char)) (separator : List Char) {Free : List Char → Prop}
    (last : ∀ piece, Free piece → cut piece = [piece])
    (step : ∀ piece rest, Free piece → cut (piece ++ (separator ++ rest)) = piece :: cut rest)
    {first : List Char} {others : List (List Char)} (h : ∀ piece ∈ first :: others, Free piece) :
    cut (first ++ others.flatMap fun piece => separator ++ piece) = first :: others := by
  induction others generalizing first with
  | nil =>
    rw [List.flatMap_nil, List.append_nil]
    exact last first (h first List.mem_cons_self)
  | cons piece others ih =>
    obtain ⟨hfirst, hothers⟩ := List.forall_mem_cons.1 h
    rw [List.flatMap_cons, List.append_assoc, step _ _ hfirst, ih hothers]

theorem pieces_joined {separator : Char} {first : List Char} {others : List (List Char)}
    (h : ∀ piece ∈ first :: others, separator ∉ piece) :
    pieces separator (first ++ others.flatMap fun piece => [separator] ++ piece) = first :: others :=
  cut_joined (pieces separator) [separator] (fun _ => pieces_of_not_mem)
    (fun _ rest hpiece => pieces_append_separator hpiece rest) h

/-- The text holds no `=>`. -/
def ArrowFree (text : List Char) : Prop := ¬ ['=', '>'] <:+: text

theorem arrowFree_iff_isChain {text : List Char} :
    ArrowFree text ↔ text.IsChain fun c d => ¬ (c = '=' ∧ d = '>') := by
  rw [List.isChain_iff_forall_rel_of_append_cons_cons]
  constructor
  · rintro h c d front back rfl ⟨rfl, rfl⟩
    exact h ⟨front, back, by simp⟩
  · rintro h ⟨front, back, hback⟩
    exact h (by rw [← hback, List.append_assoc]; rfl) ⟨rfl, rfl⟩

instance (text : List Char) : Decidable (ArrowFree text) :=
  decidable_of_iff _ arrowFree_iff_isChain.symm

/-- A character that is no part of an arrow keeps the arrows on its two sides apart. -/
theorem arrowFree_append_cons {c : Char} (heq : c ≠ '=') (hgt : c ≠ '>') {front back : List Char} :
    ArrowFree (front ++ c :: back) ↔ ArrowFree front ∧ ArrowFree back := by
  simp only [arrowFree_iff_isChain, List.isChain_append, List.isChain_cons]
  simp [heq, hgt]

theorem arrowFree_of_not_mem {text : List Char} (h : '=' ∉ text) : ArrowFree text :=
  fun harrow => h (harrow.subset List.mem_cons_self)

/-- No arrow arises where texts are joined by such a character. -/
theorem arrowFree_joined {c : Char} (heq : c ≠ '=') (hgt : c ≠ '>') {first : List Char}
    {others : List (List Char)} (h : ∀ text ∈ first :: others, ArrowFree text) :
    ArrowFree (first ++ others.flatMap fun text => [c] ++ text) := by
  induction others generalizing first with
  | nil =>
    rw [List.flatMap_nil, List.append_nil]
    exact h first List.mem_cons_self
  | cons text others ih =>
    obtain ⟨hfirst, hothers⟩ := List.forall_mem_cons.1 h
    rw [List.flatMap_cons, List.append_assoc, List.singleton_append, arrowFree_append_cons heq hgt]
    exact ⟨hfirst, ih hothers⟩

theorem arrowPieces_append_arrow {piece : List Char} (h : ArrowFree piece) (rest : List Char) :
    arrowPieces (piece ++ '=' :: '>' :: rest) = piece :: arrowPieces rest := by
  induction piece with
  | nil => rfl
  | cons c piece ih =>
    rw [arrowFree_iff_isChain, List.isChain_cons, ← arrowFree_iff_isChain] at h
    obtain ⟨hhead, hpiece⟩ := h
    rw [List.cons_append, arrowPieces, ih hpiece, extendFirst]
    · rfl
    · -- No arrow begins at `c`: what stands behind it is the piece or the `=` of the separator.
      rintro more rfl hmore
      cases piece with
      | nil => cases hmore
      | cons d piece =>
        cases hmore
        exact hhead '>' rfl ⟨rfl, rfl⟩

theorem arrowPieces_of_arrowFree {text : List Char} (h : ArrowFree text) : arrowPieces text = [text] := by
  induction text with
  | nil => rfl
  | cons c text ih =>
    rw [arrowFree_iff_isChain, List.isChain_cons, ← arrowFree_iff_isChain] at h
    obtain ⟨hhead, htext⟩ := h
    rw [arrowPieces, ih htext, extendFirst]
    · rfl
    · rintro more rfl rfl
      exact hhead '>' rfl ⟨rfl, rfl⟩

theorem arrowPieces_joined {first : List Char} {others : List (List Char)}
    (h : ∀ piece ∈ first :: others, ArrowFree piece) :
    arrowPieces (first ++ others.flatMap fun piece => ['=', '>'] ++ piece) = first :: others :=
  cut_joined arrowPieces ['=', '>'] (fun _ => arrowPieces_of_arrowFree)
    (fun _ rest hpiece => arrowPieces_append_arrow hpiece rest) h

/-- Nothing is dropped from pieces of which the last is not empty. -/
theorem dropTrailingEmpty_of_getLast_ne_nil {ps : List (List Char)} (h : ∀ last ∈ ps.getLast?, last ≠ []) :
    dropTrailingEmpty ps = ps := by
  induction ps with
  | nil => rfl
  | cons p rest ih =>
    cases rest with
    | nil =>
      cases p with
      | nil => exact absurd rfl (h [] rfl)
      | cons c p => rfl
    | cons q rest =>
      have hrest := ih fun last hlast => h last (by rw [List.getLast?_cons_cons]; exact hlast)
      rw [dropTrailingEmpty, hrest]
      exact fun _ hnil => nomatch hrest.symm.trans hnil

/-- What stands before the first separator can be taken off before cutting. -/
theorem cutAt_append_of_not_mem {separator : Char} {front : List Char} (h : separator ∉ front)
    (back : List Char) :
    cutAt separator (front ++ back) = (front ++ (cutAt separator back).1, (cutAt separator back).2) := by
  induction front with
  | nil => rfl
  | cons c front ih =>
    rw [List.mem_cons, not_or] at h
    simp [cutAt, Ne.symm h.1, ih h.2]

theorem cutAt_eq_some_iff {separator : Char} {text before after : List Char} :
    cutAt separator text = (before, some after) ↔ separator ∉ before ∧ text = before ++ separator :: after := by
  constructor
  · intro h
    by_cases hmem : separator ∈ text
    · rcases List.eq_append_cons_of_mem hmem with ⟨front, back, rfl, hfree⟩
      cases (cutAt_append hfree back).symm.trans h
      exact ⟨hfree, rfl⟩
    · rw [cutAt_of_not_mem hmem] at h
      cases h
  · rintro ⟨hfree, rfl⟩
    exact cutAt_append hfree after

/-! ## Texts one behind the other -/

/-- The pieces of two texts in a row: the last piece of the one and the first of the other have become one. -/
def joinPieces : List (List Char) → List (List Char) → List (List Char)
  | [], others => others
  | [last], others => extendFirst last others
  | piece :: next :: rest, others => piece :: joinPieces (next :: rest) others

theorem extendFirst_nil {ps : List (List Char)} (h : ps ≠ []) : extendFirst [] ps = ps := by
  cases ps with
  | nil => exact absurd rfl h
  | cons p ps => rfl

theorem joinPieces_cons {p : List Char} {ps : List (List Char)} (h : ps ≠ []) (others : List (List Char)) :
    joinPieces (p :: ps) others = p :: joinPieces ps others := by
  cases ps with
  | nil => exact absurd rfl h
  | cons q ps => rfl

theorem joinPieces_extendFirst (head : List Char) {ps : List (List Char)} (h : ps ≠ [])
    (others : List (List Char)) :
    joinPieces (extendFirst head ps) others = extendFirst head (joinPieces ps others) := by
  cases ps with
  | nil => exact absurd rfl h
  | cons p ps =>
    cases ps with
    | nil => cases others <;> simp [joinPieces, extendFirst]
    | cons q ps => rfl

theorem joinPieces_concat (ps : List (List Char)) (last : List Char) (others : List (List Char)) :
    joinPieces (ps ++ [last]) others = ps ++ extendFirst last others := by
  induction ps with
  | nil => rfl
  | cons p ps ih => rw [List.cons_append, joinPieces_cons (by simp), ih, List.cons_append]

/-- If the second text starts with a separator, the pieces are those of the two. -/
theorem joinPieces_nil_cons {ps : List (List Char)} (h : ps ≠ []) (others : List (List Char)) :
    joinPieces ps ([] :: others) = ps ++ others := by
  rw [← List.dropLast_concat_getLast h, joinPieces_concat, extendFirst]
  simp

theorem pieces_append (separator : Char) (front back : List Char) :
    pieces separator (front ++ back) = joinPieces (pieces separator front) (pieces separator back) := by
  induction front with
  | nil => exact (extendFirst_nil (pieces_ne_nil separator back)).symm
  | cons c front ih =>
    have hne := pieces_ne_nil separator front
    rw [List.cons_append, pieces, pieces, ih]
    split
    · exact (joinPieces_cons hne _).symm
    · exact (joinPieces_extendFirst [c] hne _).symm

/-- No arrow lies across the seam of two texts unless the second starts with its `>`. -/
theorem arrowPieces_append (front : List Char) {back : List Char} (h : back.head? ≠ some '>') :
    arrowPieces (front ++ back) = joinPieces (arrowPieces front) (arrowPieces back) := by
  fun_induction arrowPieces front with
  | case1 => exact (extendFirst_nil (arrowPieces_ne_nil back)).symm
  | case2 front ih =>
    rw [joinPieces_cons (arrowPieces_ne_nil front), ← ih]
    rfl
  | case3 c front hfree ih =>
    rw [joinPieces_extendFirst [c] (arrowPieces_ne_nil front), ← ih, List.cons_append, arrowPieces]
    rintro rest rfl hrest
    cases front with
    | nil =>
      rw [List.nil_append] at hrest
      exact h (by rw [hrest, List.head?_cons])
    | cons d front =>
      cases hrest
      exact hfree front rfl rfl

theorem intercalate_append_nil (separator : List Char) {ps : List (List Char)} (h : ps ≠ []) :
    separator.intercalate (ps ++ [[]]) = separator.intercalate ps ++ separator := by
  induction ps with
  | nil => exact absurd rfl h
  | cons p ps ih =>
    cases ps with
    | nil => simp [List.intercalate]
    | cons q ps =>
      rw [List.cons_append, List.cons_append, List.intercalate_cons_cons, List.intercalate_cons_cons,
        ← List.cons_append, ih (List.cons_ne_nil q ps), List.append_assoc, List.append_assoc, List.append_assoc]

/-- The last of several pieces is empty only if an arrow stands at the end. -/
theorem arrow_suffix_of_arrowPieces {text : List Char} {ps : List (List Char)} (h : arrowPieces text = ps ++ [[]])
    (hps : ps ≠ []) : ['=', '>'] <:+ text := by
  rw [← intercalate_arrowPieces text, h, intercalate_append_nil _ hps]
  exact List.suffix_append _ _

theorem dropTrailingEmpty_append_nil (ps : List (List Char)) :
    dropTrailingEmpty (ps ++ [[]]) = dropTrailingEmpty ps := by
  induction ps with
  | nil => rfl
  | cons p ps ih => simp only [List.cons_append, dropTrailingEmpty, ih]

theorem firstAndRest_append_nil {ps : List (List Char)} (h : ps ≠ []) :
    firstAndRest (ps ++ [[]]) = firstAndRest ps := by
  cases ps with
  | nil => exact absurd rfl h
  | cons p ps => rw [List.cons_append, firstAndRest, firstAndRest, dropTrailingEmpty_append_nil]

end SeriesQuery.Text
