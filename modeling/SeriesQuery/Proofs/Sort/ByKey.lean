import Mathlib.Data.List.Pairwise

/-! # Sorting by a key

A stable sort by a key is described without an algorithm: the keys ascend, and the elements of one key are the
ones that there were, in the order that they had. At most one list is like that, and merging yields it.
-/

namespace SeriesQuery.SortByKey

variable {α β : Type}

section Unique

variable [DecidableEq β] {key : α → β}

theorem mem_iff_of_ties {a b : List α}
    (h : ∀ k, (a.filter fun x => key x = k) = b.filter fun x => key x = k) {x : α} : x ∈ a ↔ x ∈ b := by
  have hx : x ∈ (a.filter fun y => key y = key x) ↔ x ∈ b.filter fun y => key y = key x := by
    rw [h (key x)]
  simpa using hx

variable [LE β] [Std.IsLinearOrder β]

/-- Lists in the order of their keys are equal when they are so at every single key. -/
theorem eq_of_ties {a b : List α} (ha : a.Pairwise fun x y => key x ≤ key y)
    (hb : b.Pairwise fun x y => key x ≤ key y)
    (h : ∀ k, (a.filter fun x => key x = k) = b.filter fun x => key x = k) : a = b := by
  induction a generalizing b with
  | nil =>
    symm
    apply List.eq_nil_iff_forall_not_mem.2
    intro x hx
    exact absurd ((mem_iff_of_ties h).2 hx) List.not_mem_nil
  | cons x a ih =>
    have hx : x ∈ b := (mem_iff_of_ties h).1 List.mem_cons_self
    cases b with
    | nil => cases hx
    | cons y b =>
      obtain ⟨hxa, hrestA⟩ := List.pairwise_cons.1 ha
      obtain ⟨hyb, hrestB⟩ := List.pairwise_cons.1 hb
      have hy : y ∈ x :: a := (mem_iff_of_ties h).2 List.mem_cons_self
      have hxy : key x ≤ key y := by
        rcases List.mem_cons.1 hy with rfl | hy
        · exact Std.le_refl _
        · exact hxa y hy
      have hyx : key y ≤ key x := by
        rcases List.mem_cons.1 hx with rfl | hx
        · exact Std.le_refl _
        · exact hyb x hx
      have hkey : key x = key y := Std.le_antisymm hxy hyx
      have hhead := h (key x)
      rw [List.filter_cons_of_pos (by simp), List.filter_cons_of_pos (by simp [hkey])] at hhead
      obtain ⟨rfl, htail⟩ := List.cons.inj hhead
      congr 1
      apply ih hrestA hrestB
      intro k
      by_cases hk : key x = k
      · rw [← hk]
        exact htail
      · have hother := h k
        rwa [List.filter_cons_of_neg (by simp [hk]), List.filter_cons_of_neg (by simp [hk])] at hother

end Unique

section MergeSort

variable [LE β] [DecidableLE β] [Std.IsLinearOrder β] (key : α → β)

theorem decide_le_trans (x y z : α) (hxy : decide (key x ≤ key y) = true)
    (hyz : decide (key y ≤ key z) = true) : decide (key x ≤ key z) = true := by
  rw [decide_eq_true_eq] at hxy hyz ⊢
  exact Std.le_trans hxy hyz

theorem decide_le_total (x y : α) : (decide (key x ≤ key y) || decide (key y ≤ key x)) = true := by
  simpa using (Std.le_total : key x ≤ key y ∨ key y ≤ key x)

theorem pairwise_mergeSort (l : List α) :
    (l.mergeSort fun x y => decide (key x ≤ key y)).Pairwise fun x y => key x ≤ key y :=
  (List.pairwise_mergeSort (decide_le_trans key) (decide_le_total key) l).imp of_decide_eq_true

theorem filter_mergeSort [DecidableEq β] (l : List α) (k : β) :
    ((l.mergeSort fun x y => decide (key x ≤ key y)).filter fun x => key x = k) =
      l.filter fun x => key x = k := by
  -- Elements of one key are in order already, so that they stay a sublist; nothing else has that key.
  have hties : (l.filter fun x => key x = k).Pairwise fun x y => decide (key x ≤ key y) = true := by
    apply List.pairwise_of_forall_mem_list
    intro x hx y hy
    have hx : key x = k := by simpa using (List.mem_filter.1 hx).2
    have hy : key y = k := by simpa using (List.mem_filter.1 hy).2
    simp [hx, hy, Std.le_refl]
  have hsublist := (List.sublist_mergeSort (decide_le_trans key) (decide_le_total key) hties
    List.filter_sublist).filter fun x => key x = k
  simp only [List.filter_filter, Bool.and_self] at hsublist
  have hperm := (List.mergeSort_perm l fun x y => decide (key x ≤ key y)).filter fun x => key x = k
  exact (hsublist.eq_of_length hperm.length_eq.symm).symm

end MergeSort

end SeriesQuery.SortByKey
