import Mathlib.Algebra.BigOperators.Group.List.Basic
import Mathlib.Algebra.GroupWithZero.Nat
import Mathlib.Data.List.Induction
import Mathlib.Data.List.Perm.Basic
import Mathlib.Data.List.Nodup
import SeriesQuery.OrderedMap
import SeriesQuery.Proofs.Sort.ByKey

/-! # Gathering values by key

The elements of a list go one after the other into a map of growing lists, each behind what its key already
has. The map that comes out has the keys of the elements, and under each key the values of the elements with
that key in the order of the list. Ascending lists of keys are told apart by their members alone, so two such
maps are compared key by key.
-/

namespace SeriesQuery.OrderedMap

variable {α κ ν : Type}

section Values

variable [DecidableEq κ]

def valuesOf (key : α → κ) (values : α → List ν) (l : List α) (k : κ) : List ν :=
  (l.filter fun a => key a = k).flatMap values

theorem valuesOf_append (key : α → κ) (values : α → List ν) (front back : List α) (k : κ) :
    valuesOf key values (front ++ back) k = valuesOf key values front k ++ valuesOf key values back k := by
  rw [valuesOf, List.filter_append, List.flatMap_append, valuesOf, valuesOf]

theorem valuesOf_of_not_mem {key : α → κ} {values : α → List ν} {l : List α} {k : κ}
    (h : ∀ a ∈ l, key a ≠ k) : valuesOf key values l k = [] := by
  have hnone : (l.filter fun a => key a = k) = [] := List.filter_eq_nil_iff.2 fun a ha => by simp [h a ha]
  rw [valuesOf, hnone, List.flatMap_nil]

theorem valuesOf_append_filter_ne (key : α → κ) (values : α → List ν) (l : List α) (k : κ) :
    valuesOf key values l k ++ (l.filter fun a => key a ≠ k).flatMap values =
      ((l.filter fun a => key a = k) ++ l.filter fun a => key a ≠ k).flatMap values :=
  List.flatMap_append.symm

/-- The values of further keys can be taken from what one key leaves over. -/
theorem flatMap_valuesOf_filter_ne (key : α → κ) (values : α → List ν) (l : List α) {k : κ} {keys : List κ}
    (hk : k ∉ keys) :
    keys.flatMap (valuesOf key values (l.filter fun a => key a ≠ k)) = keys.flatMap (valuesOf key values l) := by
  apply List.flatMap_congr
  intro other hother
  have hne : other ≠ k := ne_of_mem_of_not_mem hother hk
  rw [valuesOf, valuesOf, List.filter_filter]
  congr 1
  apply List.filter_congr
  intro a _
  by_cases ha : key a = other <;> simp [ha, hne]

theorem covered_filter_ne {key : α → κ} {l : List α} {k : κ} {keys : List κ}
    (covered : ∀ a ∈ l, key a ∈ k :: keys) : ∀ a ∈ l.filter fun a => key a ≠ k, key a ∈ keys := by
  intro a ha
  obtain ⟨ha, hne⟩ := List.mem_filter.1 ha
  exact (List.mem_cons.1 (covered a ha)).resolve_left (of_decide_eq_true hne)

/-- Each value is under one key and under no other. -/
theorem perm_flatMap_valuesOf (key : α → κ) (values : α → List ν) {l : List α} {keys : List κ}
    (nodup : keys.Nodup) (covered : ∀ a ∈ l, key a ∈ keys) :
    (keys.flatMap (valuesOf key values l)).Perm (l.flatMap values) := by
  induction keys generalizing l with
  | nil =>
    have hl : l = [] := List.eq_nil_iff_forall_not_mem.2 fun a ha => List.not_mem_nil (covered a ha)
    rw [hl]
    exact .refl _
  | cons k keys ih =>
    obtain ⟨hk, hkeys⟩ := List.nodup_cons.1 nodup
    have hrest := ih hkeys (covered_filter_ne covered)
    rw [flatMap_valuesOf_filter_ne key values l hk] at hrest
    refine (hrest.append_left _).trans ?_
    rw [valuesOf_append_filter_ne]
    have hparts := List.filter_append_perm (fun a => decide (key a = k)) l
    simp only [← decide_not] at hparts
    exact hparts.flatMap_right _

/-- Elements in the order of their keys are those of the least key and behind them the others. -/
theorem filter_append_filter_ne_of_least [LE κ] [Std.IsLinearOrder κ] {key : α → κ} {l : List α} {k : κ}
    (sorted : l.Pairwise fun a b => key a ≤ key b) (least : ∀ a ∈ l, k ≤ key a) :
    ((l.filter fun a => key a = k) ++ l.filter fun a => key a ≠ k) = l := by
  induction l with
  | nil => rfl
  | cons a l ih =>
    obtain ⟨ha, hl⟩ := List.pairwise_cons.1 sorted
    obtain ⟨hleast, hrest⟩ := List.forall_mem_cons.1 least
    by_cases hk : key a = k
    · simpa [hk] using ih hl hrest
    · have hnone : ∀ b ∈ a :: l, key b ≠ k := by
        intro b hb hbk
        obtain rfl | hb := List.mem_cons.1 hb
        · exact hk hbk
        · exact hk (Std.le_antisymm (hbk ▸ ha b hb) hleast)
      rw [List.filter_eq_nil_iff.2 fun b hb => by simpa using hnone b hb,
        List.filter_eq_self.2 fun b hb => by simpa using hnone b hb, List.nil_append]

/-- When the elements are in the order of the keys, so are the values. -/
theorem flatMap_valuesOf_of_pairwise [LE κ] [Std.IsLinearOrder κ] {key : α → κ} (values : α → List ν)
    {l : List α} {keys : List κ} (nodup : keys.Nodup) (ascending : keys.Pairwise (· ≤ ·))
    (covered : ∀ a ∈ l, key a ∈ keys) (sorted : l.Pairwise fun a b => key a ≤ key b) :
    keys.flatMap (valuesOf key values l) = l.flatMap values := by
  induction keys generalizing l with
  | nil =>
    have hl : l = [] := List.eq_nil_iff_forall_not_mem.2 fun a ha => List.not_mem_nil (covered a ha)
    rw [hl]
    rfl
  | cons k keys ih =>
    obtain ⟨hk, hkeys⟩ := List.nodup_cons.1 nodup
    obtain ⟨hleast, hascending⟩ := List.pairwise_cons.1 ascending
    have hrest := ih hkeys hascending (covered_filter_ne covered) (sorted.filter _)
    rw [flatMap_valuesOf_filter_ne key values l hk] at hrest
    rw [List.flatMap_cons, hrest, valuesOf_append_filter_ne, filter_append_filter_ne_of_least sorted]
    intro a ha
    obtain h | h := List.mem_cons.1 (covered a ha)
    · rw [h]
      exact Std.le_refl k
    · exact hleast _ h

theorem sum_length_valuesOf (key : α → κ) (values : α → List ν) {l : List α} {keys : List κ}
    (nodup : keys.Nodup) (covered : ∀ a ∈ l, key a ∈ keys) :
    (keys.map fun k => (valuesOf key values l k).length).sum = (l.flatMap values).length := by
  rw [← (perm_flatMap_valuesOf key values nodup covered).length_eq, List.length_flatMap]

end Values

variable [Ord κ]

theorem ascending_keys (m : OrderedMap κ ν) : m.keys.Pairwise fun a b => compare a b = .lt := by
  rw [keys, List.pairwise_map]
  exact m.ascending

theorem ne_of_compare_eq_lt [Std.LawfulEqOrd κ] {x y : κ} (h : compare x y = .lt) :
    x ≠ y := by
  rintro rfl
  rw [Std.compare_self] at h
  cases h

variable [Std.TransOrd κ] [Std.LawfulEqOrd κ]

theorem mem_keys_iff {m : OrderedMap κ ν} {k : κ} : k ∈ m.keys ↔ ∃ value, m.find? k = some value := by
  rw [keys, List.mem_map]
  constructor
  · rintro ⟨e, he, rfl⟩
    exact ⟨e.2, find?_eq_some_iff.2 he⟩
  · rintro ⟨value, h⟩
    exact ⟨(k, value), find?_eq_some_iff.1 h, rfl⟩

theorem eq_of_ascending {a b : List κ} (ha : a.Pairwise fun x y => compare x y = .lt)
    (hb : b.Pairwise fun x y => compare x y = .lt) (h : ∀ k, k ∈ a ↔ k ∈ b) : a = b := by
  have distinct {l : List κ} (hl : l.Pairwise fun x y => compare x y = .lt) : l.Nodup :=
    hl.imp ne_of_compare_eq_lt
  have hperm : a.Perm b := (List.perm_ext_iff_of_nodup (distinct ha) (distinct hb)).2 h
  refine hperm.eq_of_pairwise (fun x y _ _ hxy hyx => ?_) ha hb
  rw [Std.OrientedCmp.gt_of_lt hxy] at hyx
  cases hyx

/-- Once the value of every key is known, so are the entries. -/
theorem entries_eq_map_keys {m : OrderedMap κ ν} {f : κ → ν} (h : ∀ k ∈ m.keys, m.find? k = some (f k)) :
    m.entries = m.keys.map fun k => (k, f k) := by
  rw [keys, List.map_map]
  refine ((List.map_congr_left fun e he => ?_).trans (List.map_id m.entries)).symm
  have hkey : e.1 ∈ m.keys := List.mem_map_of_mem he
  have hvalue : some (f e.1) = some e.2 := (h e.1 hkey).symm.trans (find?_eq_some_iff.2 he)
  rw [Function.comp_apply, Option.some.inj hvalue]
  rfl

/-- The values of the elements by their keys, in the order of the list. -/
def gather (key : α → κ) (values : α → List ν) (l : List α) : OrderedMap κ (List ν) :=
  l.foldl (fun m a => m.alter (key a) fun old => old.getD [] ++ values a) .empty

theorem gather_snoc (key : α → κ) (values : α → List ν) (l : List α) (a : α) :
    gather key values (l ++ [a]) =
      (gather key values l).alter (key a) fun old => old.getD [] ++ values a := by
  rw [gather, List.foldl_append]
  rfl

variable [DecidableEq κ]

theorem find?_gather_cases (key : α → κ) (values : α → List ν) (l : List α) (k : κ) :
    (∃ a ∈ l, key a = k) ∧ (gather key values l).find? k = some (valuesOf key values l k) ∨
      (∀ a ∈ l, key a ≠ k) ∧ (gather key values l).find? k = none := by
  -- From the back, because the last element is the last one to be put into the map.
  induction l using List.reverseRecOn with
  | nil => exact .inr ⟨nofun, rfl⟩
  | append_singleton l a ih =>
    rw [gather_snoc, valuesOf_append]
    by_cases ha : key a = k
    · refine .inl ⟨⟨a, by simp, ha⟩, ?_⟩
      have hlast : valuesOf key values [a] k = values a := by simp [valuesOf, ha]
      rw [← ha, find?_alter_self, ha, hlast]
      obtain ⟨-, h⟩ | ⟨hnone, h⟩ := ih
      · rw [h, Option.getD_some]
      · rw [h, Option.getD_none, valuesOf_of_not_mem hnone]
    · have hlast : valuesOf key values [a] k = [] := valuesOf_of_not_mem (by simpa using ha)
      rw [find?_alter_of_ne _ _ ha, hlast, List.append_nil]
      obtain ⟨⟨b, hb, hk⟩, h⟩ | ⟨hnone, h⟩ := ih
      · exact .inl ⟨⟨b, by simp [hb], hk⟩, h⟩
      · refine .inr ⟨fun b hb => ?_, h⟩
        obtain hb | hb := List.mem_append.1 hb
        · exact hnone b hb
        · rwa [List.mem_singleton.1 hb]

theorem mem_keys_gather {key : α → κ} {values : α → List ν} {l : List α} {k : κ} :
    k ∈ (gather key values l).keys ↔ ∃ a ∈ l, key a = k := by
  rw [mem_keys_iff]
  obtain ⟨hsome, h⟩ | ⟨hnone, h⟩ := find?_gather_cases key values l k
  · exact iff_of_true ⟨_, h⟩ hsome
  · refine iff_of_false ?_ ?_
    · rintro ⟨value, hvalue⟩
      cases h.symm.trans hvalue
    · rintro ⟨a, ha, hk⟩
      exact hnone a ha hk

/-- Which keys there are does not depend on the values. -/
theorem keys_gather_congr {μ : Type} (key : α → κ) (values : α → List ν) (others : α → List μ) (l : List α) :
    (gather key values l).keys = (gather key others l).keys :=
  eq_of_ascending (ascending_keys _) (ascending_keys _) fun k => by rw [mem_keys_gather, mem_keys_gather]

theorem entries_gather (key : α → κ) (values : α → List ν) (l : List α) :
    (gather key values l).entries =
      (gather key values l).keys.map fun k => (k, valuesOf key values l k) := by
  refine entries_eq_map_keys fun k hk => ?_
  obtain ⟨-, h⟩ | ⟨hnone, -⟩ := find?_gather_cases key values l k
  · exact h
  · obtain ⟨a, ha, hkey⟩ := mem_keys_gather.1 hk
    exact absurd hkey (hnone a ha)

/-- Lists with the same elements under every key, in the same order, are gathered to the same map. -/
theorem gather_congr {key : α → κ} {a b : List α}
    (h : ∀ k, (a.filter fun x => key x = k) = b.filter fun x => key x = k) (values : α → List ν) :
    gather key values a = gather key values b := by
  have hkeys : (gather key values a).keys = (gather key values b).keys := by
    apply eq_of_ascending (ascending_keys _) (ascending_keys _)
    intro k
    simp only [mem_keys_gather, SortByKey.mem_iff_of_ties h]
  ext1
  simp only [entries_gather, hkeys, valuesOf, h]

/-- Where all keys of the front come before all keys of the back, the two are gathered one behind the other. -/
theorem entries_gather_append {key : α → κ} {values : α → List ν} {front back : List α}
    (h : ∀ a ∈ front, ∀ b ∈ back, compare (key a) (key b) = .lt) :
    (gather key values (front ++ back)).entries =
      (gather key values front).entries ++ (gather key values back).entries := by
  have hkeys : (gather key values (front ++ back)).keys =
      (gather key values front).keys ++ (gather key values back).keys := by
    refine eq_of_ascending (ascending_keys _) ?_ fun k => ?_
    · refine List.pairwise_append.2 ⟨ascending_keys _, ascending_keys _, fun x hx y hy => ?_⟩
      obtain ⟨a, ha, rfl⟩ := mem_keys_gather.1 hx
      obtain ⟨b, hb, rfl⟩ := mem_keys_gather.1 hy
      exact h a ha b hb
    · simp only [List.mem_append, mem_keys_gather, or_and_right, exists_or]
  have apart {a b : α} (ha : a ∈ front) (hb : b ∈ back) : key a ≠ key b :=
    ne_of_compare_eq_lt (h a ha b hb)
  rw [entries_gather, hkeys, List.map_append, entries_gather key values front,
    entries_gather key values back]
  refine congrArg₂ (· ++ ·) (List.map_congr_left fun k hk => ?_) (List.map_congr_left fun k hk => ?_)
  · obtain ⟨a, ha, rfl⟩ := mem_keys_gather.1 hk
    rw [valuesOf_append, valuesOf_of_not_mem fun b hb => (apart ha hb).symm, List.append_nil]
  · obtain ⟨b, hb, rfl⟩ := mem_keys_gather.1 hk
    rw [valuesOf_append, valuesOf_of_not_mem fun a ha => apart ha hb, List.nil_append]

end SeriesQuery.OrderedMap
