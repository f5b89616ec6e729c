import SeriesQuery.Proofs.Filter.TagTexts
import SeriesQuery.Store.Basic

/-! # Lists of tags and filters

Where there is no filter, a series is selected by the tags that are listed. A filter list with the same tag texts
and the word for both between them selects the same series: its tree is that of a row in which every joint asks for
both, and such a tree holds exactly when all its leaves do.
-/

namespace SeriesQuery

namespace Filter

/-- Where every joint asks for both, the tree holds when all its leaves do. -/
theorem Row.holds_tree_iff_forall {α : Type} (test : α → Bool) {row : Row α}
    (allBoth : ∀ o ∈ row.others, o.1 = .both) :
    row.tree.holds test = true ↔ ∀ a ∈ row.items, test a = true := by
  induction row using Row.snocInduction with
  | single a => simp [Row.tree_single]
  | snoc row joint a ih =>
    have hbefore : ∀ o ∈ row.others, o.1 = .both := fun o ho => allBoth o (by simp [Row.snoc, ho])
    have hjoint : joint = .both := allBoth (joint, a) (by simp [Row.snoc])
    subst joint
    rw [Row.tree_snoc, Joint.holds_node, Joint.Holds, ih hbefore]
    simp [or_imp, forall_and]

def allOf (texts : List String) : List Element :=
  (texts.map fun text => ⟨text, false⟩).intersperse ⟨"and", true⟩

def Row.conjunction (first : String) (others : List String) : Row String :=
  ⟨first, others.map fun text => (.both, text)⟩

theorem items_conjunction (first : String) (others : List String) :
    (Row.conjunction first others).items = first :: others := by
  simp [Row.conjunction, Row.items, Function.comp_def]

theorem elements_conjunction (first : String) (others : List String) :
    (Row.conjunction first others).elements = allOf (first :: others) := by
  induction others generalizing first with
  | nil => rfl
  | cons second others ih =>
    have hhead : (Row.conjunction first (second :: others)).elements =
        ⟨first, false⟩ :: ⟨"and", true⟩ :: (Row.conjunction second others).elements := rfl
    rw [hhead, ih]
    rfl

theorem holds_conjunction (test : String → Bool) (first : String) (others : List String) :
    (Row.conjunction first others).tree.holds test = (first :: others).all test := by
  have allBoth : ∀ o ∈ (Row.conjunction first others).others, o.1 = .both := by simp [Row.conjunction]
  rw [Bool.eq_iff_iff, Row.holds_tree_iff_forall test allBoth, items_conjunction, List.all_eq_true]

end Filter

namespace Store

/-- A lookup without a filter gives for listed tags what one gives with the filter that asks for all of them, of
which each is a leaf; the tags that are listed beside a filter make no difference. -/
theorem lookup_none_eq_lookup_allOf (s : Store) (path : FieldPath) (range : TimeRange) (first : String)
    (others : List String) :
    ∃ tree, Filter.ofElements (Filter.allOf (first :: others)) = .ok (some tree) ∧
      tree.leaves = first :: others ∧
      ∀ beside, s.lookup path range (first :: others) none =
        s.lookup path range beside (some (.tagTexts tree)) := by
  refine ⟨(Filter.Row.conjunction first others).tree, ?_, ?_, ?_⟩
  · rw [← Filter.elements_conjunction]
    exact Filter.ofElements_elements _
  · rw [Filter.Row.leaves_tree, Filter.items_conjunction]
  · intro beside
    have hselects : selects none (first :: others) =
        selects (some (.tagTexts (Filter.Row.conjunction first others).tree)) beside := by
      funext series
      exact (Filter.holds_conjunction series.tags.texts.contains first others).symm
    rw [lookup, lookup, hselects]

end Store
end SeriesQuery
