import SeriesQuery.Proofs.Filter.Printing

/-! # Printable filter trees

Every tree that grows to the left is printed, but not everything that is printed can be read: a key can be
empty or hold a character that keys do not have, a value can hold a separator or the end of a line, and an
equals sign at the start of a value makes a longer operator of `<` and `>`. Where none of this is so the tree
is the tree of a row of tokens. So the trees that are read are exactly the printed ones without these faults,
and what is printed of them is read as the same tree.
-/

namespace SeriesQuery

namespace Predicate

/-- The tree itself, its children, their children and so on. -/
inductive IsPartOf {α : Type} (part : Predicate α) : Predicate α → Prop where
  | self : IsPartOf part part
  | child {tree child : Predicate α} (mem : child ∈ tree.children) (below : IsPartOf part child) :
    IsPartOf part tree

/-- Each combinator in the tree has two children, the right one of which is a leaf. -/
def GrowsLeft {α : Type} (tree : Predicate α) : Prop :=
  ∀ part, IsPartOf part tree → part.isCombinator = true → ∃ left c, part.children = [left, .leaf c]

theorem GrowsLeft.of_mem_children {α : Type} {tree child : Predicate α} (h : tree.GrowsLeft)
    (mem : child ∈ tree.children) : child.GrowsLeft :=
  fun part hpart => h part (.child mem hpart)

end Predicate

namespace Filter

open Predicate

/-! ## The shape of printed trees -/

theorem Joint.children_node {α : Type} (joint : Joint) (left right : Predicate α) :
    (joint.node left right).children = [left, right] := by
  cases joint <;> rfl

theorem Row.growsLeft_tree {α : Type} (row : Row α) : row.tree.GrowsLeft := by
  induction row using Row.snocInduction with
  | single a =>
    rintro part hpart hcombinator
    cases hpart with
    | self => cases hcombinator
    | child mem below => cases mem
  | snoc row joint a ih =>
    rw [Row.tree_snoc]
    intro part hpart hcombinator
    cases hpart with
    | self => exact ⟨row.tree, a, joint.children_node _ _⟩
    | child mem below =>
      rw [joint.children_node] at mem
      simp only [List.mem_cons, List.not_mem_nil, or_false] at mem
      rcases mem with rfl | rfl
      · exact ih part below hcombinator
      · cases below with
        | self => cases hcombinator
        | child mem below => cases mem

theorem exists_print?_tree (row : Row Comparison) : ∃ e, print? row.tree = some e := by
  induction row using Row.snocInduction with
  | single c => exact ⟨_, rfl⟩
  | snoc row joint c ih =>
    obtain ⟨s, hs⟩ := ih
    rw [Row.tree_snoc, print?_node, hs]
    exact ⟨_, rfl⟩

/-- Under a combinator with a leaf to its right, the tree to its left decides. -/
theorem Joint.exists_row_node_or {left : TagPredicate} (joint : Joint) (c : Comparison)
    (h : (∃ row : Row Comparison, row.tree = left) ∨ print? left = none ∧ ¬ left.GrowsLeft) :
    (∃ row : Row Comparison, row.tree = joint.node left (.leaf c)) ∨
      print? (joint.node left (.leaf c)) = none ∧ ¬ (joint.node left (.leaf c)).GrowsLeft := by
  rcases h with ⟨row, rfl⟩ | ⟨hprint, hgrows⟩
  · exact .inl ⟨row.snoc joint c, row.tree_snoc joint c⟩
  · have mem : left ∈ (joint.node left (.leaf c)).children := by simp [joint.children_node]
    exact .inr ⟨by rw [print?_node, hprint, Option.map_none], fun h => hgrows (h.of_mem_children mem)⟩

/-- A tree is that of a row, or it is not printed and does not grow to the left. -/
theorem exists_row_or (tree : TagPredicate) :
    (∃ row : Row Comparison, row.tree = tree) ∨ print? tree = none ∧ ¬ tree.GrowsLeft := by
  induction tree using print?.induct with
  | case1 c => exact .inl ⟨.single c, rfl⟩
  | case2 left c ih => exact Joint.both.exists_row_node_or c ih
  | case3 left c ih => exact Joint.either.exists_row_node_or c ih
  | case4 tree hleaf hall hany =>
    refine .inr ⟨print?.eq_4 tree hleaf hall hany, fun hgrows => ?_⟩
    cases tree with
    | leaf c => exact hleaf c rfl
    | all children =>
      obtain ⟨left, c, rfl⟩ := hgrows _ .self rfl
      exact hall left c rfl
    | any children =>
      obtain ⟨left, c, rfl⟩ := hgrows _ .self rfl
      exact hany left c rfl

/-- What is printed is the tree of a row. -/
theorem exists_row_of_print? {tree : TagPredicate} {e : String} (h : print? tree = some e) :
    ∃ row : Row Comparison, row.tree = tree :=
  (exists_row_or tree).resolve_right fun hnot => Option.some_ne_none e (h.symm.trans hnot.1)

theorem exists_print?_iff_growsLeft {tree : TagPredicate} : (∃ e, print? tree = some e) ↔ tree.GrowsLeft := by
  constructor
  · rintro ⟨e, h⟩
    obtain ⟨row, rfl⟩ := exists_row_of_print? h
    exact row.growsLeft_tree
  · intro h
    obtain ⟨row, rfl⟩ := (exists_row_or tree).resolve_right fun hnot => hnot.2 h
    exact exists_print?_tree row

end Filter

/-! ## Comparisons that are tokens -/

namespace Comparison

/-- The comparison was made from a key, an operator and a value, so that its pattern is that of its value. -/
def IsMade (c : Comparison) : Prop := ∃ key op value, make key op value = .ok c

theorem restoreDots_restoreDots (text : String) : restoreDots (restoreDots text) = restoreDots text := by
  rw [← String.ofList_toList (s := text), restoreDots_ofList, restoreDots_ofList, List.map_map,
    restoreDot_comp_restoreDot]

/-- A comparison is made again from what it shows. -/
theorem IsMade.make_self {c : Comparison} (h : c.IsMade) : make c.key c.op c.value = .ok c := by
  obtain ⟨key, op, value, hmake⟩ := h
  rw [make_eq_ok_iff] at hmake ⊢
  rcases hmake with ⟨hop, rfl⟩ | ⟨hop, p, hp, rfl⟩
  · exact .inl ⟨hop, rfl⟩
  · refine .inr ⟨hop, p, ?_, ?_⟩ <;> simp only [restoreDots_restoreDots, hp]

/-- The comparison can be read where it is written: it has a key of the characters of keys and a value on one line
without separators, which does not begin with the rest of a longer operator. -/
structure Writable (c : Comparison) : Prop where
  key_ne_empty : c.key ≠ ""
  keyChars : ∀ ch ∈ c.key.toList, ch.isAlphanum = true ∨ ch = '-' ∨ ch = '_' ∨ ch = '.'
  separatorFree : '&' ∉ c.value.toList ∧ '|' ∉ c.value.toList
  oneLine : '\n' ∉ c.value.toList
  ends : c.op = .lt ∨ c.op = .gt → c.value.toList.head? ≠ some '='

end Comparison

namespace Filter

theorem isKeyChar_iff {c : Char} :
    isKeyChar c = true ↔ c.isAlphanum = true ∨ c = '-' ∨ c = '_' ∨ c = '.' := by
  simp [isKeyChar, or_assoc]

/-- The value of a comparison is that of its token with dots. -/
theorem CheckedToken.value_comparison (t : CheckedToken) :
    t.comparison.value = String.ofList t.withDots.value := by
  rcases Comparison.make_eq_ok_iff.1 t.made with ⟨hop, hc⟩ | ⟨hop, p, hp, hc⟩
  · simp [hc, withDots, Token.withDots, hop]
  · simp [hc, withDots, Token.withDots, hop, Comparison.restoreDots_ofList]

theorem CheckedToken.writable_comparison (t : CheckedToken) : t.comparison.Writable where
  key_ne_empty := by simpa [t.key_comparison] using t.key_ne_nil
  keyChars ch hch := by
    rw [t.key_comparison, String.toList_ofList] at hch
    exact isKeyChar_iff.1 (t.isKeyChar_key ch hch)
  separatorFree := by
    rw [t.value_comparison, String.toList_ofList]
    exact t.withDots.separatorFree
  oneLine := by
    rw [t.value_comparison, String.toList_ofList]
    exact t.withDots.oneLine
  ends := by
    rw [t.value_comparison, String.toList_ofList, t.op_comparison]
    exact t.withDots.ends

def tokenOf (c : Comparison) (writable : c.Writable) : Token where
  key := c.key.toList
  op := c.op
  value := c.value.toList
  key_ne_nil := by simpa using writable.key_ne_empty
  isKeyChar_key ch hch := isKeyChar_iff.2 (writable.keyChars ch hch)
  oneLine := writable.oneLine
  separatorFree := writable.separatorFree
  ends := writable.ends

/-- A comparison that is made and writable is that of a token. -/
theorem exists_token_of_writable {c : Comparison} (made : c.IsMade) (writable : c.Writable) :
    ∃ t : CheckedToken, t.comparison = c := by
  have again : Comparison.make (String.ofList c.key.toList) c.op (String.ofList c.value.toList) = .ok c := by
    simpa using made.make_self
  exact ⟨⟨tokenOf c writable, c, again⟩, rfl⟩

/-! ## Reading what is printed -/

/-- A row of tokens with dots is read as the tree that the row without them has. -/
theorem parse_print?_tree {row : Row CheckedToken} {e : String}
    (h : print? (row.map CheckedToken.comparison).tree = some e) :
    parse e = .ok (some (row.map CheckedToken.comparison).tree) := by
  have hparse := parse_written (row.map CheckedToken.withDots)
  rw [Row.map_map, Row.map_map] at hparse
  rw [print?_tree, Option.some_inj] at h
  exact h ▸ hparse

theorem exists_tokens_of_print? {tree : TagPredicate} {e : String} (made : ∀ c ∈ tree.leaves, c.IsMade)
    (h : print? tree = some e) (writable : ∀ c ∈ tree.leaves, c.Writable) :
    ∃ row : Row CheckedToken, (row.map CheckedToken.comparison).tree = tree := by
  obtain ⟨row, rfl⟩ := exists_row_of_print? h
  rw [Row.leaves_tree] at made writable
  obtain ⟨tokens, rfl⟩ := Row.exists_map_eq fun c hc => exists_token_of_writable (made c hc) (writable c hc)
  exact ⟨tokens, rfl⟩

theorem writable_of_parse {tree : TagPredicate} {e : String} (h : parse e = .ok (some tree)) :
    ∀ c ∈ tree.leaves, c.Writable := by
  obtain ⟨row, -, rfl⟩ := exists_row_of_parse h
  rw [Row.leaves_tree, Row.items_map]
  exact List.forall_mem_map.2 fun t _ => t.writable_comparison

/-- A tree of comparisons that were made is read from some expression exactly when it is printed and its comparisons
are writable; it is printed exactly when it grows to the left; and what is printed is then read as the same tree. -/
theorem parsed_iff_printable {tree : TagPredicate} (made : ∀ c ∈ tree.leaves, c.IsMade) :
    ((∃ e, parse e = .ok (some tree)) ↔ (∃ e, print? tree = some e) ∧ ∀ c ∈ tree.leaves, c.Writable) ∧
      ((∃ e, print? tree = some e) ↔ tree.GrowsLeft) ∧
      ((∃ e, parse e = .ok (some tree)) → ∃ e, print? tree = some e ∧ parse e = .ok (some tree)) := by
  have hprinted {e : String} (h : parse e = .ok (some tree)) : ∃ e, print? tree = some e := by
    obtain ⟨row, -, rfl⟩ := exists_row_of_parse h
    exact exists_print?_tree _
  have hparse {e : String} (h : print? tree = some e) (writable : ∀ c ∈ tree.leaves, c.Writable) :
      parse e = .ok (some tree) := by
    obtain ⟨row, rfl⟩ := exists_tokens_of_print? made h writable
    exact parse_print?_tree h
  refine ⟨⟨?_, ?_⟩, exists_print?_iff_growsLeft, ?_⟩
  · rintro ⟨e, h⟩
    exact ⟨hprinted h, writable_of_parse h⟩
  · rintro ⟨⟨e, h⟩, writable⟩
    exact ⟨e, hparse h writable⟩
  · rintro ⟨e, h⟩
    obtain ⟨printed, hprint⟩ := hprinted h
    exact ⟨printed, hprint, hparse hprint (writable_of_parse h)⟩

/-- A tree with both combinators, whose values hold an operator and a pattern. -/
def dottedTree : TagPredicate :=
  .both (.either (.leaf ⟨"a", .eq, "=1", none⟩) (.leaf ⟨"b", .lt, "<2", none⟩))
    (.leaf ⟨"c", .like, "x\\.", some ⟨"^(?:x\\.)$", letterAndDot⟩⟩)

theorem leaves_dottedTree : dottedTree.leaves =
    [⟨"a", .eq, "=1", none⟩, ⟨"b", .lt, "<2", none⟩,
      ⟨"c", .like, "x\\.", some ⟨"^(?:x\\.)$", letterAndDot⟩⟩] := by
  simp [dottedTree, Predicate.both, Predicate.either]

theorem isMade_dottedTree : ∀ c ∈ dottedTree.leaves, c.IsMade := by
  simp only [leaves_dottedTree, List.forall_mem_cons]
  refine ⟨⟨"a", .eq, "=1", rfl⟩, ⟨"b", .lt, "<2", rfl⟩, ⟨"c", .like, "x\\.", ?_⟩, nofun⟩
  exact Comparison.make_eq_ok_iff.2 (.inr ⟨rfl, _, compile_letterAndDot, rfl⟩)

theorem parse_print_dottedTree :
    (∀ c ∈ dottedTree.leaves, c.IsMade) ∧ print? dottedTree = some "a==1|b<<2&c~x\\." ∧
      parse "a==1|b<<2&c~x\\." = .ok (some dottedTree) := by
  have hprint : print? dottedTree = some "a==1|b<<2&c~x\\." := by rfl
  have writable : ∀ c ∈ dottedTree.leaves, c.Writable := by
    simp only [leaves_dottedTree, List.forall_mem_cons]
    refine ⟨?_, ?_, ?_, nofun⟩ <;> constructor <;> simp
  obtain ⟨hiff, -, hagain⟩ := parsed_iff_printable isMade_dottedTree
  obtain ⟨e, he, hparse⟩ := hagain (hiff.2 ⟨⟨_, hprint⟩, writable⟩)
  cases hprint.symm.trans he
  exact ⟨isMade_dottedTree, hprint, hparse⟩

end Filter
end SeriesQuery
