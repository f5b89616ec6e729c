import Mathlib.Data.List.Induction
import SeriesQuery.Filter.Expression

/-! # Rows of filter items

The items of a filter stand in a row, each but the first behind the joint that ties it to all before it.
Joining the items from left to right gives the tree of the row, and since every joint is a tree node and
also a connective, the truth of the tree is what the truths of the items give when they are joined the
same way. Cutting a text finds the only row of pieces that is written as the text.
-/

namespace SeriesQuery.Filter

/-- Items in a row, each but the first behind a joint. -/
structure Row (α : Type) where
  first : α
  others : List (Joint × α)

namespace Row

variable {α β γ : Type}

def single (a : α) : Row α := ⟨a, []⟩

def snoc (row : Row α) (joint : Joint) (a : α) : Row α := ⟨row.first, row.others ++ [(joint, a)]⟩

def items (row : Row α) : List α := row.first :: row.others.map Prod.snd

def map (f : α → β) (row : Row α) : Row β := ⟨f row.first, row.others.map fun o => (o.1, f o.2)⟩

def joined (join : α → Joint → α → α) (row : Row α) : α :=
  row.others.foldl (fun before o => join before o.1 o.2) row.first

def text (row : Row (List Char)) : List Char :=
  row.first ++ row.others.flatMap fun o => o.1.separator :: o.2

/-- A row grows at its end, where the last joint of a left-to-right tree is. -/
@[elab_as_elim]
theorem snocInduction {motive : Row α → Prop} (single : ∀ a, motive (single a))
    (snoc : ∀ row joint a, motive row → motive (snoc row joint a)) (row : Row α) : motive row := by
  obtain ⟨first, others⟩ := row
  induction others using List.reverseRecOn with
  | nil => exact single first
  | append_singleton others o ih => exact snoc ⟨first, others⟩ o.1 o.2 ih

@[simp] theorem items_single (a : α) : (single a).items = [a] := rfl

@[simp] theorem items_snoc (row : Row α) (joint : Joint) (a : α) :
    (row.snoc joint a).items = row.items ++ [a] := by
  simp [items, snoc]

@[simp] theorem map_single (f : α → β) (a : α) : (single a).map f = single (f a) := rfl

@[simp] theorem map_snoc (f : α → β) (row : Row α) (joint : Joint) (a : α) :
    (row.snoc joint a).map f = (row.map f).snoc joint (f a) := by
  simp [map, snoc]

@[simp] theorem joined_single (join : α → Joint → α → α) (a : α) : (single a).joined join = a := rfl

@[simp] theorem joined_snoc (join : α → Joint → α → α) (row : Row α) (joint : Joint) (a : α) :
    (row.snoc joint a).joined join = join (row.joined join) joint a := by
  simp [joined, snoc]

@[simp] theorem text_single (piece : List Char) : (single piece).text = piece := by
  simp [text, single]

@[simp] theorem text_snoc (row : Row (List Char)) (joint : Joint) (piece : List Char) :
    (row.snoc joint piece).text = row.text ++ joint.separator :: piece := by
  simp [text, snoc]

@[simp] theorem items_map (f : α → β) (row : Row α) : (row.map f).items = row.items.map f := by
  simp [items, map]

@[simp] theorem map_map (f : α → β) (g : β → γ) (row : Row α) :
    (row.map f).map g = row.map (g ∘ f) := by
  simp [map]

theorem map_congr {f g : α → β} {row : Row α} (h : ∀ a ∈ row.items, f a = g a) :
    row.map f = row.map g := by
  induction row using snocInduction with
  | single a => simp [h a (by simp)]
  | snoc row joint a ih =>
    rw [map_snoc, map_snoc, ih fun b hb => h b (by simp [hb]), h a (by simp)]

theorem map_injective {f : α → β} (h : Function.Injective f) : Function.Injective (map f) := by
  rintro ⟨first, others⟩ ⟨first', others'⟩ heq
  simp only [map, mk.injEq] at heq
  obtain ⟨hfirst, hothers⟩ := heq
  have hpair : Function.Injective fun o : Joint × α => (o.1, f o.2) := by
    rintro ⟨joint, a⟩ ⟨joint', a'⟩ hpair
    simp only [Prod.mk.injEq] at hpair
    rw [hpair.1, h hpair.2]
  rw [h hfirst, (List.map_inj_right fun _ _ hmap => hpair hmap).1 hothers]

/-- A row whose items are all values of a function is the image of a row. -/
theorem exists_map_eq {f : α → β} {row : Row β} (h : ∀ b ∈ row.items, ∃ a, f a = b) :
    ∃ before : Row α, before.map f = row := by
  induction row using snocInduction with
  | single b =>
    obtain ⟨a, rfl⟩ := h b (by simp)
    exact ⟨single a, rfl⟩
  | snoc row joint b ih =>
    obtain ⟨before, rfl⟩ := ih fun c hc => h c (by simp [hc])
    obtain ⟨a, rfl⟩ := h b (by simp)
    exact ⟨before.snoc joint a, map_snoc f before joint a⟩

/-- What turns one way of joining into another can be applied before or after the joining. -/
theorem joined_map {f : α → β} {join : α → Joint → α → α} {join' : β → Joint → β → β}
    (h : ∀ a joint b, f (join a joint b) = join' (f a) joint (f b)) (row : Row α) :
    (row.map f).joined join' = f (row.joined join) := by
  induction row using snocInduction with
  | single a => rfl
  | snoc row joint a ih => rw [map_snoc, joined_snoc, joined_snoc, ih, h]

end Row

/-! ## Trees of rows -/

namespace Joint

variable {α : Type}

def node (left : Predicate α) (joint : Joint) (right : Predicate α) : Predicate α :=
  match joint with
  | both => .both left right
  | either => .either left right

/-- What a joint says of what stands before it and the next item. -/
def Holds (before : Prop) (joint : Joint) (next : Prop) : Prop :=
  match joint with
  | both => before ∧ next
  | either => before ∨ next

theorem join_eq_node : join = node := by
  funext left joint right
  cases joint <;> rfl

theorem holds_node (test : α → Bool) (left : Predicate α) (joint : Joint) (right : Predicate α) :
    (node left joint right).holds test = true ↔
      Holds (left.holds test = true) joint (right.holds test = true) := by
  cases joint <;> simp [node, Holds, Predicate.both, Predicate.either]

theorem leaves_node (left : Predicate α) (joint : Joint) (right : Predicate α) :
    (node left joint right).leaves = left.leaves ++ right.leaves := by
  cases joint <;> simp [node, Predicate.both, Predicate.either]

end Joint

namespace Row

variable {α : Type}

def tree (row : Row α) : Predicate α := (row.map Predicate.leaf).joined Joint.node

theorem tree_single (a : α) : (single a).tree = .leaf a := rfl

theorem tree_snoc (row : Row α) (joint : Joint) (a : α) :
    (row.snoc joint a).tree = Joint.node row.tree joint (.leaf a) := by
  simp [tree]

@[simp] theorem leaves_tree (row : Row α) : row.tree.leaves = row.items := by
  induction row using snocInduction with
  | single a => simp [tree_single]
  | snoc row joint a ih => simp [tree_snoc, Joint.leaves_node, ih]

/-- The truth of the tree is the truths of the items, joined from left to right. -/
theorem holds_tree (test : α → Bool) (row : Row α) :
    row.tree.holds test = true ↔ (row.map fun a => test a = true).joined Joint.Holds := by
  let holds (t : Predicate α) : Prop := t.holds test = true
  have hjoined : ((row.map .leaf).map holds).joined Joint.Holds = holds row.tree :=
    joined_map (fun left joint right => propext (Joint.holds_node test left joint right)) _
  have hmap : (row.map .leaf).map holds = row.map fun a => test a = true := by
    simp [holds, Function.comp_def]
  rw [← hmap, hjoined]

end Row

/-! ## Cutting -/

def SeparatorFree (piece : List Char) : Prop := '&' ∉ piece ∧ '|' ∉ piece

theorem separatorFree_cons {c : Char} {piece : List Char} :
    SeparatorFree (c :: piece) ↔ Joint.ofSeparator? c = none ∧ SeparatorFree piece := by
  by_cases hand : c = '&'
  · simp [SeparatorFree, Joint.ofSeparator?, hand]
  · by_cases hor : c = '|'
    · simp [SeparatorFree, Joint.ofSeparator?, hor]
    · simp [SeparatorFree, Joint.ofSeparator?, hand, hor, Ne.symm hand, Ne.symm hor]

theorem separatorFree_append {front back : List Char} :
    SeparatorFree (front ++ back) ↔ SeparatorFree front ∧ SeparatorFree back := by
  simp only [SeparatorFree, List.mem_append, not_or]
  exact and_and_and_comm

theorem Joint.ofSeparator?_separator (joint : Joint) : ofSeparator? joint.separator = some joint := by
  cases joint <;> rfl

theorem Joint.separator_of_ofSeparator? {c : Char} {joint : Joint} (h : ofSeparator? c = some joint) :
    joint.separator = c := by
  by_cases hand : c = '&'
  · cases hand
    cases h
    rfl
  · by_cases hor : c = '|'
    · cases hor
      cases h
      rfl
    · simp [ofSeparator?, hand, hor] at h

/-- The row is what a text falls into when it is cut at every separator. -/
structure Row.IsCutOf (row : Row (List Char)) (text : List Char) : Prop where
  text_eq : row.text = text
  separatorFree : ∀ piece ∈ row.items, SeparatorFree piece

theorem cut_of_separatorFree {piece : List Char} (h : SeparatorFree piece) : cut piece = (piece, []) := by
  induction piece with
  | nil => rfl
  | cons c piece ih =>
    obtain ⟨hc, hpiece⟩ := separatorFree_cons.1 h
    simp [cut, hc, ih hpiece]

theorem cut_append_separator {piece : List Char} (h : SeparatorFree piece) (joint : Joint)
    (rest : List Char) :
    cut (piece ++ joint.separator :: rest) = (piece, (joint, (cut rest).1) :: (cut rest).2) := by
  induction piece with
  | nil => simp [cut, Joint.ofSeparator?_separator]
  | cons c piece ih =>
    obtain ⟨hc, hpiece⟩ := separatorFree_cons.1 h
    simp [cut, hc, ih hpiece]

theorem isCutOf_cut (text : List Char) : Row.IsCutOf ⟨(cut text).1, (cut text).2⟩ text := by
  induction text with
  | nil => exact ⟨rfl, by simp [cut, Row.items, SeparatorFree]⟩
  | cons c rest ih =>
    obtain ⟨htext, hfree⟩ := ih
    obtain ⟨hfirst, hothers⟩ := List.forall_mem_cons.1 hfree
    simp only [Row.text] at htext
    cases hc : Joint.ofSeparator? c with
    | none =>
      have hcut : cut (c :: rest) = (c :: (cut rest).1, (cut rest).2) := by simp [cut, hc]
      rw [hcut]
      refine ⟨by simp [Row.text, htext], ?_⟩
      exact List.forall_mem_cons.2 ⟨separatorFree_cons.2 ⟨hc, hfirst⟩, hothers⟩
    | some joint =>
      have hcut : cut (c :: rest) = ([], (joint, (cut rest).1) :: (cut rest).2) := by simp [cut, hc]
      rw [hcut]
      refine ⟨by simp [Row.text, Joint.separator_of_ofSeparator? hc, htext], ?_⟩
      exact List.forall_mem_cons.2 ⟨by simp [SeparatorFree], hfree⟩

theorem cut_eq_of_isCutOf {row : Row (List Char)} {text : List Char} (h : row.IsCutOf text) :
    cut text = (row.first, row.others) := by
  obtain ⟨first, others⟩ := row
  obtain ⟨rfl, hfree⟩ := h
  induction others generalizing first with
  | nil =>
    simp only [Row.text, List.flatMap_nil, List.append_nil]
    exact cut_of_separatorFree (hfree first List.mem_cons_self)
  | cons o others ih =>
    obtain ⟨hfirst, hothers⟩ := List.forall_mem_cons.1 hfree
    have hrest := ih o.2 hothers
    simp only [Row.text] at hrest
    simp only [Row.text, List.flatMap_cons, List.cons_append]
    rw [cut_append_separator hfirst, hrest]

/-- There is one way to cut a text. -/
theorem Row.IsCutOf.unique {row other : Row (List Char)} {text : List Char} (h : row.IsCutOf text)
    (hother : other.IsCutOf text) : other = row := by
  have heq := (cut_eq_of_isCutOf hother).symm.trans (cut_eq_of_isCutOf h)
  obtain ⟨hfirst, hothers⟩ := Prod.mk.inj heq
  cases row
  cases other
  cases hfirst
  cases hothers
  rfl

end SeriesQuery.Filter
