import Mathlib.Order.Bounds.Defs
import SeriesQuery.Proofs.Filter.Stack

/-! # Accepted filter lists

A filter list is accepted exactly when it begins with a tag text, goes on with a combinator, if it goes on at
all, and names `and` or `or` in every combinator. Behind two elements tag texts and combinators may follow in
any order, because a combinator takes any number of children. A refused list is refused at the first element
with which it stops being so.
-/

namespace SeriesQuery.Filter

/-- The first element, if any, is a tag text, the second, if any, a combinator, and every combinator has the
word of a joint in capital or small letters. -/
structure Admissible (elements : List Element) : Prop where
  first : ∀ e ∈ elements[0]?, e.isCombinator = false
  second : ∀ e ∈ elements[1]?, e.isCombinator = true
  words : ∀ e ∈ elements, e.isCombinator = true → e.value.toLower = "and" ∨ e.value.toLower = "or"

namespace Admissible

theorem nil : Admissible [] := ⟨nofun, nofun, nofun⟩

theorem of_append {front back : List Element} (h : Admissible (front ++ back)) : Admissible front where
  first e he := h.first e (List.getElem?_append_left (List.getElem?_eq_some_iff.1 he).1 ▸ he)
  second e he := h.second e (List.getElem?_append_left (List.getElem?_eq_some_iff.1 he).1 ▸ he)
  words e he := h.words e (List.mem_append_left back he)

theorem take {elements : List Element} (h : Admissible elements) (n : Nat) : Admissible (elements.take n) :=
  of_append (List.take_append_drop n elements ▸ h)

/-- Which element may come next depends on how many there are: a tag text begins, a combinator follows. -/
theorem snoc {before : List Element} {e : Element} (h : Admissible before)
    (first : before.length = 0 → e.isCombinator = false) (second : before.length = 1 → e.isCombinator = true)
    (word : e.isCombinator = true → e.value.toLower = "and" ∨ e.value.toLower = "or") :
    Admissible (before ++ [e]) where
  first d hd := by
    cases before with
    | nil =>
      cases hd
      exact first rfl
    | cons a before => exact h.first d hd
  second d hd := by
    match before with
    | [] => cases hd
    | [a] =>
      cases hd
      exact second rfl
    | a :: b :: before => exact h.second d hd
  words d hd := by
    rcases List.mem_append.1 hd with hd | hd
    · exact h.words d hd
    · cases List.mem_singleton.1 hd
      exact word

end Admissible

/-- Only admissible lists build trees. -/
theorem Builds.admissible {elements : List Element} {tree? : Option (Predicate String)}
    (h : Builds elements tree?) : Admissible elements := by
  induction h with
  | empty => exact .nil
  | snoc built adds ih =>
    have hnone := built.eq_none_iff
    have hleaf := built.exists_leaf_iff
    cases adds with
    | first value =>
      cases hnone.1 rfl
      exact ih.snoc (fun _ => rfl) nofun nofun
    | wrap tree names =>
      refine ih.snoc (fun hlength => ?_) (fun _ => rfl) fun _ => Joint.exists_ofWord?_iff.1 ⟨_, names⟩
      cases hnone.2 (List.length_eq_zero_iff.1 hlength)
    | append joint children value =>
      refine ih.snoc (fun _ => rfl) (fun hlength => ?_) nofun
      obtain ⟨before, hbefore⟩ := hleaf.2 hlength
      exact absurd (Option.some.inj hbefore) Joint.group_ne_leaf

/-- An element that is refused makes the list inadmissible. -/
theorem Refuses.not_admissible {before : List Element} {tree? : Option (Predicate String)} {e : Element}
    {fault : ListFault} (h : Refuses tree? e fault) (built : Builds before tree?) :
    ¬ Admissible (before ++ [e]) := by
  intro admissible
  cases h with
  | nothingBefore word =>
    cases built.eq_none_iff.1 rfl
    cases admissible.first _ rfl
  | unknownWord tree unknown =>
    have hword := admissible.words _ (List.mem_append_right before (List.mem_singleton_self _)) rfl
    obtain ⟨joint, hjoint⟩ := Joint.exists_ofWord?_iff.2 hword
    cases unknown.symm.trans hjoint
  | adjacentValues value next =>
    obtain ⟨only, rfl⟩ := List.length_eq_one_iff.1 (built.exists_leaf_iff.1 ⟨value, rfl⟩)
    cases admissible.second _ rfl

theorem Stops.isLeast {elements : List Element} {error : ListError} (h : Stops elements error) :
    IsLeast {i | ¬ Admissible (elements.take (i + 1))} error.position := by
  cases h with
  | @refused before tree? e fault built refuses rest =>
    have htake : (before ++ e :: rest).take (before.length + 1) = before ++ [e] := by
      rw [List.append_cons]
      apply List.take_left'
      rw [List.length_append, List.length_singleton]
    constructor
    · change ¬ Admissible ((before ++ e :: rest).take (before.length + 1))
      rw [htake]
      exact refuses.not_admissible built
    · intro i hi
      by_contra hlt
      apply hi
      rw [List.take_append_of_le_length (Nat.not_le.1 hlt)]
      exact built.admissible.take _

theorem exists_ofElements_iff {elements : List Element} :
    (∃ tree?, ofElements elements = .ok tree?) ↔ Admissible elements := by
  constructor
  · rintro ⟨tree?, h⟩
    exact (builds_of_ofElements h).admissible
  · intro admissible
    rcases ofElements_cases elements with ⟨tree?, h, -⟩ | ⟨error, -, hstops⟩
    · exact ⟨tree?, h⟩
    · exact absurd (admissible.take _) hstops.isLeast.1

theorem ofElements_eq_ok_none_iff {elements : List Element} :
    ofElements elements = .ok none ↔ elements = [] := by
  constructor
  · exact fun h => (builds_of_ofElements h).eq_none_iff.1 rfl
  · rintro rfl
    rfl

/-- A list is accepted exactly when it is admissible, has no tree exactly when it is empty, and is refused at the
least index up to which it is not admissible. A builder with a stack does the same, never has two trees on the
stack, and so never finds one left under its result. -/
theorem accepts_iff_and_refuses_at_least (elements : List Element) :
    ((∃ tree?, ofElements elements = .ok tree?) ↔ Admissible elements) ∧
      (∀ error, ofElements elements = .error error →
        IsLeast {i | ¬ Admissible (elements.take (i + 1))} error.position) ∧
      (ofElements elements = .ok none ↔ elements = []) ∧
      buildOnStack elements =
        ((ofElements elements).mapError .element).map (fun tree? => (tree?, listValues elements)) ∧
      (∀ n s, Stack.empty.pushAll 0 (elements.take n) = .ok s → s.trees.length ≤ 1) ∧
      ∀ length, buildOnStack elements ≠ .error (.unbalanced length) :=
  ⟨exists_ofElements_iff, fun _ h => (stops_of_ofElements h).isLeast, ofElements_eq_ok_none_iff,
    buildOnStack_eq elements, fun _ _ => Stack.length_trees_le_one, buildOnStack_ne_unbalanced elements⟩

/-- A list that is admissible up to its third element, whose word is none. -/
def unknownThird : List Element := [⟨"a=1", false⟩, ⟨"And", true⟩, ⟨"xor", true⟩, ⟨"b=2", false⟩]

theorem refuses_unknownThird :
    ofElements unknownThird = .error ⟨2, .unknownWord "xor"⟩ ∧
      IsLeast {i | ¬ Admissible (unknownThird.take (i + 1))} 2 ∧
      ∃ tree?, ofElements (unknownThird.take 2) = .ok tree? := by
  have hrefused : ofElements unknownThird = .error ⟨2, .unknownWord "xor"⟩ := by rfl
  have hadmissible : Admissible (unknownThird.take 2) := by
    refine ⟨?_, ?_, ?_⟩ <;> simp [unknownThird]
    exact .inl (toLower_eq_iff.2 rfl)
  exact ⟨hrefused, (accepts_iff_and_refuses_at_least unknownThird).2.1 _ hrefused,
    (accepts_iff_and_refuses_at_least (unknownThird.take 2)).1.2 hadmissible⟩

end SeriesQuery.Filter
