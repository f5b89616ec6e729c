import SeriesQuery.Proofs.Filter.Building

/-! # Building on a stack

The same trees from a builder that keeps them on a stack and notes the tag texts as it goes: a combinator
takes the tree on top and puts its node there, a tag text goes into the tree on top, and onto the stack only
when this is empty. At the end nothing may be left under the result. Since only the first element ever adds
to the stack, this never happens, and the two builders agree on every list.
-/

namespace SeriesQuery.Filter

/-- Trees on a stack, the top first, and the tag texts so far. -/
structure Stack where
  trees : List (Predicate String)
  values : List String

namespace Stack

def empty : Stack := ⟨[], []⟩

def push (s : Stack) (e : Element) : Except ListFault Stack :=
  if e.isCombinator then
    match s.trees with
    | [] => .error .nothingBefore
    | top :: below =>
      match combinator? e.value top with
      | some node => .ok ⟨node :: below, s.values⟩
      | none => .error (.unknownWord e.value)
  else
    match s.trees with
    | [] => .ok ⟨[.leaf e.value], s.values ++ [e.value]⟩
    | top :: below =>
      match top.addChild? (.leaf e.value) with
      | some node => .ok ⟨node :: below, s.values ++ [e.value]⟩
      | none => .error .adjacentValues

/-- The stack after further elements, the first of which has the index `position`. -/
def pushAll (s : Stack) (position : Nat) : List Element → Except ListError Stack
  | [] => .ok s
  | e :: rest =>
    match s.push e with
    | .ok next => next.pushAll (position + 1) rest
    | .error fault => .error ⟨position, fault⟩

end Stack

/-- Why a builder with a stack refuses a list. -/
inductive StackFault where
  | element (cause : ListError)
  /-- Several trees are left at the end of a list of this length. -/
  | unbalanced (length : Nat)

/-- The tree of a list, built on a stack, and its tag texts. -/
def buildOnStack (elements : List Element) : Except StackFault (Option (Predicate String) × List String) :=
  match Stack.empty.pushAll 0 elements with
  | .error cause => .error (.element cause)
  | .ok s => if 1 < s.trees.length then .error (.unbalanced elements.length) else .ok (s.trees.head?, s.values)

namespace Stack

/-- A stack of at most one tree does with an element what is done with the tree alone. -/
theorem push_toList (tree? : Option (Predicate String)) (values : List String) (e : Element) :
    push ⟨tree?.toList, values⟩ e =
      (addElement tree? e).map fun tree => ⟨(some tree).toList, values ++ listValues [e]⟩ := by
  obtain ⟨value, isCombinator⟩ := e
  cases isCombinator with
  | true =>
    cases tree? with
    | none => rfl
    | some tree =>
      simp only [push, addElement, Option.toList_some, if_true]
      cases combinator? value tree <;> simp [Except.map, listValues]
  | false =>
    cases tree? with
    | none => rfl
    | some tree => cases tree <;> rfl

theorem pushAll_toList (tree? : Option (Predicate String)) (values : List String) (position : Nat)
    (rest : List Element) :
    pushAll ⟨tree?.toList, values⟩ position rest =
      (addElements tree? position rest).map fun result => ⟨result.toList, values ++ listValues rest⟩ := by
  induction rest generalizing tree? values position with
  | nil => simp [pushAll, addElements, Except.map, listValues]
  | cons e rest ih =>
    have hvalues : listValues (e :: rest) = listValues [e] ++ listValues rest := listValues_append [e] rest
    rw [pushAll, addElements, push_toList, hvalues]
    cases addElement tree? e with
    | error fault => rfl
    | ok tree => simp only [Except.map, ih, List.append_assoc]

theorem pushAll_empty (elements : List Element) :
    empty.pushAll 0 elements = (ofElements elements).map fun tree? => ⟨tree?.toList, listValues elements⟩ :=
  pushAll_toList none [] 0 elements

/-- There is never more than one tree on the stack. -/
theorem length_trees_le_one {elements : List Element} {s : Stack} (h : empty.pushAll 0 elements = .ok s) :
    s.trees.length ≤ 1 := by
  rw [pushAll_empty] at h
  cases hbuilt : ofElements elements with
  | error error =>
    rw [hbuilt] at h
    cases h
  | ok tree? =>
    rw [hbuilt] at h
    cases h
    exact tree?.length_toList_le

end Stack

theorem buildOnStack_eq (elements : List Element) :
    buildOnStack elements =
      ((ofElements elements).mapError .element).map fun tree? => (tree?, listValues elements) := by
  rw [buildOnStack, Stack.pushAll_empty]
  cases ofElements elements with
  | error error => rfl
  | ok tree? => cases tree? <;> rfl

theorem buildOnStack_ne_unbalanced (elements : List Element) (length : Nat) :
    buildOnStack elements ≠ .error (.unbalanced length) := by
  rw [buildOnStack_eq]
  cases ofElements elements <;> nofun

end SeriesQuery.Filter
