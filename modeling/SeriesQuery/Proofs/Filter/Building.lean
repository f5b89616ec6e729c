import SeriesQuery.Filter.ElementList
import SeriesQuery.Proofs.Filter.Row

/-! # Building filter trees

What one element of a filter list does to the tree: the first tag text is a leaf, a combinator becomes the
only node over all that was built, and a tag text behind a combinator becomes its last child. Every other
element is refused. A list is built by one such step after the other, or it stops at its first element that
is refused.
-/

namespace SeriesQuery.Filter

def Joint.ofWord? (word : String) : Option Joint :=
  let lower := word.toList.map Char.toLower
  if lower = ['a', 'n', 'd'] then some both else if lower = ['o', 'r'] then some either else none

theorem toList_toLower (word : String) : word.toLower.toList = word.toList.map Char.toLower :=
  String.toList_map

theorem toLower_eq_iff {word lower : String} :
    word.toLower = lower ↔ word.toList.map Char.toLower = lower.toList := by
  rw [← String.toList_inj, toList_toLower]

theorem Joint.exists_ofWord?_iff {word : String} :
    (∃ joint, ofWord? word = some joint) ↔ word.toLower = "and" ∨ word.toLower = "or" := by
  rw [toLower_eq_iff, toLower_eq_iff]
  by_cases hand : word.toList.map Char.toLower = ['a', 'n', 'd']
  · simp [ofWord?, hand]
  · by_cases hor : word.toList.map Char.toLower = ['o', 'r'] <;> simp [ofWord?, hand, hor]

theorem Joint.ofWord?_congr {word word' : String} (h : word.toLower = word'.toLower) :
    ofWord? word = ofWord? word' := by
  simp only [ofWord?, ← toList_toLower, h]

def Joint.group {α : Type} (joint : Joint) (children : List (Predicate α)) : Predicate α :=
  match joint with
  | both => .all children
  | either => .any children

@[simp] theorem Joint.group_ne_leaf {α : Type} {joint : Joint} {children : List (Predicate α)} {a : α} :
    joint.group children ≠ .leaf a := by
  cases joint <;> nofun

theorem Joint.group_inj {α : Type} {joint joint' : Joint} {children children' : List (Predicate α)}
    (h : joint.group children = joint'.group children') : joint = joint' ∧ children = children' := by
  cases joint <;> cases joint' <;> cases h <;> exact ⟨rfl, rfl⟩

theorem combinator?_eq_map (word : String) (child : Predicate String) :
    combinator? word child = (Joint.ofWord? word).map fun joint => joint.group [child] := by
  simp only [combinator?, Joint.ofWord?]
  by_cases hand : word.toList.map Char.toLower = ['a', 'n', 'd']
  · simp [hand, Joint.group]
  · by_cases hor : word.toList.map Char.toLower = ['o', 'r'] <;> simp [hand, hor, Joint.group]

theorem listValues_append (front back : List Element) :
    listValues (front ++ back) = listValues front ++ listValues back := by
  simp [listValues]

/-- What an element makes of the tree of the elements before it. -/
inductive Adds : Option (Predicate String) → Element → Predicate String → Prop where
  | first (value : String) : Adds none ⟨value, false⟩ (.leaf value)
  | wrap (tree : Predicate String) {word : String} {joint : Joint} (names : Joint.ofWord? word = some joint) :
    Adds (some tree) ⟨word, true⟩ (joint.group [tree])
  | append (joint : Joint) (children : List (Predicate String)) (value : String) :
    Adds (some (joint.group children)) ⟨value, false⟩ (joint.group (children ++ [.leaf value]))

/-- Why an element cannot stand behind the elements of a tree. -/
inductive Refuses : Option (Predicate String) → Element → ListFault → Prop where
  | nothingBefore (word : String) : Refuses none ⟨word, true⟩ .nothingBefore
  | unknownWord (tree : Predicate String) {word : String} (unknown : Joint.ofWord? word = none) :
    Refuses (some tree) ⟨word, true⟩ (.unknownWord word)
  | adjacentValues (before value : String) : Refuses (some (.leaf before)) ⟨value, false⟩ .adjacentValues

/-- One step either adds the element or refuses it. -/
theorem addElement_cases (tree? : Option (Predicate String)) (e : Element) :
    (∃ tree, addElement tree? e = .ok tree ∧ Adds tree? e tree) ∨
      ∃ fault, addElement tree? e = .error fault ∧ Refuses tree? e fault := by
  obtain ⟨value, isCombinator⟩ := e
  cases isCombinator with
  | true =>
    cases tree? with
    | none => exact .inr ⟨_, rfl, .nothingBefore value⟩
    | some tree =>
      cases hword : Joint.ofWord? value with
      | none =>
        exact .inr ⟨_, by simp [addElement, combinator?_eq_map, hword], .unknownWord tree hword⟩
      | some joint =>
        exact .inl ⟨_, by simp [addElement, combinator?_eq_map, hword], .wrap tree hword⟩
  | false =>
    cases tree? with
    | none => exact .inl ⟨_, rfl, .first value⟩
    | some tree =>
      cases tree with
      | leaf before => exact .inr ⟨_, rfl, .adjacentValues before value⟩
      | all children => exact .inl ⟨_, rfl, .append .both children value⟩
      | any children => exact .inl ⟨_, rfl, .append .either children value⟩

/-- The trees of lists, element by element. -/
inductive Builds : List Element → Option (Predicate String) → Prop where
  | empty : Builds [] none
  | snoc {before : List Element} {tree? : Option (Predicate String)} {e : Element} {tree : Predicate String}
    (built : Builds before tree?) (adds : Adds tree? e tree) : Builds (before ++ [e]) (some tree)

/-- Where and why the building of a list stops: at its first element that is refused. -/
inductive Stops : List Element → ListError → Prop where
  | refused {before : List Element} {tree? : Option (Predicate String)} {e : Element} {fault : ListFault}
    (built : Builds before tree?) (refuses : Refuses tree? e fault) (rest : List Element) :
    Stops (before ++ e :: rest) ⟨before.length, fault⟩

theorem addElements_cases {before : List Element} {tree? : Option (Predicate String)}
    (built : Builds before tree?) (rest : List Element) :
    (∃ result, addElements tree? before.length rest = .ok result ∧ Builds (before ++ rest) result) ∨
      ∃ error, addElements tree? before.length rest = .error error ∧ Stops (before ++ rest) error := by
  induction rest generalizing before tree? with
  | nil => exact .inl ⟨tree?, rfl, by simpa using built⟩
  | cons e rest ih =>
    rcases addElement_cases tree? e with ⟨tree, hstep, hadds⟩ | ⟨fault, hstep, hrefuses⟩
    · have hrest := ih (built.snoc hadds)
      rw [List.length_append, List.length_singleton, List.append_assoc, List.singleton_append] at hrest
      simpa only [addElements, hstep] using hrest
    · exact .inr ⟨_, by simp only [addElements, hstep], .refused built hrefuses rest⟩

/-- A list either builds its tree or stops. -/
theorem ofElements_cases (elements : List Element) :
    (∃ tree?, ofElements elements = .ok tree? ∧ Builds elements tree?) ∨
      ∃ error, ofElements elements = .error error ∧ Stops elements error :=
  addElements_cases .empty elements

theorem builds_of_ofElements {elements : List Element} {tree? : Option (Predicate String)}
    (h : ofElements elements = .ok tree?) : Builds elements tree? := by
  rcases ofElements_cases elements with ⟨result, hok, hbuilds⟩ | ⟨error, herror, -⟩
  · cases h.symm.trans hok
    exact hbuilds
  · cases h.symm.trans herror

theorem stops_of_ofElements {elements : List Element} {error : ListError}
    (h : ofElements elements = .error error) : Stops elements error := by
  rcases ofElements_cases elements with ⟨result, hok, -⟩ | ⟨found, herror, hstops⟩
  · cases h.symm.trans hok
  · cases h.symm.trans herror
    exact hstops

theorem Builds.eq_none_iff {elements : List Element} {tree? : Option (Predicate String)}
    (h : Builds elements tree?) : tree? = none ↔ elements = [] := by
  cases h <;> simp

/-- Whatever list builds a tree has a tag text. -/
theorem Builds.listValues_eq_nil_iff {elements : List Element} {tree? : Option (Predicate String)}
    (h : Builds elements tree?) : listValues elements = [] ↔ tree? = none := by
  induction h with
  | empty => simp [listValues]
  | snoc built adds ih =>
    rw [listValues_append, List.append_eq_nil_iff, ih]
    cases adds <;> simp [listValues]

/-- Only a list of one element builds a leaf. -/
theorem Builds.exists_leaf_iff {elements : List Element} {tree? : Option (Predicate String)}
    (h : Builds elements tree?) : (∃ value, tree? = some (.leaf value)) ↔ elements.length = 1 := by
  cases h with
  | empty => simp
  | snoc built adds =>
    have hbefore := built.eq_none_iff
    cases adds with
    | first value => simp [hbefore.1 rfl]
    | wrap tree names => simp [← hbefore]
    | append joint children value => simp [← hbefore]

end SeriesQuery.Filter
