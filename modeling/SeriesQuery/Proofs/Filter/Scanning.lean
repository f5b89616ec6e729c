import SeriesQuery.Proofs.Filter.Acceptance

/-! # Scanning filter lists

The tree of a filter list holds of tag texts exactly when a scan of the list says so, which keeps no tree: it
starts with the truth of the first tag text, remembers the joint that the last combinator named, and joins
every further tag text with it to what it has. So a combinator matters only as the one in force for the tag
texts behind it, and can be left out where there are none before the next one, or where it only repeats the
one before it.
-/

namespace SeriesQuery.Filter

/-- What a joint makes of the truth before it and that of the next item. -/
def Joint.connect (joint : Joint) (before next : Bool) : Bool :=
  match joint with
  | both => before && next
  | either => before || next

section Group

variable {α : Type} (test : α → Bool) (joint : Joint)

theorem Joint.holds_group_single (child : Predicate α) : (joint.group [child]).holds test = child.holds test := by
  cases joint <;> simp [group]

theorem Joint.holds_group_snoc (children : List (Predicate α)) (child : Predicate α) :
    (joint.group (children ++ [child])).holds test =
      joint.connect ((joint.group children).holds test) (child.holds test) := by
  cases joint <;> simp [group, connect]

theorem Joint.leaves_group (children : List (Predicate α)) :
    (joint.group children).leaves = children.flatMap Predicate.leaves := by
  cases joint <;> simp [group]

end Group

/-! ## Leaves -/

theorem Adds.leaves {tree? : Option (Predicate String)} {e : Element} {tree : Predicate String}
    (h : Adds tree? e tree) : tree.leaves = tree?.elim [] Predicate.leaves ++ listValues [e] := by
  cases h with
  | first value => simp [listValues]
  | wrap tree names => simp [listValues, Joint.leaves_group]
  | append joint children value => simp [listValues, Joint.leaves_group]

/-- The leaves of a tree are the tag texts of its list, in their order. -/
theorem Builds.leaves {elements : List Element} {tree? : Option (Predicate String)}
    (h : Builds elements tree?) : tree?.elim [] Predicate.leaves = listValues elements := by
  induction h with
  | empty => rfl
  | snoc built adds ih => rw [listValues_append, ← ih, Option.elim_some, adds.leaves]

/-! ## Truth -/

/-- A place in a scan of a filter list: the joint in force, and the truth of what was read. -/
structure Scan where
  joint : Joint
  result : Bool

namespace Scan

/-- A combinator changes the joint in force, and a tag text is joined to the result with it. -/
def next (test : String → Bool) (s : Scan) (e : Element) : Scan :=
  if e.isCombinator then ⟨(Joint.ofWord? e.value).getD s.joint, s.result⟩
  else ⟨s.joint, s.joint.connect s.result (test e.value)⟩

variable {test : String → Bool}

theorem next_combinator (s : Scan) {e : Element} {joint : Joint} (combinator : e.isCombinator = true)
    (names : Joint.ofWord? e.value = some joint) : s.next test e = ⟨joint, s.result⟩ := by
  rw [next, if_pos combinator, names, Option.getD_some]

theorem next_eq_self {s : Scan} {e : Element} (combinator : e.isCombinator = true)
    (names : Joint.ofWord? e.value = some s.joint) : s.next test e = s := next_combinator s combinator names

/-- Tag texts leave the joint in force. -/
theorem joint_foldl_next {values : List Element} (h : ∀ e ∈ values, e.isCombinator = false) (s : Scan) :
    (values.foldl (next test) s).joint = s.joint := by
  induction values generalizing s with
  | nil => rfl
  | cons e values ih =>
    obtain ⟨he, hvalues⟩ := List.forall_mem_cons.1 h
    rw [List.foldl_cons, ih hvalues, next, he, if_neg Bool.false_ne_true]

/-- The scan has the truth of a tree and the joint of its topmost combinator, if it has one. -/
structure Describes (test : String → Bool) (s : Scan) (tree : Predicate String) : Prop where
  result : tree.holds test = s.result
  joint : ∀ joint children, tree = Joint.group joint children → joint = s.joint

theorem Describes.next {s : Scan} {before tree : Predicate String} {e : Element}
    (h : s.Describes test before) (adds : Adds (some before) e tree) : (s.next test e).Describes test tree := by
  cases adds with
  | @wrap before word joint names =>
    have hnext : s.next test ⟨word, true⟩ = ⟨joint, s.result⟩ := next_combinator s rfl names
    rw [hnext]
    constructor
    · rw [Joint.holds_group_single, h.result]
    · intro other children hgroup
      exact (Joint.group_inj hgroup).1.symm
  | append joint children value =>
    obtain rfl := h.joint joint children rfl
    constructor
    · rw [Joint.holds_group_snoc, h.result, Predicate.holds_leaf]
      rfl
    · intro other children hgroup
      exact (Joint.group_inj hgroup).1.symm

end Scan

/-- The scan of a list, which begins with the truth of its first tag text. -/
def scan (test : String → Bool) (joint : Joint) : List Element → Option Scan
  | [] => none
  | first :: rest => some (rest.foldl (Scan.next test) ⟨joint, test first.value⟩)

/-- Whatever joint is in force at the beginning, a scan describes the tree. -/
theorem Builds.exists_scan {elements : List Element} {tree? : Option (Predicate String)}
    (h : Builds elements tree?) (test : String → Bool) (joint : Joint) :
    ∀ tree ∈ tree?, ∃ s, scan test joint elements = some s ∧ s.Describes test tree := by
  induction h with
  | empty => nofun
  | @snoc before tree? e tree built adds ih =>
    rintro _ ⟨⟩
    cases tree? with
    | none =>
      cases built.eq_none_iff.1 rfl
      cases adds with
      | first value =>
        refine ⟨_, rfl, Predicate.holds_leaf test value, fun joint children hleaf => ?_⟩
        exact absurd hleaf.symm Joint.group_ne_leaf
    | some inner =>
      obtain ⟨s, hscan, hdescribes⟩ := ih inner rfl
      refine ⟨s.next test e, ?_, hdescribes.next adds⟩
      cases before with
      | nil => cases hscan
      | cons first rest =>
        cases hscan
        rw [List.cons_append, scan, List.foldl_append]
        rfl

theorem holds_eq_scan {elements : List Element} {tree : Predicate String}
    (h : ofElements elements = .ok (some tree)) (test : String → Bool) (joint : Joint) :
    some (tree.holds test) = (scan test joint elements).map Scan.result := by
  obtain ⟨s, hscan, hdescribes⟩ := (builds_of_ofElements h).exists_scan test joint tree rfl
  rw [hscan, Option.map_some, hdescribes.result]

/-! ## Combinators without effect -/

/-- A combinator between two lists is idle when no tag text stands right behind it, or when it names the joint
that is in force. -/
inductive Idle (c : Element) : List Element → List Element → Prop where
  | unused (front : List Element) {back : List Element} (next : ∀ e ∈ back.head?, e.isCombinator = true) :
    Idle c front back
  | repeated (before : List Element) {d : Element} {values : List Element} (back : List Element)
    (combinator : d.isCombinator = true) (same : d.value.toLower = c.value.toLower)
    (tagTexts : ∀ e ∈ values, e.isCombinator = false) : Idle c (before ++ d :: values) back

theorem Admissible.exists_ofWord? {elements : List Element} (h : Admissible elements) {c : Element}
    (hc : c ∈ elements) (combinator : c.isCombinator = true) : ∃ joint, Joint.ofWord? c.value = some joint :=
  Joint.exists_ofWord?_iff.2 (h.words c hc combinator)

/-- The first element of an admissible list is not one of its combinators. -/
theorem Admissible.exists_eq_cons {front back : List Element} {c : Element}
    (h : Admissible (front ++ c :: back)) (combinator : c.isCombinator = true) :
    ∃ first rest, front = first :: rest := by
  cases front with
  | nil => cases (h.first c rfl).symm.trans combinator
  | cons first rest => exact ⟨first, rest, rfl⟩

theorem Idle.admissible {front back : List Element} {c : Element} (idle : Idle c front back)
    (h : Admissible (front ++ c :: back)) (combinator : c.isCombinator = true) : Admissible (front ++ back) := by
  obtain ⟨first, rest, hfront⟩ := h.exists_eq_cons combinator
  refine ⟨?_, ?_, fun e he => h.words e ?_⟩
  · rw [hfront] at h ⊢
    exact h.first
  · cases rest with
    | cons second rest =>
      rw [hfront] at h ⊢
      exact h.second
    | nil =>
      cases idle with
      | unused _ next =>
        rw [hfront]
        simpa [List.head?_eq_getElem?] using next
      | @repeated before d values back hd same tagTexts =>
        cases before with
        | nil => cases (h.first d rfl).symm.trans hd
        | cons b before => simp at hfront
  · simp only [List.mem_append, List.mem_cons] at he ⊢
    tauto

theorem Idle.scan_eq {front back : List Element} {c : Element} (idle : Idle c front back)
    (h : Admissible (front ++ c :: back)) (combinator : c.isCombinator = true) (test : String → Bool)
    (joint : Joint) :
    (scan test joint (front ++ back)).map Scan.result = (scan test joint (front ++ c :: back)).map Scan.result := by
  obtain ⟨named, hnamed⟩ := h.exists_ofWord? (by simp) combinator
  cases idle with
  | unused _ next =>
    obtain ⟨first, rest, rfl⟩ := h.exists_eq_cons combinator
    simp only [scan, List.cons_append, List.foldl_append, List.foldl_cons, Scan.next_combinator _ combinator hnamed]
    cases back with
    | nil => rfl
    | cons e back =>
      have he := next e rfl
      obtain ⟨other, hother⟩ := h.exists_ofWord? (c := e) (by simp) he
      simp only [List.foldl_cons, Scan.next_combinator _ he hother]
  | @repeated before d values back hd same tagTexts =>
    obtain ⟨first, rest, rfl⟩ : ∃ first rest, before = first :: rest := by
      rw [List.append_assoc] at h
      exact h.exists_eq_cons hd
    have hsame := (Joint.ofWord?_congr same).trans hnamed
    simp only [scan, List.cons_append, List.foldl_append, List.foldl_cons, Scan.next_combinator _ hd hsame]
    rw [Scan.next_eq_self combinator]
    rw [hnamed, Scan.joint_foldl_next tagTexts]

/-- A list without an idle combinator has a tree with the same leaves and the same truth. -/
theorem Idle.exists_shorter {front back : List Element} {c : Element} (idle : Idle c front back)
    (combinator : c.isCombinator = true) {tree : Predicate String}
    (h : ofElements (front ++ c :: back) = .ok (some tree)) :
    ∃ shorter, ofElements (front ++ back) = .ok (some shorter) ∧ shorter.leaves = tree.leaves ∧
      ∀ test, shorter.holds test = tree.holds test := by
  have hadmissible := (builds_of_ofElements h).admissible
  obtain ⟨tree?, hshorter⟩ := exists_ofElements_iff.2 (idle.admissible hadmissible combinator)
  cases tree? with
  | none =>
    obtain ⟨first, rest, rfl⟩ := hadmissible.exists_eq_cons combinator
    cases ofElements_eq_ok_none_iff.1 hshorter
  | some shorter =>
    refine ⟨shorter, hshorter, ?_, fun test => Option.some.inj ?_⟩
    · have hvalues : listValues (c :: back) = listValues back := by simp [listValues, combinator]
      have hleaves : shorter.leaves = listValues (front ++ back) := (builds_of_ofElements hshorter).leaves
      have hlonger : tree.leaves = listValues (front ++ c :: back) := (builds_of_ofElements h).leaves
      rw [hleaves, hlonger, listValues_append, listValues_append, hvalues]
    · rw [holds_eq_scan hshorter test .both, holds_eq_scan h test .both,
        idle.scan_eq hadmissible combinator]

/-- The leaves of the tree of a list are its tag texts, which a builder with a stack notes beside the tree; the truth
of the tree is that of a scan, whatever joint is in force where it begins; and idle combinators make no difference. -/
theorem leaves_and_holds_of_ofElements {elements : List Element} {tree : Predicate String}
    (h : ofElements elements = .ok (some tree)) :
    tree.leaves = listValues elements ∧ buildOnStack elements = .ok (some tree, tree.leaves) ∧
      (∀ joint (texts : List String), some (tree.holds fun t => texts.contains t) =
        (scan (fun t => texts.contains t) joint elements).map Scan.result) ∧
      ∀ front c back, elements = front ++ c :: back → c.isCombinator = true → Idle c front back →
        ∃ shorter, ofElements (front ++ back) = .ok (some shorter) ∧ shorter.leaves = tree.leaves ∧
          ∀ texts : List String, (shorter.holds fun t => texts.contains t) = tree.holds fun t => texts.contains t := by
  have hleaves : tree.leaves = listValues elements := (builds_of_ofElements h).leaves
  refine ⟨hleaves, ?_, fun joint texts => holds_eq_scan h _ joint, ?_⟩
  · rw [buildOnStack_eq, h, hleaves]
    rfl
  · rintro front c back rfl combinator idle
    obtain ⟨shorter, hshorter, hsame, hholds⟩ := idle.exists_shorter combinator h
    exact ⟨shorter, hshorter, hsame, fun texts => hholds _⟩

/-- Several tag texts under one combinator, a combinator that is overruled at once, and one at the end. -/
def withIdle : List Element :=
  [⟨"a=1", false⟩, ⟨"OR", true⟩, ⟨"b=2", false⟩, ⟨"c=3", false⟩, ⟨"or", true⟩, ⟨"And", true⟩, ⟨"d=4", false⟩,
    ⟨"or", true⟩]

theorem holds_withIdle :
    ∃ tree, ofElements withIdle = .ok (some tree) ∧ tree.leaves = ["a=1", "b=2", "c=3", "d=4"] ∧
      (∀ texts : List String, (tree.holds fun t => texts.contains t) =
        (((texts.contains "a=1" || texts.contains "b=2") || texts.contains "c=3") && texts.contains "d=4")) ∧
      ∃ shorter, ofElements (withIdle.take 4 ++ withIdle.drop 5) = .ok (some shorter) ∧
        shorter.leaves = tree.leaves := by
  have h : ∃ tree, ofElements withIdle = .ok (some tree) := ⟨_, rfl⟩
  obtain ⟨tree, h⟩ := h
  obtain ⟨hleaves, -, hholds, hshorter⟩ := leaves_and_holds_of_ofElements h
  refine ⟨tree, h, hleaves, fun texts => ?_, ?_⟩
  · exact Option.some.inj (hholds .both texts)
  · obtain ⟨shorter, hbuilt, hsame, -⟩ := hshorter (withIdle.take 4) ⟨"or", true⟩ (withIdle.drop 5) rfl rfl
      (.unused _ (by simp [withIdle]))
    exact ⟨shorter, hbuilt, hsame⟩

end SeriesQuery.Filter
