import SeriesQuery.Proofs.Filter.Reading
import SeriesQuery.Text.Pieces

/-! # Expressions and dashboard lists

A dashboard list that puts the word of each joint between the tokens of an expression builds the tree of
the same row. Its leaves are tag texts instead of comparisons, and where keys hold no `=` the text of a tag
is divided at the first one: so a tag text is there exactly when its key has its value, and the two trees
select the same tags.
-/

namespace SeriesQuery
namespace Filter

def Joint.word : Joint → String
  | both => "and"
  | either => "or"

def Row.elements (row : Row String) : List Element :=
  ⟨row.first, false⟩ :: row.others.flatMap fun o => [⟨o.1.word, true⟩, ⟨o.2, false⟩]

/-- A word and the tag text behind it put a node over the tree. -/
theorem addElements_word_value (tree : Predicate String) (position : Nat) (joint : Joint) (value : String)
    (rest : List Element) :
    addElements (some tree) position (⟨joint.word, true⟩ :: ⟨value, false⟩ :: rest) =
      addElements (some (joint.node tree (.leaf value))) (position + 2) rest := by
  cases joint <;> rfl

theorem addElements_others (tree : Predicate String) (position : Nat) (others : List (Joint × String)) :
    addElements (some tree) position (others.flatMap fun o => [⟨o.1.word, true⟩, ⟨o.2, false⟩]) =
      .ok (some (others.foldl (fun before o => o.1.node before (.leaf o.2)) tree)) := by
  induction others generalizing tree position with
  | nil => rfl
  | cons o others ih =>
    rw [List.flatMap_cons, List.cons_append, List.cons_append, addElements_word_value]
    exact ih _ _

/-- The list of a row builds the tree of the row. -/
theorem ofElements_elements (row : Row String) : ofElements row.elements = .ok (some row.tree) := by
  have hrest := addElements_others (.leaf row.first) 1 row.others
  simp only [Row.tree, Row.joined, Row.map, List.foldl_map]
  exact hrest

theorem listValues_elements (row : Row String) : listValues row.elements = row.items := by
  obtain ⟨first, others⟩ := row
  simp only [listValues, Row.elements, Row.items]
  induction others with
  | nil => rfl
  | cons o others ih => simpa using ih

theorem tokens_of_isCutOf {e : String} {row : Row (List Char)} (h : row.IsCutOf e.toList) (hne : e ≠ "") :
    tokens e = (row.map String.ofList).items := by
  rw [tokens, if_neg (by simpa using hne), cut_eq_of_isCutOf h]
  simp [Row.items, Row.map]

end Filter

/-- Where keys hold no `=`, a tag text has one key and one value. -/
theorem tagText_eq_iff {key key' value value' : String} (h : '=' ∉ key.toList) (h' : '=' ∉ key'.toList) :
    key ++ "=" ++ value = key' ++ "=" ++ value' ↔ key = key' ∧ value = value' := by
  constructor
  · intro heq
    have hlist : key.toList ++ '=' :: value.toList = key'.toList ++ '=' :: value'.toList := by
      simpa using congrArg String.toList heq
    have hcut := congrArg (Text.cutAt '=') hlist
    rw [Text.cutAt_append h, Text.cutAt_append h', Prod.mk.injEq, Option.some.injEq] at hcut
    exact ⟨String.toList_injective hcut.1, String.toList_injective hcut.2⟩
  · rintro ⟨rfl, rfl⟩
    rfl

theorem Tags.mem_texts_iff {tags : Tags} (hkeys : ∀ key ∈ tags.keys, '=' ∉ key.toList)
    {key value : String} (hkey : '=' ∉ key.toList) :
    key ++ "=" ++ value ∈ tags.texts ↔ tags.find? key = some value := by
  rw [OrderedMap.find?_eq_some_iff, texts, List.mem_map]
  constructor
  · rintro ⟨e, he, heq⟩
    obtain ⟨rfl, rfl⟩ := (tagText_eq_iff (hkeys e.1 (List.mem_map_of_mem he)) hkey).1 heq
    exact he
  · intro h
    exact ⟨(key, value), h, rfl⟩

namespace Filter

/-- An `=` token holds of tags exactly when its text is a text of the tags. -/
theorem CheckedToken.matchesTags_iff_mem_texts {tags : Tags} (hkeys : ∀ key ∈ tags.keys, '=' ∉ key.toList)
    {t : CheckedToken} (hop : t.op = .eq) :
    t.comparison.matchesTags tags = true ↔ String.ofList t.text ∈ tags.texts := by
  have hkey : '=' ∉ (String.ofList t.key).toList := by
    rw [String.toList_ofList]
    intro h
    cases t.isKeyChar_key _ h
  have htext : String.ofList t.text = String.ofList t.key ++ "=" ++ String.ofList t.value := by
    rw [Token.text, hop, String.append_assoc]
    simp [Operator.symbol]
  rw [t.matchesTags_iff, htext, Tags.mem_texts_iff hkeys hkey, Token.Matches, hop]
  simp [Operator.Admits]

/-- An expression of `=` tokens selects the same tags as the dashboard list of its tokens. -/
theorem selects_comparisons_eq_tagTexts {e : String} {tree : TagPredicate} (h : parse e = .ok (some tree))
    (eqOnly : ∀ c ∈ tree.leaves, c.op = .eq) :
    ∃ (row : Row (List Char)) (built : Predicate String), row.IsCutOf e.toList ∧
      listValues (row.map String.ofList).elements = tokens e ∧
      ofElements (row.map String.ofList).elements = .ok (some built) ∧
      ∀ tags : Tags, (∀ key ∈ tags.keys, '=' ∉ key.toList) →
        (SeriesFilter.comparisons tree).selects tags = (SeriesFilter.tagTexts built).selects tags := by
  have hne : e ≠ "" := by
    rintro rfl
    cases h
  obtain ⟨read, rfl, rfl⟩ := exists_row_of_parse h
  have hcut := isCutOf_written (read.map CheckedToken.toToken)
  refine ⟨_, _, hcut, ?_, ofElements_elements _, fun tags hkeys => ?_⟩
  · rw [listValues_elements, tokens_of_isCutOf hcut hne]
  · have hleaf : ∀ t ∈ read.items, (t.comparison.matchesTags tags = true) =
        (tags.texts.contains (String.ofList t.text) = true) := by
      intro t ht
      have hop : t.comparison.op = .eq := eqOnly _ (by simpa using ⟨t, ht, rfl⟩)
      rw [CheckedToken.matchesTags_iff_mem_texts hkeys (t.op_comparison ▸ hop), List.contains_iff_mem]
    rw [Bool.eq_iff_iff, SeriesFilter.selects, SeriesFilter.selects, Row.holds_tree, Row.holds_tree]
    simp only [Row.map_map, Function.comp_def]
    rw [Row.map_congr hleaf]

/-- The tree of an expression with both joints, a repeated token and a value that holds `=`. -/
def equalities : TagPredicate :=
  .both (.either (.leaf ⟨"a", .eq, "1", none⟩) (.leaf ⟨"b", .eq, "x=y", none⟩))
    (.leaf ⟨"a", .eq, "1", none⟩)

/-- The tags of a series with one tag, whose value holds `=`. -/
def taggedB : Tags := ⟨[("b", "x=y")], by simp⟩

theorem selects_equalities :
    parse "a=1|b=x=y&a=1" = .ok (some equalities) ∧ (∀ c ∈ equalities.leaves, c.op = .eq) ∧
      (∀ key ∈ taggedB.keys, '=' ∉ key.toList) ∧
      ∃ built,
        ofElements [⟨"a=1", false⟩, ⟨"or", true⟩, ⟨"b=x=y", false⟩, ⟨"and", true⟩, ⟨"a=1", false⟩] =
          .ok (some built) ∧
        (SeriesFilter.comparisons equalities).selects taggedB =
          (SeriesFilter.tagTexts built).selects taggedB := by
  have h : parse "a=1|b=x=y&a=1" = .ok (some equalities) := by rfl
  have eqOnly : ∀ c ∈ equalities.leaves, c.op = .eq := by
    simp [equalities, Predicate.both, Predicate.either]
  have keys : ∀ key ∈ taggedB.keys, '=' ∉ key.toList := by
    simp [taggedB, OrderedMap.keys]
  obtain ⟨row, built, hrow, -, hbuilt, hselects⟩ := selects_comparisons_eq_tagTexts h eqOnly
  have hcut : Row.IsCutOf ⟨"a=1".toList, [(.either, "b=x=y".toList), (.both, "a=1".toList)]⟩
      "a=1|b=x=y&a=1".toList := ⟨rfl, by simp [Row.items, SeparatorFree]⟩
  obtain rfl := hcut.unique hrow
  exact ⟨h, eqOnly, keys, built, hbuilt, hselects taggedB keys⟩

end Filter
end SeriesQuery
