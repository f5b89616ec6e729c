import SeriesQuery.Proofs.Store.Lookup

/-! # Stores and the order of insertions

Which part of a path is missing depends on the paths of a store alone, and what is found under a key depends on
the insertions with that path and that key alone. So insertions that differ in one of the two can trade places,
also where several series share a key and a filter selects only some of them.
-/

namespace SeriesQuery.Store

/-- The insertions with one path and one key, in their order. -/
def insertionsOf (path : FieldPath) (key : String) (insertions : List (FieldPath × Series)) :
    List (FieldPath × Series) :=
  insertions.filter fun e => e.1 = path ∧ e.2.key = key

variable {a b : List (FieldPath × Series)}

theorem missing?_of_perm {s u : Store} (h : s.entries.Perm u.entries) (path : FieldPath) :
    s.missing? path = u.missing? path := by
  simp only [missing?, h.any_eq]

/-- The selected series with one key are found among the insertions with that path and that key. -/
theorem filter_key_seriesAt (s : Store) (path : FieldPath) (selected : Series → Bool) (key : String) :
    (((s.seriesAt path).filter selected).filter fun series => series.key = key) =
      ((insertionsOf path key s.entries).map Prod.snd).filter selected := by
  simp only [seriesAt, insertionsOf, List.filter_map, List.filter_filter]
  congr 1
  apply List.filter_congr
  intro e _
  by_cases hpath : e.1 = path <;> by_cases hkey : e.2.key = key <;> simp [hpath, hkey]

theorem lookup_congr {s u : Store} {path : FieldPath} (missing : s.missing? path = u.missing? path)
    (order : ∀ key, insertionsOf path key s.entries = insertionsOf path key u.entries) (range : TimeRange)
    (tagList : List String) (filter : Option SeriesFilter) :
    s.lookup path range tagList filter = u.lookup path range tagList filter := by
  by_cases proper : range.start < range.stop
  case neg =>
    have hle := Int64.not_lt.1 proper
    rw [lookup_of_stop_le hle, lookup_of_stop_le hle]
  cases hmissing : u.missing? path with
  | some cause =>
    rw [lookup_of_lacks proper (missing?_eq_some_iff.1 (missing.trans hmissing)),
      lookup_of_lacks proper (missing?_eq_some_iff.1 hmissing)]
  | none =>
    rw [lookup_eq_ok proper (missing.trans hmissing), lookup_eq_ok proper hmissing]
    congr 1
    apply OrderedMap.gather_congr
    intro key
    rw [filter_key_seriesAt, filter_key_seriesAt, order]

/-- Insertions may come in any other order that keeps those with the same path and the same key in theirs. -/
theorem lookup_and_size_of_reordered (perm : a.Perm b)
    (order : ∀ path key, insertionsOf path key a = insertionsOf path key b) :
    (∀ path range tagList filter, (ofInsertions a).lookup path range tagList filter =
      (ofInsertions b).lookup path range tagList filter) ∧
      (ofInsertions a).size = (ofInsertions b).size := by
  have hperm : (ofInsertions a).entries.Perm (ofInsertions b).entries := by
    rwa [entries_ofInsertions, entries_ofInsertions]
  constructor
  · intro path range tagList filter
    apply lookup_congr (missing?_of_perm hperm path)
    intro key
    rw [entries_ofInsertions, entries_ofInsertions, order]
  · exact hperm.length_eq

/-- Two series with one key and different tags, around others. -/
def byCore : List (FieldPath × Series) := [
  (⟨"metrics", "cpu", "usage"⟩, ⟨"web1", .ofList [("core", "0")], [.ofInt 2000 5, .ofInt 1000 3]⟩),
  (⟨"metrics", "cpu", "idle"⟩, ⟨"web1", .ofList [("core", "0")], [.ofInt 2000 95]⟩),
  (⟨"metrics", "cpu", "usage"⟩, ⟨"db1", .ofList [("core", "1")], []⟩),
  (⟨"metrics", "cpu", "usage"⟩, ⟨"web1", .ofList [("core", "1")], [.ofInt 1000 7]⟩)]

def byCoreReordered : List (FieldPath × Series) := [
  (⟨"metrics", "cpu", "usage"⟩, ⟨"db1", .ofList [("core", "1")], []⟩),
  (⟨"metrics", "cpu", "usage"⟩, ⟨"web1", .ofList [("core", "0")], [.ofInt 2000 5, .ofInt 1000 3]⟩),
  (⟨"metrics", "cpu", "usage"⟩, ⟨"web1", .ofList [("core", "1")], [.ofInt 1000 7]⟩),
  (⟨"metrics", "cpu", "idle"⟩, ⟨"web1", .ofList [("core", "0")], [.ofInt 2000 95]⟩)]

theorem perm_byCore : byCore.Perm byCoreReordered := by
  apply (List.Perm.cons _ (List.Perm.swap _ _ _)).trans
  apply (List.Perm.swap _ _ _).trans
  apply List.Perm.cons
  apply List.Perm.cons
  apply List.Perm.swap

theorem insertionsOf_byCore (path : FieldPath) (key : String) :
    insertionsOf path key byCore = insertionsOf path key byCoreReordered := by
  by_cases hweb : key = "web1"
  · by_cases husage : path = ⟨"metrics", "cpu", "usage"⟩
    · simp [insertionsOf, byCore, byCoreReordered, hweb, husage]
    · simp [insertionsOf, byCore, byCoreReordered, hweb, Ne.symm husage, List.filter_cons]
  · simp [insertionsOf, byCore, byCoreReordered, Ne.symm hweb, List.filter_cons]

theorem lookup_byCoreReordered :
    byCore.Perm byCoreReordered ∧
      (∀ path key, insertionsOf path key byCore = insertionsOf path key byCoreReordered) ∧
      (∃ found, (ofInsertions byCoreReordered).lookup ⟨"metrics", "cpu", "usage"⟩ .all [] none =
        .ok found ∧ found.entries = [("db1", []), ("web1", [.ofInt 2000 5, .ofInt 1000 3, .ofInt 1000 7])]) ∧
      (ofInsertions byCore).size = (ofInsertions byCoreReordered).size := by
  obtain ⟨hlookup, hsize⟩ := lookup_and_size_of_reordered perm_byCore insertionsOf_byCore
  refine ⟨perm_byCore, insertionsOf_byCore, ?_, hsize⟩
  rw [← hlookup]
  exact ⟨_, rfl, rfl⟩

end SeriesQuery.Store
