import SeriesQuery.Proofs.Map.Gathering
import SeriesQuery.Store.Basic

/-! # Stores and lookups

A store is the list of its insertions. A lookup has three ways to end: the range is empty, or there is a first
part of the path that none of the insertions has, or the points of the selected series are gathered by key.
-/

namespace SeriesQuery.Store

def ofInsertions (insertions : List (FieldPath × Series)) : Store :=
  insertions.foldl (fun s e => s.insert e.1 e.2) .empty

theorem entries_foldl_insert (s : Store) (insertions : List (FieldPath × Series)) :
    (insertions.foldl (fun s e => s.insert e.1 e.2) s).entries = s.entries ++ insertions := by
  induction insertions generalizing s with
  | nil => exact (List.append_nil s.entries).symm
  | cons e rest ih => rw [List.foldl_cons, ih, insert, List.append_assoc, List.singleton_append]

theorem entries_ofInsertions (insertions : List (FieldPath × Series)) :
    (ofInsertions insertions).entries = insertions := entries_foldl_insert .empty insertions

/-- The first part of a path that no entry has. -/
inductive Lacks (entries : List (FieldPath × Series)) (path : FieldPath) : StoreError → Prop where
  | database (none : ∀ e ∈ entries, e.1.database ≠ path.database) :
    Lacks entries path (.noDatabase path.database)
  | measurement (some : ∃ e ∈ entries, e.1.database = path.database)
      (none : ∀ e ∈ entries, e.1.database = path.database → e.1.measurement ≠ path.measurement) :
    Lacks entries path (.noMeasurement path.database path.measurement)
  | field (some : ∃ e ∈ entries, e.1.database = path.database ∧ e.1.measurement = path.measurement)
      (none : ∀ e ∈ entries, e.1.database = path.database → e.1.measurement = path.measurement →
        e.1.field ≠ path.field) :
    Lacks entries path (.noField path.measurement path.field)

theorem Lacks.isNotFound {entries : List (FieldPath × Series)} {path : FieldPath} {e : StoreError}
    (h : Lacks entries path e) : e.isNotFound = true := by
  cases h <;> rfl

theorem Lacks.not_mem {entries : List (FieldPath × Series)} {path : FieldPath} {cause : StoreError}
    (h : Lacks entries path cause) : ∀ e ∈ entries, e.1 ≠ path := by
  rintro e he rfl
  cases h with
  | database none => exact none e he rfl
  | measurement _ none => exact none e he rfl rfl
  | field _ none => exact none e he rfl rfl rfl

theorem Lacks.unique {entries : List (FieldPath × Series)} {path : FieldPath} {a b : StoreError}
    (ha : Lacks entries path a) (hb : Lacks entries path b) : a = b := by
  cases ha with
  | database none =>
    cases hb with
    | database _ => rfl
    | measurement some _ =>
      obtain ⟨e, he, hd⟩ := some
      exact absurd hd (none e he)
    | field some _ =>
      obtain ⟨e, he, hd, -⟩ := some
      exact absurd hd (none e he)
  | measurement some none =>
    cases hb with
    | database none' =>
      obtain ⟨e, he, hd⟩ := some
      exact absurd hd (none' e he)
    | measurement _ _ => rfl
    | field some' _ =>
      obtain ⟨e, he, hd, hm⟩ := some'
      exact absurd hm (none e he hd)
  | field some none =>
    obtain ⟨e, he, hd, hm⟩ := some
    cases hb with
    | database none' => exact absurd hd (none' e he)
    | measurement _ none' => exact absurd hm (none' e he hd)
    | field _ _ => rfl

/-- What is found to be missing is what is lacking, and nothing is where the path leads to a series. -/
theorem missing?_cases (s : Store) (path : FieldPath) :
    (∃ cause, s.missing? path = some cause ∧ Lacks s.entries path cause) ∨
      s.missing? path = none ∧ ∃ e ∈ s.entries, e.1 = path := by
  rw [missing?]
  cases hdatabase : s.entries.any fun e => e.1.database == path.database with
  | false =>
    refine .inl ⟨_, rfl, .database fun e he => ?_⟩
    simpa using List.any_eq_false.1 hdatabase e he
  | true =>
    have hsome : ∃ e ∈ s.entries, e.1.database = path.database := by simpa using hdatabase
    cases hmeasurement : s.entries.any fun e =>
        e.1.database == path.database && e.1.measurement == path.measurement with
    | false =>
      refine .inl ⟨_, rfl, .measurement hsome fun e he => ?_⟩
      simpa using List.any_eq_false.1 hmeasurement e he
    | true =>
      have hsome : ∃ e ∈ s.entries, e.1.database = path.database ∧ e.1.measurement = path.measurement := by
        simpa using hmeasurement
      cases hpath : s.entries.any fun e => e.1 == path with
      | false =>
        refine .inl ⟨_, rfl, .field hsome fun e he hd hm hf => List.any_eq_false.1 hpath e he ?_⟩
        rw [beq_iff_eq]
        change (⟨e.1.database, e.1.measurement, e.1.field⟩ : FieldPath) = path
        rw [hd, hm, hf]
      | true => exact .inr ⟨rfl, by simpa using hpath⟩

theorem missing?_eq_some_iff {s : Store} {path : FieldPath} {cause : StoreError} :
    s.missing? path = some cause ↔ Lacks s.entries path cause := by
  obtain ⟨found, hmissing, hlacks⟩ | ⟨hmissing, e, he, hpath⟩ := s.missing?_cases path
  · rw [hmissing, Option.some_inj]
    exact ⟨fun h => h ▸ hlacks, fun h => hlacks.unique h⟩
  · rw [hmissing]
    exact iff_of_false nofun fun h => h.not_mem e he hpath

theorem missing?_eq_none_iff {s : Store} {path : FieldPath} :
    s.missing? path = none ↔ ∃ e ∈ s.entries, e.1 = path := by
  rcases s.missing?_cases path with ⟨cause, hmissing, hlacks⟩ | ⟨hmissing, found⟩
  · rw [hmissing]
    apply iff_of_false nofun
    rintro ⟨e, he, hpath⟩
    exact hlacks.not_mem e he hpath
  · exact iff_of_true hmissing found

section Lookup

variable {s : Store} {path : FieldPath} {range : TimeRange}

theorem lookup_of_stop_le (h : range.stop ≤ range.start) (tagList : List String)
    (filter : Option SeriesFilter) : s.lookup path range tagList filter = .error .emptyRange := by
  have himproper : (!range.isProper) = true := by simpa [TimeRange.isProper] using Int64.not_lt.2 h
  rw [lookup, if_pos himproper]

theorem lookup_of_lacks (proper : range.start < range.stop) {cause : StoreError}
    (lacks : Lacks s.entries path cause) (tagList : List String) (filter : Option SeriesFilter) :
    s.lookup path range tagList filter = .error cause := by
  have hproper : ¬ (!range.isProper) = true := by simp [TimeRange.isProper, proper]
  rw [lookup, if_neg hproper, missing?_eq_some_iff.2 lacks]

theorem lookup_eq_ok (proper : range.start < range.stop) (there : s.missing? path = none)
    (tagList : List String) (filter : Option SeriesFilter) :
    s.lookup path range tagList filter =
      .ok (.gather Series.key (fun series => series.points.filter fun p => range.contains p.time)
        ((s.seriesAt path).filter (selects filter tagList))) := by
  have hproper : ¬ (!range.isProper) = true := by simp [TimeRange.isProper, proper]
  rw [lookup, if_neg hproper, there]
  rfl

end Lookup

end SeriesQuery.Store
