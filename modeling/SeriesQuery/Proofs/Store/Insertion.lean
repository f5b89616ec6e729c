import SeriesQuery.Proofs.Store.Levels

/-! # What an insertion changes

An insertion is seen by the lookups of its own path alone, and there by one key alone: the points of the new
series that lie in the range come behind those of its key. A lookup of another path still finds what it found,
and one that found nothing still finds nothing, although another part of its path may be the first that is
missing, since the insertion can bring its database or its measurement. All this holds alike of a store that is
the list of its insertions and of one that is kept in levels.
-/

namespace SeriesQuery

def Series.pointsIn (series : Series) (range : TimeRange) : List Point :=
  series.points.filter fun p => range.contains p.time

/-- The values of one key have become more at their end, and those of no other key have changed. -/
structure OrderedMap.Grows {κ ν : Type} [Ord κ] (before after : OrderedMap κ (List ν)) (key : κ)
    (values : List ν) : Prop where
  atKey : after.find? key = some ((before.find? key).getD [] ++ values)
  elsewhere : ∀ other, other ≠ key → after.find? other = before.find? other

theorem OrderedMap.grows_alter {κ ν : Type} [Ord κ] [Std.TransOrd κ] [Std.LawfulEqOrd κ]
    (m : OrderedMap κ (List ν)) (key : κ) (values : List ν) :
    m.Grows (m.alter key fun old => old.getD [] ++ values) key values where
  atKey := m.find?_alter_self key _
  elsewhere _ hother := m.find?_alter_of_ne _ hother.symm

namespace Store

variable {s : Store} {path asked : FieldPath} {series : Series} {range : TimeRange} {tagList : List String}
  {filter : Option SeriesFilter}

def gathered (s : Store) (path : FieldPath) (range : TimeRange) (tagList : List String)
    (filter : Option SeriesFilter) : OrderedMap String (List Point) :=
  .gather Series.key (fun series => series.pointsIn range) ((s.seriesAt path).filter (selects filter tagList))

/-- The three ways in which a lookup ends. -/
theorem lookup_cases (s : Store) (path : FieldPath) (range : TimeRange) (tagList : List String)
    (filter : Option SeriesFilter) :
    range.stop ≤ range.start ∧ s.lookup path range tagList filter = .error .emptyRange ∨
      range.start < range.stop ∧
        ((∃ cause, Lacks s.entries path cause ∧ s.lookup path range tagList filter = .error cause) ∨
          s.missing? path = none ∧ s.lookup path range tagList filter = .ok (s.gathered path range tagList filter)) := by
  by_cases proper : range.start < range.stop
  · refine .inr ⟨proper, ?_⟩
    rcases s.missing?_cases path with ⟨cause, -, lacks⟩ | ⟨there, -⟩
    · exact .inl ⟨cause, lacks, lookup_of_lacks proper lacks tagList filter⟩
    · exact .inr ⟨there, lookup_eq_ok proper there tagList filter⟩
  · have hle := Int64.not_lt.1 proper
    exact .inl ⟨hle, lookup_of_stop_le hle tagList filter⟩

/-! ## The parts of a lookup -/

theorem entries_insert (s : Store) (path : FieldPath) (series : Series) :
    (s.insert path series).entries = s.entries ++ [(path, series)] := rfl

theorem size_insert (s : Store) (path : FieldPath) (series : Series) :
    (s.insert path series).size = s.size + 1 := by
  rw [size, size, entries_insert, List.length_append, List.length_singleton]

theorem seriesAt_insert_self (s : Store) (path : FieldPath) (series : Series) :
    (s.insert path series).seriesAt path = s.seriesAt path ++ [series] := by
  simp [seriesAt, entries_insert]

theorem seriesAt_insert_of_ne (s : Store) (series : Series) (h : asked ≠ path) :
    (s.insert path series).seriesAt asked = s.seriesAt asked := by
  simp [seriesAt, entries_insert, h.symm]

/-- What was there is there. -/
theorem missing?_insert (there : s.missing? asked = none) (path : FieldPath) (series : Series) :
    (s.insert path series).missing? asked = none := by
  rw [missing?_eq_none_iff] at there ⊢
  obtain ⟨e, he, hpath⟩ := there
  exact ⟨e, List.mem_append_left _ he, hpath⟩

theorem missing?_insert_self (s : Store) (path : FieldPath) (series : Series) :
    (s.insert path series).missing? path = none := by
  rw [missing?_eq_none_iff]
  exact ⟨(path, series), List.mem_append_right _ (List.mem_singleton_self _), rfl⟩

/-- A path that lacks a part lacks one also after the insertion of another path. -/
theorem exists_lacks_insert (h : asked ≠ path) {cause : StoreError} (lacks : Lacks s.entries asked cause)
    (series : Series) : ∃ later, Lacks (s.insert path series).entries asked later := by
  rcases (s.insert path series).missing?_cases asked with ⟨later, -, hlater⟩ | ⟨-, e, he, hpath⟩
  · exact ⟨later, hlater⟩
  · rcases List.mem_append.1 he with he | he
    · exact absurd hpath (lacks.not_mem e he)
    · cases List.mem_singleton.1 he
      exact absurd hpath.symm h

theorem seriesAt_of_lacks {cause : StoreError} (lacks : Lacks s.entries path cause) : s.seriesAt path = [] := by
  rw [seriesAt, List.map_eq_nil_iff, List.filter_eq_nil_iff]
  intro e he
  simpa using lacks.not_mem e he

theorem gathered_insert_of_ne (s : Store) (series : Series) (h : asked ≠ path) :
    (s.insert path series).gathered asked range tagList filter = s.gathered asked range tagList filter := by
  rw [gathered, seriesAt_insert_of_ne s series h, gathered]

theorem gathered_insert_self (s : Store) (path : FieldPath) (series : Series) :
    (s.insert path series).gathered path range tagList filter =
      if selects filter tagList series = true then
        (s.gathered path range tagList filter).alter series.key fun old => old.getD [] ++ series.pointsIn range
      else s.gathered path range tagList filter := by
  rw [gathered, seriesAt_insert_self, List.filter_append]
  by_cases selected : selects filter tagList series = true
  · rw [if_pos selected, List.filter_cons_of_pos selected, List.filter_nil, OrderedMap.gather_snoc, gathered]
  · rw [if_neg selected, List.filter_cons_of_neg selected, List.filter_nil, List.append_nil, gathered]

theorem gathered_of_lacks {cause : StoreError} (lacks : Lacks s.entries path cause) :
    s.gathered path range tagList filter = .empty := by
  rw [gathered, seriesAt_of_lacks lacks]
  rfl

/-! ## Lookups after an insertion -/

theorem lookup_insert_emptyRange (h : s.lookup asked range tagList filter = .error .emptyRange) (path : FieldPath)
    (series : Series) : (s.insert path series).lookup asked range tagList filter = .error .emptyRange := by
  rcases s.lookup_cases asked range tagList filter with ⟨hle, -⟩ | ⟨-, ⟨cause, lacks, herror⟩ | ⟨-, hok⟩⟩
  · exact lookup_of_stop_le hle tagList filter
  · cases h.symm.trans herror
    cases lacks.isNotFound
  · cases h.symm.trans hok

/-- What is found under another path is still found. -/
theorem lookup_insert_of_ne (hne : asked ≠ path) {found : OrderedMap String (List Point)}
    (h : s.lookup asked range tagList filter = .ok found) (series : Series) :
    (s.insert path series).lookup asked range tagList filter = .ok found := by
  rcases s.lookup_cases asked range tagList filter with ⟨-, herror⟩ | ⟨proper, ⟨cause, -, herror⟩ | ⟨there, hok⟩⟩
  · cases h.symm.trans herror
  · cases h.symm.trans herror
  · have hlater := lookup_eq_ok proper (missing?_insert there path series) tagList filter
    rw [← h, hok, ← gathered_insert_of_ne s series hne]
    exact hlater

/-- What is not found under another path is still not found. -/
theorem exists_lookup_insert_error (hne : asked ≠ path) {cause : StoreError}
    (h : s.lookup asked range tagList filter = .error cause) (notFound : cause.isNotFound = true)
    (series : Series) : ∃ later, (s.insert path series).lookup asked range tagList filter = .error later ∧
      later.isNotFound = true := by
  rcases s.lookup_cases asked range tagList filter with ⟨-, herror⟩ | ⟨proper, ⟨cause, lacks, -⟩ | ⟨-, hok⟩⟩
  · cases h.symm.trans herror
    cases notFound
  · obtain ⟨later, hlater⟩ := exists_lacks_insert hne lacks series
    exact ⟨later, lookup_of_lacks proper hlater tagList filter, hlater.isNotFound⟩
  · cases h.symm.trans hok

theorem lookup_insert_self (proper : range.start < range.stop) (s : Store) (path : FieldPath) (series : Series)
    (tagList : List String) (filter : Option SeriesFilter) :
    (s.insert path series).lookup path range tagList filter =
      .ok ((s.insert path series).gathered path range tagList filter) :=
  lookup_eq_ok proper (missing?_insert_self s path series) tagList filter

/-- What was found under the path itself grows by the points of the series, if this is selected. -/
theorem exists_lookup_insert_of_ok {found : OrderedMap String (List Point)}
    (h : s.lookup path range tagList filter = .ok found) (series : Series) :
    ∃ after, (s.insert path series).lookup path range tagList filter = .ok after ∧
      (selects filter tagList series = true → found.Grows after series.key (series.pointsIn range)) ∧
      (selects filter tagList series = false → after = found) := by
  rcases s.lookup_cases path range tagList filter with ⟨-, herror⟩ | ⟨proper, ⟨cause, -, herror⟩ | ⟨-, hok⟩⟩
  · cases h.symm.trans herror
  · cases h.symm.trans herror
  · cases h.symm.trans hok
    refine ⟨_, lookup_insert_self proper s path series tagList filter, fun selected => ?_, fun unselected => ?_⟩
    · rw [gathered_insert_self, if_pos selected]
      exact OrderedMap.grows_alter _ _ _
    · rw [gathered_insert_self, unselected, if_neg Bool.false_ne_true]

/-- Where nothing was found, the series alone is found, if it is selected. -/
theorem exists_lookup_insert_of_notFound {cause : StoreError}
    (h : s.lookup path range tagList filter = .error cause) (notFound : cause.isNotFound = true) (series : Series) :
    ∃ after, (s.insert path series).lookup path range tagList filter = .ok after ∧
      after.entries = if selects filter tagList series = true then [(series.key, series.pointsIn range)] else [] := by
  rcases s.lookup_cases path range tagList filter with ⟨-, herror⟩ | ⟨proper, ⟨cause, lacks, -⟩ | ⟨-, hok⟩⟩
  · cases h.symm.trans herror
    cases notFound
  · refine ⟨_, lookup_insert_self proper s path series tagList filter, ?_⟩
    rw [gathered_insert_self, gathered_of_lacks lacks]
    split <;> rfl
  · cases h.symm.trans hok

/-- The answers of a store to lookups. -/
abbrev Answers :=
  FieldPath → TimeRange → List String → Option SeriesFilter → Except StoreError (OrderedMap String (List Point))

/-- How the answers of a store before and after an insertion compare. -/
structure TouchesOnly (path : FieldPath) (series : Series) (before after : Answers) : Prop where
  emptyRange : ∀ asked range tagList filter, before asked range tagList filter = .error .emptyRange →
    after asked range tagList filter = .error .emptyRange
  found_elsewhere : ∀ asked range tagList filter found, asked ≠ path →
    before asked range tagList filter = .ok found → after asked range tagList filter = .ok found
  notFound_elsewhere : ∀ asked range tagList filter cause, asked ≠ path →
    before asked range tagList filter = .error cause → cause.isNotFound = true →
      ∃ later, after asked range tagList filter = .error later ∧ later.isNotFound = true
  found_here : ∀ range tagList filter found, before path range tagList filter = .ok found →
    ∃ grown, after path range tagList filter = .ok grown ∧
      (selects filter tagList series = true → found.Grows grown series.key (series.pointsIn range)) ∧
      (selects filter tagList series = false → grown = found)
  notFound_here : ∀ range tagList filter cause, before path range tagList filter = .error cause →
    cause.isNotFound = true → ∃ found, after path range tagList filter = .ok found ∧
      found.entries = if selects filter tagList series = true then [(series.key, series.pointsIn range)] else []

theorem touchesOnly_insert (s : Store) (path : FieldPath) (series : Series) :
    TouchesOnly path series s.lookup (s.insert path series).lookup where
  emptyRange _ _ _ _ h := lookup_insert_emptyRange h path series
  found_elsewhere _ _ _ _ _ hne h := lookup_insert_of_ne hne h series
  notFound_elsewhere _ _ _ _ _ hne h notFound := exists_lookup_insert_error hne h notFound series
  found_here _ _ _ _ h := exists_lookup_insert_of_ok h series
  notFound_here _ _ _ _ h notFound := exists_lookup_insert_of_notFound h notFound series

/-- An insertion adds one series. A lookup of an empty range fails as before; one of another path finds what it found
or still finds nothing; and one of the path itself finds what it found, or nothing, and behind it, under the key of
the series, the points of the series in the range, exactly when the series is selected. -/
theorem insert_adds_one_and_touchesOnly (s : Store) (path : FieldPath) (series : Series) :
    (s.insert path series).size = s.size + 1 ∧
      TouchesOnly path series s.lookup (s.insert path series).lookup ∧
      ((Levels.ofStore s).insert path series).size = (Levels.ofStore s).size + 1 ∧
      TouchesOnly path series (Levels.ofStore s).lookup ((Levels.ofStore s).insert path series).lookup := by
  have hlookup (u : Store) : (Levels.ofStore u).lookup = u.lookup := by
    funext path range tagList filter
    exact Levels.lookup_ofStore u path range tagList filter
  refine ⟨size_insert s path series, touchesOnly_insert s path series, ?_, ?_⟩
  · rw [← Levels.ofStore_insert, Levels.size_ofStore, Levels.size_ofStore, size_insert]
  · rw [← Levels.ofStore_insert, hlookup, hlookup]
    exact touchesOnly_insert s path series

def cpuOnly : Store := .ofInsertions [(⟨"metrics", "cpu", "usage"⟩, ⟨"web1", .empty, [.ofInt 2000 5, .ofInt 1000 3]⟩)]

def freeMemory : Series := ⟨"web1", .ofList [("host", "web1")], [.ofInt 3000 8, .ofInt 1000 9, .ofInt 2000 7]⟩

/-- A sibling of the new field is missing before and after, and under the two paths that are there each key has
the points of its own series. -/
theorem lookup_insert_freeMemory :
    let grown := cpuOnly.insert ⟨"metrics", "mem", "free"⟩ freeMemory
    cpuOnly.lookup ⟨"metrics", "mem", "used"⟩ .all [] none = .error (.noMeasurement "metrics" "mem") ∧
      (∃ later, grown.lookup ⟨"metrics", "mem", "used"⟩ .all [] none = .error later ∧ later.isNotFound = true) ∧
      (∃ after, grown.lookup ⟨"metrics", "mem", "free"⟩ ⟨1000, 3000⟩ ["host=web1"] none = .ok after ∧
        after.entries = [("web1", [.ofInt 1000 9, .ofInt 2000 7])]) ∧
      grown.size = 2 := by
  have hsibling : cpuOnly.lookup ⟨"metrics", "mem", "used"⟩ .all [] none =
      .error (.noMeasurement "metrics" "mem") := by rfl
  have habsent : cpuOnly.lookup ⟨"metrics", "mem", "free"⟩ ⟨1000, 3000⟩ ["host=web1"] none =
      .error (.noMeasurement "metrics" "mem") := by rfl
  obtain ⟨hsize, htouches, -, -⟩ :=
    insert_adds_one_and_touchesOnly cpuOnly ⟨"metrics", "mem", "free"⟩ freeMemory
  refine ⟨hsibling, ?_, ?_, hsize⟩
  · exact htouches.notFound_elsewhere _ _ _ _ _ (by decide) hsibling rfl
  · exact htouches.notFound_here _ _ _ _ habsent rfl

end Store
end SeriesQuery
