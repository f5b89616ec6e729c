import SeriesQuery.Proofs.Store.Lookup

/-! # Stores in levels

A store can also be kept in levels: a map of databases, which are maps of measurements, which are maps of fields,
which have their series in the order of their insertion. An insertion makes the levels that are missing, and a
lookup fails at the first level that is. Under one name of a level stands what the entries with this name would
make by themselves, so level by level the lookup finds what the list of the entries has.
-/

namespace SeriesQuery

namespace OrderedMap

variable {α κ μ : Type} [Ord κ] [Std.TransOrd κ] [Std.LawfulEqOrd κ]

/-- The elements of a list go one after the other into what their key has. -/
def nest (key : α → κ) (step : μ → α → μ) (start : μ) (l : List α) : OrderedMap κ μ :=
  l.foldl (fun m a => m.alter (key a) fun old => step (old.getD start) a) .empty

variable [DecidableEq κ] {key : α → κ} {step : μ → α → μ} {start : μ} {l : List α} {k : κ}

theorem find?_foldl_alter (m : OrderedMap κ μ) (l : List α) (k : κ) :
    (l.foldl (fun m a => m.alter (key a) fun old => step (old.getD start) a) m).find? k =
      if ∃ a ∈ l, key a = k then some ((l.filter fun a => key a = k).foldl step ((m.find? k).getD start))
      else m.find? k := by
  induction l generalizing m with
  | nil => simp
  | cons a l ih =>
    rw [List.foldl_cons, ih]
    by_cases ha : key a = k
    · subst ha
      by_cases hl : ∃ b ∈ l, key b = key a
      · simp [hl, find?_alter_self]
      · have hnone : (l.filter fun b => key b = key a) = [] :=
          List.filter_eq_nil_iff.2 fun b hb => by simpa using fun h => hl ⟨b, hb, h⟩
        simp [hl, hnone, find?_alter_self]
    · simp [ha, find?_alter_of_ne]

theorem find?_nest_of_mem (h : ∃ a ∈ l, key a = k) :
    (nest key step start l).find? k = some ((l.filter fun a => key a = k).foldl step start) := by
  rw [nest, find?_foldl_alter, if_pos h]
  rfl

theorem find?_nest_of_not_mem (h : ¬ ∃ a ∈ l, key a = k) : (nest key step start l).find? k = none := by
  rw [nest, find?_foldl_alter, if_neg h]
  rfl

/-- When the size of each part is the number of its elements, so is that of the whole. -/
theorem sum_size_nest (size : μ → Nat) (h : ∀ part : List α, size (part.foldl step start) = part.length) :
    ((nest key step start l).entries.map fun e => size e.2).sum = l.length := by
  have covered : ∀ a ∈ l, key a ∈ (nest key step start l).keys := fun a ha =>
    mem_keys_iff.2 ⟨_, find?_nest_of_mem ⟨a, ha, rfl⟩⟩
  have nodup : (nest key step start l).keys.Nodup := (ascending_keys _).imp ne_of_compare_eq_lt
  have hentries : (nest key step start l).entries =
      (nest key step start l).keys.map fun k => (k, (l.filter fun a => key a = k).foldl step start) := by
    apply entries_eq_map_keys
    intro k hk
    obtain ⟨value, hvalue⟩ := mem_keys_iff.1 hk
    by_cases hmem : ∃ a ∈ l, key a = k
    · exact find?_nest_of_mem hmem
    · cases hvalue.symm.trans (find?_nest_of_not_mem hmem)
  have hsum := sum_length_valuesOf key (fun a => [a]) nodup covered
  rw [hentries, List.map_map]
  simpa [valuesOf, Function.comp_def, h] using hsum

end OrderedMap

/-- Series by database, measurement and field. -/
abbrev Levels := OrderedMap String (OrderedMap String (OrderedMap String (List Series)))

namespace Levels

def putField (fields : OrderedMap String (List Series)) (e : FieldPath × Series) : OrderedMap String (List Series) :=
  fields.alter e.1.field fun old => old.getD [] ++ [e.2]

/-- Puts a series into its measurement, which is made when it is missing. -/
def putMeasurement (measurements : OrderedMap String (OrderedMap String (List Series)))
    (e : FieldPath × Series) : OrderedMap String (OrderedMap String (List Series)) :=
  measurements.alter e.1.measurement fun fields => putField (fields.getD .empty) e

/-- Puts a series into its database, which is made when it is missing. -/
def insert (l : Levels) (path : FieldPath) (series : Series) : Levels :=
  l.alter path.database fun measurements => putMeasurement (measurements.getD .empty) (path, series)

def fieldsSize (fields : OrderedMap String (List Series)) : Nat :=
  (fields.entries.map fun field => field.2.length).sum

def measurementsSize (measurements : OrderedMap String (OrderedMap String (List Series))) : Nat :=
  (measurements.entries.map fun measurement => fieldsSize measurement.2).sum

def size (l : Levels) : Nat := (l.entries.map fun database => measurementsSize database.2).sum

/-- The series of a path, or the first level that is missing. -/
def seriesAt (l : Levels) (path : FieldPath) : Except StoreError (List Series) :=
  match l.find? path.database with
  | none => .error (.noDatabase path.database)
  | some measurements =>
    match measurements.find? path.measurement with
    | none => .error (.noMeasurement path.database path.measurement)
    | some fields =>
      match fields.find? path.field with
      | none => .error (.noField path.measurement path.field)
      | some series => .ok series

def lookup (l : Levels) (path : FieldPath) (range : TimeRange) (tagList : List String)
    (filter : Option SeriesFilter) : Except StoreError (OrderedMap String (List Point)) :=
  if !range.isProper then .error .emptyRange
  else
    match l.seriesAt path with
    | .error e => .error e
    | .ok series => .ok ((series.filter (Store.selects filter tagList)).foldl (Store.collect range) .empty)

def ofStore (s : Store) : Levels := s.entries.foldl (fun l e => l.insert e.1 e.2) .empty

theorem ofStore_insert (s : Store) (path : FieldPath) (series : Series) :
    ofStore (s.insert path series) = (ofStore s).insert path series := by
  rw [ofStore, Store.insert, List.foldl_append]
  rfl

theorem foldl_append_series (part : List (FieldPath × Series)) (before : List Series) :
    part.foldl (fun old e => old ++ [e.2]) before = before ++ part.map Prod.snd := by
  induction part generalizing before with
  | nil => simp
  | cons e part ih => simp [ih]

theorem ofStore_eq_nest (s : Store) :
    ofStore s = .nest (fun e => e.1.database) putMeasurement .empty s.entries := rfl

theorem foldl_putMeasurement (part : List (FieldPath × Series)) :
    part.foldl putMeasurement .empty = .nest (fun e => e.1.measurement) putField .empty part := rfl

theorem foldl_putField (part : List (FieldPath × Series)) :
    part.foldl putField .empty = .nest (fun e => e.1.field) (fun old e => old ++ [e.2]) [] part := rfl

theorem size_ofStore (s : Store) : (ofStore s).size = s.size := by
  have hfield (part : List (FieldPath × Series)) :
      (part.foldl (fun old e => old ++ [e.2]) []).length = part.length := by
    rw [foldl_append_series, List.nil_append, List.length_map]
  have hfields (part : List (FieldPath × Series)) : fieldsSize (part.foldl putField .empty) = part.length := by
    rw [foldl_putField]
    exact OrderedMap.sum_size_nest List.length hfield
  have hmeasurements (part : List (FieldPath × Series)) :
      measurementsSize (part.foldl putMeasurement .empty) = part.length := by
    rw [foldl_putMeasurement]
    exact OrderedMap.sum_size_nest fieldsSize hfields
  rw [ofStore_eq_nest]
  exact OrderedMap.sum_size_nest measurementsSize hmeasurements

/-- The first level that is missing is the first part of the path that no entry has. -/
theorem seriesAt_ofStore_of_lacks {s : Store} {path : FieldPath} {cause : StoreError}
    (lacks : Store.Lacks s.entries path cause) : (ofStore s).seriesAt path = .error cause := by
  rw [seriesAt, ofStore_eq_nest]
  cases lacks with
  | database none => rw [OrderedMap.find?_nest_of_not_mem (by simpa using none)]
  | measurement some none =>
    rw [OrderedMap.find?_nest_of_mem some]
    simp only [foldl_putMeasurement]
    rw [OrderedMap.find?_nest_of_not_mem (by simpa using none)]
  | field some none =>
    obtain ⟨e, he, hdatabase, hmeasurement⟩ := some
    rw [OrderedMap.find?_nest_of_mem ⟨e, he, hdatabase⟩]
    simp only [foldl_putMeasurement]
    rw [OrderedMap.find?_nest_of_mem ⟨e, by simp [he, hdatabase], hmeasurement⟩]
    simp only [foldl_putField]
    rw [OrderedMap.find?_nest_of_not_mem]
    rintro ⟨d, hmem, hfield⟩
    simp only [List.mem_filter, decide_eq_true_eq] at hmem
    exact none d hmem.1.1 hmem.1.2 hmem.2 hfield

/-- The series under three names are those of the entries with these names. -/
theorem seriesAt_ofStore_of_mem {s : Store} {e : FieldPath × Series} (he : e ∈ s.entries) :
    (ofStore s).seriesAt e.1 = .ok (s.seriesAt e.1) := by
  rw [seriesAt, ofStore_eq_nest, OrderedMap.find?_nest_of_mem ⟨e, he, rfl⟩]
  simp only [foldl_putMeasurement]
  rw [OrderedMap.find?_nest_of_mem ⟨e, by simp [he], rfl⟩]
  simp only [foldl_putField]
  rw [OrderedMap.find?_nest_of_mem ⟨e, by simp [he], rfl⟩]
  simp only [foldl_append_series, List.nil_append, List.filter_filter, Store.seriesAt]
  congr 2
  apply List.filter_congr
  rintro ⟨⟨database, measurement, field⟩, series⟩ -
  obtain ⟨⟨database', measurement', field'⟩, series'⟩ := e
  rw [Bool.eq_iff_iff]
  simp only [Bool.and_eq_true, decide_eq_true_eq, FieldPath.mk.injEq]
  tauto

theorem seriesAt_ofStore (s : Store) (path : FieldPath) :
    (ofStore s).seriesAt path =
      match s.missing? path with
      | some cause => .error cause
      | none => .ok (s.seriesAt path) := by
  rcases s.missing?_cases path with ⟨cause, hmissing, lacks⟩ | ⟨hmissing, e, he, rfl⟩
  · rw [hmissing, seriesAt_ofStore_of_lacks lacks]
  · rw [hmissing, seriesAt_ofStore_of_mem he]

/-- A lookup by levels gives what a lookup in the list of entries gives. -/
theorem lookup_ofStore (s : Store) (path : FieldPath) (range : TimeRange) (tagList : List String)
    (filter : Option SeriesFilter) :
    (ofStore s).lookup path range tagList filter = s.lookup path range tagList filter := by
  rw [lookup, Store.lookup, seriesAt_ofStore]
  cases s.missing? path <;> rfl

end Levels
end SeriesQuery
