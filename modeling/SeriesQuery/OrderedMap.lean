/-! # Maps in key order

A finite map kept as its entries in strictly ascending order of the keys, so that two maps with the
same entries are the same and listing one needs no sorting.
-/

namespace SeriesQuery

/-- A finite map, as its entries by ascending key. -/
structure OrderedMap (κ ν : Type) [Ord κ] where
  entries : List (κ × ν)
  ascending : entries.Pairwise fun a b => compare a.1 b.1 = .lt

namespace OrderedMap

variable {κ ν : Type} [Ord κ]

def empty : OrderedMap κ ν := ⟨[], .nil⟩

instance : Inhabited (OrderedMap κ ν) := ⟨empty⟩

def keys (m : OrderedMap κ ν) : List κ := m.entries.map Prod.fst

private def findEntry (key : κ) (es : List (κ × ν)) : Option ν :=
  (es.find? fun e => compare e.1 key == .eq).map Prod.snd

def find? (m : OrderedMap κ ν) (key : κ) : Option ν := findEntry key m.entries

/-- Sets the value of a key from its old value, keeping the order of the entries. -/
private def alterEntries (key : κ) (f : Option ν → ν) : List (κ × ν) → List (κ × ν)
  | [] => [(key, f none)]
  | (k, v) :: rest =>
    match compare key k with
    | .lt => (key, f none) :: (k, v) :: rest
    | .eq => (k, f (some v)) :: rest
    | .gt => (k, v) :: alterEntries key f rest

private theorem fst_mem_of_mem_alterEntries {key : κ} {f : Option ν → ν} {es : List (κ × ν)}
    {e : κ × ν} (h : e ∈ alterEntries key f es) : e.1 = key ∨ ∃ e' ∈ es, e'.1 = e.1 := by
  induction es with
  | nil => simp_all [alterEntries]
  | cons hd tl ih =>
    obtain ⟨k, v⟩ := hd
    simp only [alterEntries] at h
    split at h
    · rcases List.mem_cons.1 h with rfl | h
      · exact .inl rfl
      · exact .inr ⟨e, h, rfl⟩
    · rcases List.mem_cons.1 h with rfl | h
      · exact .inr ⟨(k, v), by simp, rfl⟩
      · exact .inr ⟨e, by simp [h], rfl⟩
    · rcases List.mem_cons.1 h with rfl | h
      · exact .inr ⟨(k, v), by simp, rfl⟩
      · rcases ih h with h | ⟨e', he', h⟩
        · exact .inl h
        · exact .inr ⟨e', by simp [he'], h⟩

private theorem pairwise_alterEntries [Std.TransOrd κ] [Std.LawfulEqOrd κ] (key : κ)
    (f : Option ν → ν) {es : List (κ × ν)} (h : es.Pairwise fun a b => compare a.1 b.1 = .lt) :
    (alterEntries key f es).Pairwise fun a b => compare a.1 b.1 = .lt := by
  induction es with
  | nil => simp [alterEntries]
  | cons hd tl ih =>
    obtain ⟨k, v⟩ := hd
    obtain ⟨hk, htl⟩ := List.pairwise_cons.1 h
    simp only [alterEntries]
    split
    · rename_i hlt
      refine List.pairwise_cons.2 ⟨fun e he => ?_, h⟩
      rcases List.mem_cons.1 he with rfl | he
      · exact hlt
      · exact Std.TransCmp.lt_trans hlt (hk e he)
    · exact List.pairwise_cons.2 ⟨hk, htl⟩
    · rename_i hgt
      refine List.pairwise_cons.2 ⟨fun e he => ?_, ih htl⟩
      rcases fst_mem_of_mem_alterEntries he with h | ⟨e', he', h⟩
      · rw [h]
        exact Std.OrientedCmp.lt_of_gt hgt
      · rw [← h]
        exact hk e' he'

private theorem findEntry_eq_none_of_lt [Std.TransOrd κ] {key : κ} {es : List (κ × ν)}
    (h : ∀ e ∈ es, compare key e.1 = .lt) : findEntry key es = none := by
  rw [findEntry, Option.map_eq_none_iff, List.find?_eq_none]
  intro e he
  simp [Std.OrientedCmp.gt_of_lt (h e he)]

private theorem findEntry_alterEntries_self [Std.TransOrd κ] [Std.LawfulEqOrd κ] (key : κ)
    (f : Option ν → ν) {es : List (κ × ν)} (h : es.Pairwise fun a b => compare a.1 b.1 = .lt) :
    findEntry key (alterEntries key f es) = some (f (findEntry key es)) := by
  induction es with
  | nil => simp [alterEntries, findEntry]
  | cons hd tl ih =>
    obtain ⟨k, v⟩ := hd
    obtain ⟨hlt, htl⟩ := List.pairwise_cons.1 h
    rw [alterEntries]
    split
    · rename_i hc
      have hnone : findEntry key ((k, v) :: tl) = none := by
        refine findEntry_eq_none_of_lt fun e he => ?_
        rcases List.mem_cons.1 he with rfl | he
        · exact hc
        · exact Std.TransCmp.lt_trans hc (hlt e he)
      rw [hnone]
      simp [findEntry]
    · rename_i hc
      obtain rfl := Std.LawfulEqOrd.eq_of_compare hc
      simp [findEntry]
    · rename_i hc
      have hne : (compare k key == .eq) = false := by
        simp [Std.OrientedCmp.lt_of_gt hc]
      have h1 := ih htl
      simp only [findEntry, List.find?_cons, hne] at h1 ⊢
      exact h1

private theorem findEntry_alterEntries_of_ne [Std.TransOrd κ] [Std.LawfulEqOrd κ] {key other : κ}
    (f : Option ν → ν) (es : List (κ × ν)) (h : key ≠ other) :
    findEntry other (alterEntries key f es) = findEntry other es := by
  have hne : (compare key other == .eq) = false := by simp [h]
  induction es with
  | nil => simp [alterEntries, findEntry, h]
  | cons hd tl ih =>
    obtain ⟨k, v⟩ := hd
    rw [alterEntries]
    split
    · simp [findEntry, List.find?_cons, hne]
    · rename_i hc
      obtain rfl := Std.LawfulEqOrd.eq_of_compare hc
      simp [findEntry, hne]
    · simp only [findEntry, List.find?_cons] at ih ⊢
      split
      · rfl
      · exact ih

def alter [Std.TransOrd κ] [Std.LawfulEqOrd κ] (m : OrderedMap κ ν) (key : κ) (f : Option ν → ν) :
    OrderedMap κ ν :=
  ⟨alterEntries key f m.entries, pairwise_alterEntries key f m.ascending⟩

/-- Sets the value of a key, replacing an old one. -/
def insert [Std.TransOrd κ] [Std.LawfulEqOrd κ] (m : OrderedMap κ ν) (key : κ) (value : ν) :
    OrderedMap κ ν :=
  m.alter key fun _ => value

/-- The map of a list of pairs; of two pairs with one key the later counts. -/
def ofList [Std.TransOrd κ] [Std.LawfulEqOrd κ] (pairs : List (κ × ν)) : OrderedMap κ ν :=
  pairs.foldl (fun m p => m.insert p.1 p.2) empty

def mapValues {μ : Type} (m : OrderedMap κ ν) (f : κ → ν → μ) : OrderedMap κ μ :=
  ⟨m.entries.map fun e => (e.1, f e.1 e.2), by
    rw [List.pairwise_map]
    exact m.ascending⟩

def filterKeys (m : OrderedMap κ ν) (keep : κ → Bool) : OrderedMap κ ν :=
  ⟨m.entries.filter fun e => keep e.1, m.ascending.filter _⟩

/-- New values for the same entries, where each may be refused; the first refusal counts. -/
private def tryEntries {ε μ : Type} (f : κ → ν → Except ε μ) :
    (es : List (κ × ν)) → Except ε { us : List (κ × μ) // us.map Prod.fst = es.map Prod.fst }
  | [] => .ok ⟨[], rfl⟩
  | (k, v) :: rest =>
    match f k v with
    | .error e => .error e
    | .ok u =>
      match tryEntries f rest with
      | .error e => .error e
      | .ok us => .ok ⟨(k, u) :: us.1, by simp [us.2]⟩

/-- The same keys with new values, where each may be refused; the first refusal counts. -/
def tryMapValues {ε μ : Type} (m : OrderedMap κ ν) (f : κ → ν → Except ε μ) :
    Except ε (OrderedMap κ μ) :=
  match tryEntries f m.entries with
  | .error e => .error e
  | .ok us => .ok ⟨us.1, by
      have keys : (us.1.map Prod.fst).Pairwise fun a b => compare a b = .lt := by
        rw [us.2, List.pairwise_map]
        exact m.ascending
      exact List.pairwise_map.1 keys⟩

omit [Ord κ] in
private theorem tryEntries_eq_ok {ε μ : Type} {f : κ → ν → Except ε μ} {g : κ → ν → μ}
    (h : ∀ k v, f k v = .ok (g k v)) (es : List (κ × ν)) :
    ∃ us, tryEntries f es = .ok us ∧ us.1 = es.map fun e => (e.1, g e.1 e.2) := by
  induction es with
  | nil => exact ⟨_, rfl, rfl⟩
  | cons e rest ih =>
    obtain ⟨us, hus, hrest⟩ := ih
    refine ⟨⟨(e.1, g e.1 e.2) :: us.1, by simp [us.2]⟩, ?_, by simp [hrest]⟩
    simp [tryEntries, h, hus]

omit [Ord κ] in
private theorem exists_of_mem_tryEntries {ε μ : Type} {f : κ → ν → Except ε μ} {es : List (κ × ν)}
    {us : { us : List (κ × μ) // us.map Prod.fst = es.map Prod.fst }} (h : tryEntries f es = .ok us)
    {u : κ × μ} (hu : u ∈ us.1) : ∃ v, (u.1, v) ∈ es ∧ f u.1 v = .ok u.2 := by
  induction es with
  | nil =>
    cases h
    cases hu
  | cons e rest ih =>
    simp only [tryEntries] at h
    split at h
    · cases h
    · rename_i value hvalue
      split at h
      · cases h
      · rename_i others hothers
        cases h
        rcases List.mem_cons.1 hu with rfl | hu
        · exact ⟨e.2, List.mem_cons_self, hvalue⟩
        · obtain ⟨v, hv, hf⟩ := ih hothers hu
          exact ⟨v, List.mem_cons_of_mem e hv, hf⟩

theorem find?_alter_self [Std.TransOrd κ] [Std.LawfulEqOrd κ] (m : OrderedMap κ ν) (key : κ)
    (f : Option ν → ν) : (m.alter key f).find? key = some (f (m.find? key)) :=
  findEntry_alterEntries_self key f m.ascending

theorem find?_alter_of_ne [Std.TransOrd κ] [Std.LawfulEqOrd κ] (m : OrderedMap κ ν) {key other : κ}
    (f : Option ν → ν) (h : key ≠ other) : (m.alter key f).find? other = m.find? other :=
  findEntry_alterEntries_of_ne f m.entries h

theorem find?_eq_some_iff [Std.TransOrd κ] [Std.LawfulEqOrd κ] {m : OrderedMap κ ν} {key : κ} {value : ν} :
    m.find? key = some value ↔ (key, value) ∈ m.entries := by
  obtain ⟨entries, ascending⟩ := m
  rw [find?, findEntry, Option.map_eq_some_iff]
  constructor
  · rintro ⟨e, he, rfl⟩
    have hkey : e.1 = key := by simpa using List.find?_some he
    exact hkey ▸ List.mem_of_find?_eq_some he
  · intro h
    refine ⟨(key, value), ?_, rfl⟩
    induction entries with
    | nil => cases h
    | cons e rest ih =>
      obtain ⟨hlt, hrest⟩ := List.pairwise_cons.1 ascending
      rcases List.mem_cons.1 h with rfl | h
      · simp
      · have hne : (compare e.1 key == .eq) = false := by simp [hlt _ h]
        rw [List.find?_cons, hne]
        exact ih hrest h

theorem find?_filterKeys [Std.TransOrd κ] [Std.LawfulEqOrd κ] (m : OrderedMap κ ν) (keep : κ → Bool)
    (key : κ) : (m.filterKeys keep).find? key = if keep key then m.find? key else none := by
  ext value
  rw [find?_eq_some_iff]
  by_cases h : keep key
  · simp [filterKeys, h, find?_eq_some_iff]
  · simp [filterKeys, h]

@[ext] theorem ext {m n : OrderedMap κ ν} (h : m.entries = n.entries) : m = n := by
  cases m; cases n; cases h; rfl

/-- Values that are never refused are simply computed. -/
theorem tryMapValues_eq_ok {ε μ : Type} (m : OrderedMap κ ν) {f : κ → ν → Except ε μ} {g : κ → ν → μ}
    (h : ∀ k v, f k v = .ok (g k v)) : m.tryMapValues f = .ok (m.mapValues g) := by
  obtain ⟨us, hus, hentries⟩ := tryEntries_eq_ok h m.entries
  simp only [tryMapValues, hus]
  exact congrArg Except.ok (ext hentries)

/-- Every new value was computed from an entry, and not refused. -/
theorem exists_of_mem_tryMapValues {ε μ : Type} {m : OrderedMap κ ν} {f : κ → ν → Except ε μ}
    {n : OrderedMap κ μ} (h : m.tryMapValues f = .ok n) {u : κ × μ} (hu : u ∈ n.entries) :
    ∃ v, (u.1, v) ∈ m.entries ∧ f u.1 v = .ok u.2 := by
  rw [tryMapValues] at h
  split at h
  · cases h
  · rename_i us hus
    cases h
    exact exists_of_mem_tryEntries hus hu

@[simp] theorem entries_mapValues {μ : Type} (m : OrderedMap κ ν) (f : κ → ν → μ) :
    (m.mapValues f).entries = m.entries.map fun e => (e.1, f e.1 e.2) := rfl

end OrderedMap
end SeriesQuery
