import SeriesQuery.Settings.Load

/-! # Variables that go before settings

Each of five variables has a field of its own. Set to a value of this field, it decides the field; a text that
is no value of it counts for nothing, and every other field stays as it was. Neither what a file says nor what
is standard depends on these variables.
-/

namespace SeriesQuery

namespace Environment

/-- The variables that go before settings. -/
def overriding : List String := [
  "CHRONICLE_QUERY_DB", "CHRONICLE_QUERY_FORCE_MATERIALIZED", "CHRONICLE_ARCHIVE_DIR", "CHRONICLE_LOG_LEVEL",
  "CHRONICLE_LOG_FORMAT"]

def withoutOverriding (e : Environment) : Environment :=
  { e with assigned := e.assigned.filterKeys fun name => !overriding.contains name }

theorem find?_withoutOverriding (e : Environment) (name : String) :
    e.withoutOverriding.find? name = if name ∈ overriding then none else e.find? name := by
  simp [find?, withoutOverriding, OrderedMap.find?_filterKeys]

theorem dataDirectory?_withoutOverriding (e : Environment) :
    e.withoutOverriding.dataDirectory? = e.dataDirectory? := by
  have hdata : e.withoutOverriding.find? "XDG_DATA_HOME" = e.find? "XDG_DATA_HOME" := by
    simp [find?_withoutOverriding, overriding]
  have hhome : e.withoutOverriding.find? "HOME" = e.find? "HOME" := by
    simp [find?_withoutOverriding, overriding]
  have haccount : e.withoutOverriding.accountHome = e.accountHome := rfl
  simp only [dataDirectory?, directory?, home?, hdata, hhome, haccount]

/-- A variable that is set to a value of a field, as it is written, decides the field; else the field stays as
it was. -/
structure Decides {α : Type} (e : Environment) (name : String) (write : α → String) (before after : α) :
    Prop where
  set {v : α} (h : e.find? name = some (write v)) : after = v
  unset (h : ∀ v, e.find? name ≠ some (write v)) : after = before

section Decides

variable {α : Type} {e : Environment} {name : String} {write : α → String} {before after other : α}

theorem Decides.unique (h : e.Decides name write before after) (h' : e.Decides name write before other) :
    after = other := by
  by_cases hset : ∃ v, e.find? name = some (write v)
  · obtain ⟨v, hv⟩ := hset
    rw [h.set hv, h'.set hv]
  · have hunset : ∀ v, e.find? name ≠ some (write v) := fun v hv => hset ⟨v, hv⟩
    rw [h.unset hunset, h'.unset hunset]

/-- A variable decides through a reader of exactly the texts that values are written as. -/
theorem decides_getD {read : String → Option α} (hread : ∀ text v, read text = some v ↔ text = write v) :
    e.Decides name write before (((e.find? name).bind read).getD before) := by
  constructor
  case set =>
    intro v h
    simp [h, (hread (write v) v).2 rfl]
  case unset =>
    intro h
    have hnone : (e.find? name).bind read = none := by
      simp only [Option.eq_none_iff_forall_ne_some, ne_eq, Option.bind_eq_some_iff, hread]
      rintro v ⟨text, htext, rfl⟩
      exact h v htext
    rw [hnone, Option.getD_none]

theorem decides_text {before : String} : e.Decides name id before ((e.find? name).getD before) := by
  have h : e.Decides name id before (((e.find? name).bind some).getD before) :=
    decides_getD fun text v => by simp
  simpa using h

end Decides
end Environment

theorem QuerySettings.truth?_eq_some_iff {text : String} {b : Bool} :
    truth? text = some b ↔ text = toString b := by
  unfold truth?
  split <;> cases b <;> simp_all [toString]

namespace Settings

/-- Settings after the variables of the environment: five fields that a variable may decide, and two that stay. -/
structure IsOverridden (e : Environment) (base s : Settings) : Prop where
  database : e.Decides "CHRONICLE_QUERY_DB" id base.query.defaultDatabase s.query.defaultDatabase
  force : e.Decides "CHRONICLE_QUERY_FORCE_MATERIALIZED" toString base.query.forceMaterialized
    s.query.forceMaterialized
  directory : e.Decides "CHRONICLE_ARCHIVE_DIR" id base.archive.directory s.archive.directory
  fileName : s.archive.fileName = base.archive.fileName
  level : e.Decides "CHRONICLE_LOG_LEVEL" id base.logging.level s.logging.level
  format : e.Decides "CHRONICLE_LOG_FORMAT" id base.logging.format s.logging.format
  file : s.logging.file = base.logging.file

theorem isOverridden_override (e : Environment) (base : Settings) : base.IsOverridden e (base.override e) where
  database := Environment.decides_text
  force := Environment.decides_getD fun _ _ => QuerySettings.truth?_eq_some_iff
  directory := Environment.decides_text
  fileName := rfl
  level := Environment.decides_text
  format := Environment.decides_text
  file := rfl

/-- The environment leaves no choice. -/
theorem IsOverridden.unique {e : Environment} {base s other : Settings} (h : base.IsOverridden e s)
    (h' : base.IsOverridden e other) : s = other := by
  obtain ⟨⟨database, force⟩, ⟨directory, fileName⟩, ⟨level, format, file⟩⟩ := s
  obtain ⟨⟨database', force'⟩, ⟨directory', fileName'⟩, ⟨level', format', file'⟩⟩ := other
  obtain rfl : database = database' := h.database.unique h'.database
  obtain rfl : force = force' := h.force.unique h'.force
  obtain rfl : directory = directory' := h.directory.unique h'.directory
  obtain rfl : fileName = fileName' := h.fileName.trans h'.fileName.symm
  obtain rfl : level = level' := h.level.unique h'.level
  obtain rfl : format = format' := h.format.unique h'.format
  obtain rfl : file = file' := h.file.trans h'.file.symm
  rfl

theorem standard_withoutOverriding (e : Environment) : standard e.withoutOverriding = standard e := by
  simp [standard, ArchiveSettings.standard, Environment.dataDirectory?_withoutOverriding]

end Settings

theorem SettingsFile.load_withoutOverriding (e : Environment) (f : SettingsFile) :
    f.load e.withoutOverriding = f.load e := by
  simp only [load, Settings.parse?_congr (Environment.dataDirectory?_withoutOverriding e)]

end SeriesQuery
