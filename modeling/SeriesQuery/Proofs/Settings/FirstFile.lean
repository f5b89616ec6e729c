import Mathlib.Data.List.Forall2
import SeriesQuery.Files.Tree
import SeriesQuery.Proofs.Settings.Overriding

/-! # Settings from the first file that can be read

Of several files the first that exists and can be read is used. Those before it that exist are refused, and their
causes are kept in order; files that do not exist leave no trace. Where no file can be read, the standard
settings hold. In both cases variables of the environment go before the settings, and nothing else is loaded.
-/

namespace SeriesQuery

/-- The files that exist are all refused, for these causes in order. -/
def SettingsFile.AllRefused (e : Environment) (files : List SettingsFile) (causes : List SettingsError) : Prop :=
  List.Forall₂ (fun f cause => f.load e = .error cause) (files.filter fun f => f.state.found) causes

instance (e : Environment) (files : List SettingsFile) (causes : List SettingsError) :
    Decidable (SettingsFile.AllRefused e files causes) :=
  inferInstanceAs (Decidable (List.Forall₂ _ _ _))

namespace LoadedSettings

/-- Settings from the first file that exists and can be read, or else standard ones, after the variables that go
before them. The variables play no part in what a file says or why it is refused. -/
inductive FromFirst (e : Environment) (files : List SettingsFile) : LoadedSettings → Prop where
  | file {before after : List SettingsFile} {f : SettingsFile} {base s : Settings} {skipped : List SettingsError}
      (split : files = before ++ f :: after) (refused : SettingsFile.AllRefused e.withoutOverriding before skipped)
      (found : f.state.found = true) (reads : f.load e.withoutOverriding = .ok base)
      (overridden : base.IsOverridden e s) : FromFirst e files ⟨s, some f.path, skipped⟩
  | standard {s : Settings} {skipped : List SettingsError}
      (refused : SettingsFile.AllRefused e.withoutOverriding files skipped)
      (overridden : (Settings.standard e.withoutOverriding).IsOverridden e s) : FromFirst e files ⟨s, none, skipped⟩

section Files

open SettingsFile (AllRefused)

variable {e : Environment} {f : SettingsFile} {files : List SettingsFile} {causes : List SettingsError}

theorem allRefused_withoutOverriding :
    AllRefused e.withoutOverriding files causes ↔ AllRefused e files causes := by
  simp only [AllRefused, SettingsFile.load_withoutOverriding]

theorem allRefused_nil : AllRefused e [] causes ↔ causes = [] := by
  simp [AllRefused]

theorem allRefused_cons_of_missing (h : f.state.found = false) :
    AllRefused e (f :: files) causes ↔ AllRefused e files causes := by
  simp [AllRefused, h]

theorem allRefused_cons_of_found (h : f.state.found = true) :
    AllRefused e (f :: files) causes ↔
      ∃ cause others, f.load e = .error cause ∧ AllRefused e files others ∧ causes = cause :: others := by
  simp [AllRefused, h, List.forall₂_cons_left_iff]

theorem ofFirst_cons_of_missing (h : f.state.found = false) : ofFirst e (f :: files) = ofFirst e files := by
  simp [ofFirst, h]

theorem ofFirst_cons_of_ok {base : Settings} (h : f.state.found = true) (hload : f.load e = .ok base) :
    ofFirst e (f :: files) = ⟨base.override e, some f.path, []⟩ := by
  simp [ofFirst, h, SettingsFile.loadOverridden, hload, Except.map]

theorem ofFirst_cons_of_error {cause : SettingsError} (h : f.state.found = true)
    (hload : f.load e = .error cause) : ofFirst e (f :: files) =
      { ofFirst e files with skipped := cause :: (ofFirst e files).skipped } := by
  simp [ofFirst, h, SettingsFile.loadOverridden, hload, Except.map]

/-- Refused files only leave their causes. -/
theorem ofFirst_append_of_allRefused {before : List SettingsFile} (h : AllRefused e before causes)
    (after : List SettingsFile) : ofFirst e (before ++ after) =
      { ofFirst e after with skipped := causes ++ (ofFirst e after).skipped } := by
  induction before generalizing causes with
  | nil =>
    obtain rfl := allRefused_nil.1 h
    rfl
  | cons f before ih =>
    cases hfound : f.state.found with
    | false =>
      rw [List.cons_append, ofFirst_cons_of_missing hfound]
      exact ih ((allRefused_cons_of_missing hfound).1 h)
    | true =>
      obtain ⟨cause, others, hload, hothers, rfl⟩ := (allRefused_cons_of_found hfound).1 h
      rw [List.cons_append, ofFirst_cons_of_error hfound hload, ih hothers]
      rfl

theorem allRefused_or_exists_first (e : Environment) (files : List SettingsFile) :
    (∃ causes, AllRefused e files causes) ∨
      ∃ before f after base causes, files = before ++ f :: after ∧ AllRefused e before causes ∧
        f.state.found = true ∧ f.load e = .ok base := by
  induction files with
  | nil => exact .inl ⟨[], allRefused_nil.2 rfl⟩
  | cons f files ih =>
    cases hfound : f.state.found with
    | false =>
      obtain ⟨causes, h⟩ | ⟨before, g, after, base, causes, rfl, h, hg⟩ := ih
      · exact .inl ⟨causes, (allRefused_cons_of_missing hfound).2 h⟩
      · exact .inr ⟨f :: before, g, after, base, causes, rfl, (allRefused_cons_of_missing hfound).2 h, hg⟩
    | true =>
      cases hload : f.load e with
      | ok base => exact .inr ⟨[], f, files, base, [], rfl, allRefused_nil.2 rfl, hfound, hload⟩
      | error cause =>
        have cons {files causes} (h : AllRefused e files causes) : AllRefused e (f :: files) (cause :: causes) :=
          (allRefused_cons_of_found hfound).2 ⟨cause, causes, hload, h, rfl⟩
        obtain ⟨causes, h⟩ | ⟨before, g, after, base, causes, rfl, h, hg⟩ := ih
        · exact .inl ⟨cause :: causes, cons h⟩
        · exact .inr ⟨f :: before, g, after, base, cause :: causes, rfl, cons h, hg⟩

theorem FromFirst.eq_ofFirst {loaded : LoadedSettings} (h : FromFirst e files loaded) :
    loaded = ofFirst e files := by
  cases h with
  | file split refused found reads overridden =>
    rw [allRefused_withoutOverriding] at refused
    rw [SettingsFile.load_withoutOverriding] at reads
    rw [split, ofFirst_append_of_allRefused refused, ofFirst_cons_of_ok found reads, List.append_nil,
      overridden.unique (Settings.isOverridden_override e _)]
  | standard refused overridden =>
    rw [allRefused_withoutOverriding] at refused
    rw [Settings.standard_withoutOverriding] at overridden
    rw [← List.append_nil files, ofFirst_append_of_allRefused refused, ofFirst, List.append_nil,
      overridden.unique (Settings.isOverridden_override e _)]

theorem exists_fromFirst (e : Environment) (files : List SettingsFile) : ∃ loaded, FromFirst e files loaded := by
  obtain ⟨causes, h⟩ | ⟨before, f, after, base, causes, hsplit, h, hfound, hload⟩ :=
    allRefused_or_exists_first e.withoutOverriding files
  · exact ⟨_, .standard h (Settings.isOverridden_override e _)⟩
  · exact ⟨_, .file hsplit h hfound hload (Settings.isOverridden_override e base)⟩

theorem fromFirst_iff {loaded : LoadedSettings} : FromFirst e files loaded ↔ loaded = ofFirst e files := by
  constructor
  · exact FromFirst.eq_ofFirst
  · rintro rfl
    obtain ⟨loaded, h⟩ := exists_fromFirst e files
    exact h.eq_ofFirst ▸ h

end Files

section Paths

variable {σ : Type} {host : Host (StateM σ)} {look : σ → String → FileState}

theorem run_bind_of_asks {α : Type} (asks : ∀ path world, (host.file path).run world = (look world path, world))
    (path : String) (next : FileState → StateM σ α) (world : σ) :
    (host.file path >>= next).run world = (next (look world path)).run world := by
  rw [StateT.run_bind, asks]
  rfl

theorem run_mapM_file (asks : ∀ path world, (host.file path).run world = (look world path, world))
    (paths : List String) (world : σ) :
    (paths.mapM fun path => do return SettingsFile.mk path (← host.file path)).run world =
      (paths.map fun path => ⟨path, look world path⟩, world) := by
  induction paths with
  | nil => rfl
  | cons path paths ih =>
    rw [List.mapM_cons, bind_assoc, run_bind_of_asks asks, pure_bind, StateT.run_bind, ih]
    rfl

theorem run_ofPaths (asks : ∀ path world, (host.file path).run world = (look world path, world))
    (e : Environment) (paths : List String) (world : σ) : (ofPaths host e paths).run world =
      (ofFirst e (paths.map fun path => ⟨path, look world path⟩), world) := by
  rw [ofPaths, StateT.run_bind, run_mapM_file asks]
  rfl

/-- Wherever asking for a file changes nothing, loading from several paths changes nothing either. It yields the
settings of the first of the files that exists and can be read, or else the standard ones, with the variables of the
environment before them in both cases, and nothing else. -/
theorem run_ofPaths_eq_iff_fromFirst
    (asks : ∀ path world, (host.file path).run world = (look world path, world)) (e : Environment)
    (paths : List String) (world after : σ) (loaded : LoadedSettings) :
    (ofPaths host e paths).run world = (loaded, after) ↔
      after = world ∧ FromFirst e (paths.map fun path => ⟨path, look world path⟩) loaded := by
  rw [run_ofPaths asks, fromFirst_iff]
  constructor
  · intro h
    cases h
    exact ⟨rfl, rfl⟩
  · rintro ⟨rfl, rfl⟩
    rfl

end Paths

/-- An empty name of a database, a text that is no truth value, and a level for the log. -/
def variedEnvironment : Environment where
  assigned := .ofList [
    ("HOME", "/home/user"), ("CHRONICLE_QUERY_DB", ""), ("CHRONICLE_QUERY_FORCE_MATERIALIZED", "TRUE"),
    ("CHRONICLE_LOG_LEVEL", "trace")]
  accountHome := none

/-- A directory, a file that is no text, one that is no document, and two with settings. -/
def variedTree : FileTree where
  nodes := .ofList [
    ("conf", .directory), ("latin.toml", .file [0xE9]), ("broken.toml", .file (Utf8.encode "[archive\n")),
    ("query.toml", .file (Utf8.encode "query = [\"metrics\", true]\nlogging.file = \"q.log\"\n")),
    ("later.toml", .file [])]

/-- Past a missing file and three that are refused, and with files that are missing or refused only. -/
theorem run_ofPaths_variedTree :
    (ofPaths (FileTree.host 0) variedEnvironment
        ["missing/query.toml", "conf", "latin.toml", "broken.toml", "query.toml", "later.toml"]).run variedTree =
      (⟨⟨⟨"", true⟩, ⟨"/home/user/.local/share/chronicle/archive", "buckets.archive"⟩,
          ⟨"trace", "pretty", some "q.log"⟩⟩, some "query.toml",
        [.unreadable "conf" .isDirectory, .unreadable "latin.toml" .notUtf8, .malformed "broken.toml"]⟩,
        variedTree) ∧
    (ofPaths (FileTree.host 0) variedEnvironment ["missing/query.toml", "broken.toml"]).run variedTree =
      (⟨⟨⟨"", false⟩, ⟨"/home/user/.local/share/chronicle/archive", "buckets.archive"⟩,
          ⟨"trace", "pretty", none⟩⟩, none, [.malformed "broken.toml"]⟩, variedTree) := by
  have asks (path : String) (tree : FileTree) : ((FileTree.host 0).file path).run tree = (tree.file path, tree) :=
    rfl
  have loads (paths : List String) (loaded : LoadedSettings) :=
    run_ofPaths_eq_iff_fromFirst asks variedEnvironment paths variedTree variedTree loaded
  have overridden {base s : Settings} (h : base.override variedEnvironment = s) :
      base.IsOverridden variedEnvironment s :=
    h ▸ Settings.isOverridden_override variedEnvironment base
  constructor
  · have refused : SettingsFile.AllRefused variedEnvironment.withoutOverriding
        (["missing/query.toml", "conf", "latin.toml", "broken.toml"].map fun path => ⟨path, variedTree.file path⟩)
        [.unreadable "conf" .isDirectory, .unreadable "latin.toml" .notUtf8, .malformed "broken.toml"] := by
      decide +kernel
    have reads : SettingsFile.load variedEnvironment.withoutOverriding ⟨"query.toml", variedTree.file "query.toml"⟩ =
        .ok ⟨⟨"metrics", true⟩, ⟨"/home/user/.local/share/chronicle/archive", "buckets.archive"⟩,
          ⟨"info", "pretty", some "q.log"⟩⟩ := by
      decide +kernel
    exact (loads _ _).2 ⟨rfl, .file rfl refused (by decide +kernel) reads (overridden (by decide +kernel))⟩
  · have refused : SettingsFile.AllRefused variedEnvironment.withoutOverriding
        (["missing/query.toml", "broken.toml"].map fun path => ⟨path, variedTree.file path⟩)
        [.malformed "broken.toml"] := by
      decide +kernel
    exact (loads _ _).2 ⟨rfl, .standard refused (overridden (by decide +kernel))⟩

end LoadedSettings
end SeriesQuery
