import SeriesQuery.Files.Host
import SeriesQuery.Settings.Parse
import SeriesQuery.Text.Quoted
import SeriesQuery.Text.Utf8

/-! # Loading settings

Settings come from the first of several files that exists and can be read. Files that exist but cannot be
read are remembered. Without any file the standard settings hold; in every case variables of the
environment go first.
-/

namespace SeriesQuery

/-- Why a settings file is refused. -/
inductive SettingsError where
  | unreadable (path : String) (cause : DeviceFault)
  | malformed (path : String)
deriving DecidableEq, Repr

def SettingsError.message : SettingsError → String
  | unreadable path cause =>
    "Failed to read config file " ++ Quoted.quote path ++ ": " ++ cause.message
  | malformed path => "Failed to parse config file " ++ Quoted.quote path ++ ": not a settings file"

/-- A file in which settings may be found. -/
structure SettingsFile where
  path : String
  state : FileState

/-- Settings with the file they come from, and why the files before it were not used. -/
structure LoadedSettings where
  settings : Settings
  origin : Option String
  skipped : List SettingsError

namespace SettingsFile

def load (e : Environment) (f : SettingsFile) : Except SettingsError Settings :=
  match f.state.contents with
  | .error cause => .error (.unreadable f.path cause)
  | .ok bytes =>
    match Utf8.decode bytes with
    | .error _ => .error (.unreadable f.path .notUtf8)
    | .ok text =>
      match Settings.parse? e text with
      | some s => .ok s
      | none => .error (.malformed f.path)

def loadOverridden (e : Environment) (f : SettingsFile) : Except SettingsError Settings :=
  (f.load e).map (Settings.override e)

end SettingsFile

namespace LoadedSettings

/-- The settings of the first file that exists and can be read. -/
def ofFirst (e : Environment) : List SettingsFile → LoadedSettings
  | [] => ⟨(Settings.standard e).override e, none, []⟩
  | f :: rest =>
    if f.state.found then
      match f.loadOverridden e with
      | .ok s => ⟨s, some f.path, []⟩
      | .error cause =>
        let later := ofFirst e rest
        { later with skipped := cause :: later.skipped }
    else ofFirst e rest

def searchPaths (e : Environment) : List String :=
  (e.settingsDirectory?.toList.map fun dir => Path.join (Path.join dir "chronicle") "query.toml") ++
    ["/etc/chronicle/query.toml", "./query.toml"]

def ofPaths {m : Type → Type} [Monad m] (host : Host m) (e : Environment) (paths : List String) :
    m LoadedSettings := do
  let files ← paths.mapM fun path => do return SettingsFile.mk path (← host.file path)
  return ofFirst e files

end LoadedSettings
end SeriesQuery
