import SeriesQuery.Archive.File
import SeriesQuery.CommandLine.Invocation
import SeriesQuery.CommandLine.Listing
import SeriesQuery.CommandLine.Report
import SeriesQuery.Dashboard
import SeriesQuery.Execution
import SeriesQuery.Query.Document
import SeriesQuery.Settings.Load
import SeriesQuery.Settings.Template
import SeriesQuery.Store.Load

/-! # Running a command line

The settings are loaded, the log is opened and the command is performed. A command either fails with a
report, and then has written nothing, or succeeds with all of its output.
-/

namespace SeriesQuery

/-- What the program ends with. -/
structure Outcome where
  exit : UInt32
  output : String
  /-- What goes to the error output. -/
  report : String
deriving DecidableEq, Repr

namespace CommandLine

variable {m : Type → Type} [Monad m]

/-- A part of a run, which may fail. -/
abbrev Action (m : Type → Type) := ExceptT Report m

/-- Goes on with a result, or fails with the report of an error. -/
private def checked {ε α : Type} (report : ε → Report) : Except ε α → Action m α
  | .ok a => pure a
  | .error e => throw (report e)

private def queryReport (e : QueryError) : Report := ⟨e.message, e.causes⟩

private def executionReport (e : ExecutionError) : Report := ⟨e.message, e.causes⟩

def loadSettings (host : Host m) (e : Environment) : Option String → Action m Settings
  | some path => do
    let file := SettingsFile.mk path (← host.file path)
    checked (fun e => .ofMessage e.message) (file.loadOverridden e)
  | none => do
    let loaded ← ExceptT.lift (LoadedSettings.ofPaths host e (LoadedSettings.searchPaths e))
    return loaded.settings

def openLog (host : Host m) (s : LogSettings) : Action m Unit := do
  match s.file with
  | none => pure ()
  | some path =>
    checked (fun cause => ⟨"Failed to open log file " ++ path, [cause.message]⟩) (← host.openLog path)

def range (host : Host m) (r : RangeRequest) (lookback : Option String) : Action m TimeRange := do
  let now ← host.now
  checked (fun e => .ofMessage e.message) (r.resolve lookback now)

def store (host : Host m) (path : String) : Action m Store := do
  checked (fun e => ⟨"Failed to load data file " ++ Quoted.quote path, e.message :: e.causes⟩)
    (Store.ofContents (← host.file path).contents)

def render (format : OutputFormat) (series : List OutputSeries) : String :=
  match format with
  | .json => (OutputSeries.listDoc series).pretty ++ "\n"
  | .csv => OutputSeries.table series

private def answer (host : Host m) (s : Settings) (r : DataRequest) (lookback : Option String)
    (execute : Store → String → TimeRange → Bool → Except ExecutionError QueryOutput) :
    Action m String := do
  let range ← range host r.range lookback
  let store ← store host r.data
  let database := r.database.getD s.query.defaultDatabase
  let output ← checked executionReport
    (execute store database range (r.force || s.query.forceMaterialized))
  return render r.format output.series

private def text (host : Host m) (path : String) : Action m String := do
  let refused (cause : DeviceFault) : Report :=
    ⟨"Failed to read " ++ Quoted.quote path, [cause.message]⟩
  let bytes ← checked refused (← host.file path).contents
  checked (fun _ => refused .notUtf8) (Utf8.decode bytes)

/-- Writes the settings to start from to a file, in a directory that is made if need be. -/
private def writeTemplate (host : Host m) (path : String) : Action m String := do
  let report (cause : DeviceFault) : Report := .ofMessage cause.message
  match Path.parent? path with
  | some above => checked report (← host.makeDirectories above)
  | none => pure ()
  checked report (← host.write path (Utf8.encode Settings.template))
  return "Config written to " ++ Quoted.quote path ++ "\n"

def perform (host : Host m) (s : Settings) : Command → Action m String
  | .compile query => do
    let target ← checked queryReport (Query.compile query)
    return target.toDoc.pretty ++ "\n"
  | .run query request => do
    let target ← checked queryReport (Query.compile query)
    answer host s request target.lookback target.execute
  | .targets path request => do
    let body ← text host path
    let targets ← checked (fun e => .ofMessage e.message) (Dashboard.compile body)
    answer host s request none (Target.executeAll targets)
  | .functions => return Listing.stages
  | .archiveDump path => do
    let path := path.getD s.archive.path
    let records ← checked
      (fun e => ⟨"Failed to read archive " ++ Quoted.quote path, e.message :: e.causes⟩)
      (ArchiveFile.recordsOfContents (← host.file path).contents)
    return Listing.records records
  | .config none => return Settings.template
  | .config (some path) => writeTemplate host path

def invoke (host : Host m) (e : Environment) (i : Invocation) : Action m String := do
  let settings ← loadSettings host e i.settings
  openLog host settings.logging
  perform host settings i.command

def run (host : Host m) (e : Environment) (words : List String) : m Outcome := do
  match read words with
  | .error .help => return ⟨0, Listing.usage, ""⟩
  | .error .version => return ⟨0, Listing.version, ""⟩
  | .error .misuse => return ⟨2, "", Listing.usage⟩
  | .ok invocation =>
    match ← (invoke host e invocation).run with
    | .ok output => return ⟨0, output, ""⟩
    | .error report => return ⟨1, "", report.text⟩

end CommandLine
end SeriesQuery
