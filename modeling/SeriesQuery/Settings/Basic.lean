import SeriesQuery.Files.Path
import SeriesQuery.OrderedMap

/-! # Settings

What can be set for queries, archives and the log, what holds when nothing is set, and which variables of
the environment go before everything else.
-/

namespace SeriesQuery

/-- Settings for queries. -/
structure QuerySettings where
  /-- The database of queries that name none. -/
  defaultDatabase : String
  /-- Whether chains that could stream are materialized. -/
  forceMaterialized : Bool
deriving DecidableEq, Repr

/-- Settings for archives. -/
structure ArchiveSettings where
  directory : String
  fileName : String
deriving DecidableEq, Repr

/-- Settings for the log. -/
structure LogSettings where
  level : String
  format : String
  file : Option String
deriving DecidableEq, Repr

/-- All settings. -/
structure Settings where
  query : QuerySettings
  archive : ArchiveSettings
  logging : LogSettings
deriving DecidableEq, Repr

/-- The variables of the environment, of which one that is set to no text counts as not set, and the home
directory that the account has without them. -/
structure Environment where
  assigned : OrderedMap String String
  accountHome : Option String

namespace Environment

def names : List String := [
  "HOME", "XDG_CONFIG_HOME", "XDG_DATA_HOME", "CHRONICLE_QUERY_DB", "CHRONICLE_QUERY_FORCE_MATERIALIZED",
  "CHRONICLE_ARCHIVE_DIR", "CHRONICLE_LOG_LEVEL", "CHRONICLE_LOG_FORMAT"]

def find? (e : Environment) (name : String) : Option String := e.assigned.find? name

/-- The home directory. An empty variable counts as missing. -/
def home? (e : Environment) : Option String :=
  match e.find? "HOME" with
  | some path => if path.isEmpty then e.accountHome else some path
  | none => e.accountHome

/-- A directory that a variable names by an absolute path, or else one in the home directory. -/
def directory? (e : Environment) (name inHome : String) : Option String :=
  match (e.find? name).filter Path.isAbsolute with
  | some path => some path
  | none => e.home?.map fun home => Path.join home inHome

def dataDirectory? (e : Environment) : Option String := e.directory? "XDG_DATA_HOME" ".local/share"

def settingsDirectory? (e : Environment) : Option String := e.directory? "XDG_CONFIG_HOME" ".config"

end Environment

namespace QuerySettings

def standard : QuerySettings := ⟨"default", false⟩

def truth? : String → Option Bool
  | "true" => some true
  | "false" => some false
  | _ => none

/-- Variables go before other settings; one without a truth value where one is needed is passed over. -/
def override (e : Environment) (s : QuerySettings) : QuerySettings where
  defaultDatabase := (e.find? "CHRONICLE_QUERY_DB").getD s.defaultDatabase
  forceMaterialized :=
    ((e.find? "CHRONICLE_QUERY_FORCE_MATERIALIZED").bind truth?).getD s.forceMaterialized

end QuerySettings

namespace ArchiveSettings

/-- What holds when nothing is set: a directory among the data of the account. -/
def standard (e : Environment) : ArchiveSettings where
  directory :=
    match e.dataDirectory? with
    | some data => Path.join (Path.join data "chronicle") "archive"
    | none => "./chronicle_archive"
  fileName := "buckets.archive"

def override (e : Environment) (s : ArchiveSettings) : ArchiveSettings :=
  { s with directory := (e.find? "CHRONICLE_ARCHIVE_DIR").getD s.directory }

def path (s : ArchiveSettings) : String := Path.join s.directory s.fileName

end ArchiveSettings

namespace LogSettings

def standard : LogSettings := ⟨"info", "pretty", none⟩

def override (e : Environment) (s : LogSettings) : LogSettings where
  level := (e.find? "CHRONICLE_LOG_LEVEL").getD s.level
  format := (e.find? "CHRONICLE_LOG_FORMAT").getD s.format
  file := s.file

end LogSettings

namespace Settings

def standard (e : Environment) : Settings := ⟨.standard, .standard e, .standard⟩

def override (e : Environment) (s : Settings) : Settings :=
  ⟨s.query.override e, s.archive.override e, s.logging.override e⟩

end Settings
end SeriesQuery
