import SeriesQuery.RangeRequest

/-! # Commands

What the program can be asked to do.
-/

namespace SeriesQuery

/-- How series are written. -/
inductive OutputFormat where
  | json
  | csv
deriving DecidableEq, Repr

/-- The format of a name, letter for letter. -/
def OutputFormat.ofName? : String → Option OutputFormat
  | "json" => some json
  | "csv" => some csv
  | _ => none

/-- Where the data of a query lie and how it is answered. -/
structure DataRequest where
  /-- The path of the data file. -/
  data : String
  database : Option String
  range : RangeRequest
  format : OutputFormat
  /-- Whether every chain is materialized. -/
  force : Bool
deriving DecidableEq, Repr

/-- What the program is asked to do. -/
inductive Command where
  | compile (query : String)
  | run (query : String) (request : DataRequest)
  | targets (path : String) (request : DataRequest)
  | functions
  | archiveDump (path : Option String)
  | config (output : Option String)
deriving DecidableEq, Repr

/-- A command with the settings file that was named for it. -/
structure Invocation where
  command : Command
  settings : Option String
deriving DecidableEq, Repr

/-- The names of commands. -/
inductive CommandName where
  | compile
  | run
  | targets
  | functions
  | archiveDump
  | config
deriving DecidableEq, Repr

namespace CommandName

def all : List CommandName := [compile, run, targets, functions, archiveDump, config]

def text : CommandName → String
  | compile => "compile"
  | run => "run"
  | targets => "targets"
  | functions => "functions"
  | archiveDump => "archive-dump"
  | config => "config"

def ofText? (s : String) : Option CommandName := all.find? fun c => c.text == s

def description : CommandName → String
  | compile => "Compile a query and print the target as JSON"
  | run => "Run a query against a data file"
  | targets => "Run a dashboard request body against a data file"
  | functions => "List registered stages"
  | archiveDump => "List the records of an archive file"
  | config => "Generate default config file"

end CommandName
end SeriesQuery
