import SeriesQuery.Archive.Record
import SeriesQuery.CommandLine.Command
import SeriesQuery.Stage.Kind
import SeriesQuery.Text.Pieces

/-! # Lists for readers

The registered stages as a table with aligned columns, the records of an archive one a line, and how the
program is called.
-/

namespace SeriesQuery.Listing

open Text

/-- A line of the table of stages; its last column has no width. -/
def stageRow (names arguments mode description : String) : String :=
  padRight 28 names ++ " " ++ padRight 6 arguments ++ " " ++ padRight 13 mode ++ " " ++ description ++ "\n"

def stages : String :=
  stageRow "NAMES" "ARGS" "MODE" "DESCRIPTION" ++
    String.join (StageKind.all.map fun k =>
      stageRow (String.intercalate ", " k.names) (toString k.arity)
        (if k.isStreaming then "streaming" else "materialized") k.description)

private def recordLine (r : ArchiveRecord) : String :=
  r.database ++ "\t" ++ r.measurement ++ "\t" ++ r.seriesKey ++ "\tbucket=" ++ toString r.bucket.toInt ++
    "\t" ++ toString r.payload.length ++ " bytes\n"

/-- Records, one a line. -/
def records (rs : List ArchiveRecord) : String := String.join (rs.map recordLine)

def version : String := "chronicle-query 0.1.0\n"

def usage : String :=
  "Compile and run time-series queries\n\nUsage: chronicle-query [OPTIONS] <COMMAND>\n\nCommands:\n" ++
    String.join (CommandName.all.map fun c => "  " ++ padRight 14 c.text ++ c.description ++ "\n") ++
    "\nOptions:\n  -c, --config <FILE>  Config file\n  -h, --help           Print help\n" ++
    "  -V, --version        Print version\n"

end SeriesQuery.Listing
