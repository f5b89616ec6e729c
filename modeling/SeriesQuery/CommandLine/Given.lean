import SeriesQuery.CommandLine.Command
import SeriesQuery.CommandLine.Word
import SeriesQuery.Text.Integer

/-! # Options and operands

Every option may be given once. Paths must not be empty, numbers must fit 64 bits, and a format must be
one that is known. A range is given by both of its bounds, or by a duration without a start.
-/

namespace SeriesQuery.CommandLine

/-- The options that take a value. -/
inductive OptionName where
  | settings
  | data
  | database
  | start
  | stop
  | last
  | format
  | output
deriving DecidableEq, Repr

/-- What an option key can stand for. -/
inductive OptionUse where
  | value (name : OptionName)
  | force
  | help
  | version
deriving DecidableEq, Repr

namespace OptionUse

def long : OptionUse → String
  | value .settings => "config"
  | value .data => "data"
  | value .database => "db"
  | value .start => "start"
  | value .stop => "end"
  | value .last => "last"
  | value .format => "format"
  | value .output => "output"
  | force => "force-materialized"
  | help => "help"
  | version => "version"

def letter? : OptionUse → Option Char
  | value .settings => some 'c'
  | value .data => some 'd'
  | value .last => some 'l'
  | value .format => some 'f'
  | value .output => some 'o'
  | help => some 'h'
  | version => some 'V'
  | value .database | value .start | value .stop | force => none

def isNamed (u : OptionUse) : OptionKey → Bool
  | .long name => u.long == name
  | .letter c => u.letter? == some c

def front : List OptionUse := [value .settings, help, version]

def behind : CommandName → List OptionUse
  | .compile | .functions | .archiveDump => [value .settings, help]
  | .run | .targets =>
    [value .data, value .database, value .start, value .stop, value .last, value .format, force,
      value .settings, help]
  | .config => [value .output, value .settings, help]

end OptionUse

/-- What was given on one side of the command. -/
structure Given where
  settings : Option String
  data : Option String
  database : Option String
  start : Option Int64
  stop : Option Int64
  last : Option String
  format : Option OutputFormat
  output : Option String
  force : Bool
  operand : Option String

namespace Given

def nothing : Given := ⟨none, none, none, none, none, none, none, none, false, none⟩

private def path? (value : String) : Option String := if value.isEmpty then none else some value

private def int64? (value : String) : Option Int64 :=
  match Text.readInteger value.toList with
  | .ok n => some (.ofInt n)
  | .error _ => none

/-- A first value, which may be refused. A second one is refused always. -/
private def once {α : Type} (old new : Option α) : Option (Option α) :=
  if old.isSome then none else new.map some

def set? (g : Given) (name : OptionName) (value : String) : Option Given :=
  match name with
  | .settings => (once g.settings (path? value)).map fun v => { g with settings := v }
  | .data => (once g.data (path? value)).map fun v => { g with data := v }
  | .database => (once g.database (some value)).map fun v => { g with database := v }
  | .start => (once g.start (int64? value)).map fun v => { g with start := v }
  | .stop => (once g.stop (int64? value)).map fun v => { g with stop := v }
  | .last => (once g.last (some value)).map fun v => { g with last := v }
  | .format => (once g.format (OutputFormat.ofName? value)).map fun v => { g with format := v }
  | .output => (once g.output (path? value)).map fun v => { g with output := v }

def setForce? (g : Given) : Option Given := if g.force then none else some { g with force := true }

/-- With the operand of a command, if it takes one. -/
def setOperand? (g : Given) (command : CommandName) (value : String) : Option Given :=
  let new :=
    match command with
    | .compile | .run => some value
    | .targets | .archiveDump => path? value
    | .functions | .config => none
  (once g.operand new).map fun v => { g with operand := v }

/-- The range that is asked for. A start and an end need each other, and a start excludes a relative
range; next to a relative range, which takes the place of the start, an end makes no difference. -/
def range? (g : Given) : Option RangeRequest :=
  match g.start, g.stop, g.last with
  | some start, some stop, none => some ⟨some (start, stop), none⟩
  | none, _, some last => some ⟨none, some last⟩
  | none, none, none => some ⟨none, none⟩
  | _, _, _ => none

def dataRequest? (g : Given) : Option DataRequest := do
  let data ← g.data
  let range ← g.range?
  some ⟨data, g.database, range, g.format.getD .json, g.force⟩

/-- The command of a name; `none` if something is missing that it needs. -/
def command? (g : Given) : CommandName → Option Command
  | .compile => g.operand.map .compile
  | .run => do some (.run (← g.operand) (← g.dataRequest?))
  | .targets => do some (.targets (← g.operand) (← g.dataRequest?))
  | .functions => some .functions
  | .archiveDump => some (.archiveDump g.operand)
  | .config => some (.config g.output)

end Given
end SeriesQuery.CommandLine
