import SeriesQuery.CommandLine.Given

/-! # Reading a command line

The words are read from left to right: options of the whole program, a command, and the options and the
operand of that command. The first word that does not fit, or asks for help, ends the reading.
-/

namespace SeriesQuery.CommandLine

/-- Why a command line leads to no command. -/
inductive Refusal where
  | help
  | version
  | misuse
deriving DecidableEq, Repr

/-- What was read so far. -/
inductive Progress where
  /-- No command yet. -/
  | front (given : Given)
  /-- A command, and the settings file that was named before it. -/
  | behind (outer : Option String) (command : CommandName) (given : Given)
  /-- The word that asks for help, and whether a topic followed it. -/
  | help (hasTopic : Bool)

/-- What the next word can be. -/
inductive Expectation where
  | anything
  | valueOf (name : OptionName)
  /-- Options have ended. -/
  | operand

/-- A reading on its way. -/
structure Reading where
  progress : Progress
  expectation : Expectation

namespace Reading

def start : Reading := ⟨.front .nothing, .anything⟩

/-- A reading goes on from what was given, unless that was refused. -/
private def going (progress : Given → Progress) (given : Option Given) : Except Refusal Reading :=
  match given with
  | some g => .ok ⟨progress g, .anything⟩
  | none => .error .misuse

def value (p : Progress) (name : OptionName) (text : String) : Except Refusal Reading :=
  match p with
  | .front g => going .front (g.set? name text)
  | .behind outer command g => going (.behind outer command) (g.set? name text)
  | .help _ => .error .misuse

def options : Progress → List OptionUse
  | .front _ => OptionUse.front
  | .behind _ command _ => OptionUse.behind command
  | .help _ => []

def option (p : Progress) (key : OptionKey) (attached : Option String) : Except Refusal Reading :=
  match (options p).find? fun u => u.isNamed key, key, attached with
  | some (.value name), _, some text => value p name text
  | some (.value name), _, none => .ok ⟨p, .valueOf name⟩
  | some _, .long _, some _ => .error .misuse
  | some .help, _, _ => .error .help
  | some .version, _, _ => .error .version
  | some .force, _, _ =>
    match p with
    | .behind outer command g => going (.behind outer command) g.setForce?
    | _ => .error .misuse
  | none, _, _ => .error .misuse

def command (g : Given) (text : String) : Except Refusal Reading :=
  if text = "help" then .ok ⟨.help false, .anything⟩
  else
    match CommandName.ofText? text with
    | some name => .ok ⟨.behind g.settings name .nothing, .anything⟩
    | none => .error .misuse

def topic (hasTopic : Bool) (text : String) : Except Refusal Reading :=
  if !hasTopic && (text == "help" || (CommandName.ofText? text).isSome) then .ok ⟨.help true, .anything⟩
  else .error .misuse

/-- Reads a word that can only be an operand. -/
def operand (p : Progress) (text : String) : Except Refusal Reading :=
  match p with
  | .behind outer command g =>
    match g.setOperand? command text with
    | some g => .ok ⟨.behind outer command g, .operand⟩
    | none => .error .misuse
  | _ => .error .misuse

def word (p : Progress) (text : String) : Except Refusal Reading :=
  match p, Word.ofText text with
  | .help hasTopic, _ => topic hasTopic text
  | _, .endOfOptions => .ok ⟨p, .operand⟩
  | _, .option key attached => option p key attached
  | .front g, .plain text => command g text
  | .behind outer name g, .plain text => going (.behind outer name) (g.setOperand? name text)

def step (r : Reading) (text : String) : Except Refusal Reading :=
  match r.expectation with
  | .anything => word r.progress text
  | .operand => operand r.progress text
  | .valueOf name =>
    match Word.ofText text with
    | .plain text => value r.progress name text
    | _ => .error .misuse

/-- The invocation at the end of the words. A settings file named behind the command goes before one named
in front of it. -/
def finish (r : Reading) : Except Refusal Invocation :=
  match r.progress, r.expectation with
  | .help _, _ => .error .help
  | .front _, _ | .behind _ _ _, .valueOf _ => .error .misuse
  | .behind outer name g, _ =>
    match g.command? name with
    | some command => .ok ⟨command, g.settings.orElse fun _ => outer⟩
    | none => .error .misuse

end Reading

def read (words : List String) : Except Refusal Invocation := do
  (← words.foldlM Reading.step .start).finish

end SeriesQuery.CommandLine
