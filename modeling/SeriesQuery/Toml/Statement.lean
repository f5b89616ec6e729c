import SeriesQuery.Toml.DateTime
import SeriesQuery.Toml.Number
import SeriesQuery.Toml.Table
import SeriesQuery.Toml.Text

/-! # TOML statements

A document is a row of statements: a header that opens a table, a header that opens one more table of a
list, or a key with its value. Keys may be dotted. A value ends where no character can continue it, so
every value without brackets or quotes is one word.
-/

namespace SeriesQuery.Toml

/-- The steps of a dotted key and its last part. -/
structure Key where
  path : List String
  last : String
deriving DecidableEq, Repr

def Key.parts (k : Key) : List String := k.path ++ [k.last]

/-- A statement of a document. -/
inductive Statement where
  | openTable (key : Key)
  | openListed (key : Key)
  | pair (key : Key) (v : Value)

/-- The number at which parts of a key, and lists and tables within one another, are too many. -/
def nestingLimit : Nat := 80

def isBareKeyChar (c : Char) : Bool := c.isAlphanum || c = '_' || c = '-'

def readKeyPart? (cs : List Char) : Option (String × List Char) :=
  match readQuoted? cs with
  | some (s, rest) => some (String.ofList s, rest)
  | none =>
    let bare := cs.takeWhile isBareKeyChar
    if bare.isEmpty then none else some (String.ofList bare, cs.dropWhile isBareKeyChar)

/-- The parts of a key with blanks around each; `fuel` bounds their number. -/
private def readKeyParts : Nat → List Char → Option (List String × List Char)
  | 0, _ => none
  | fuel + 1, cs => do
    let (part, rest) ← readKeyPart? (skipBlanks cs)
    match skipBlanks rest with
    | '.' :: rest =>
      let (parts, rest) ← readKeyParts fuel rest
      some (part :: parts, rest)
    | rest => some ([part], rest)

def readKey? (cs : List Char) : Option (Key × List Char) := do
  let (parts, rest) ← readKeyParts (nestingLimit - 1) cs
  let last ← parts.getLast?
  some (⟨parts.dropLast, last⟩, rest)

def inWord (c : Char) : Bool :=
  !(isBlank c || c = '\n' || c = '\r' || c = '#' || c = ',' || c = ']' || c = '\x7d')

/-- A value without brackets or quotes. A blank instead of a letter may stand between a date and a
time. -/
def readWord? (cs : List Char) : Option (Value × List Char) :=
  let word := cs.takeWhile inWord
  let rest := cs.dropWhile inWord
  if isDate word then
    let time := (rest.drop 1).takeWhile inWord
    if rest.head? = some ' ' ∧ time.head?.any Char.isDigit then
      if isOffsetTime time then
        some (.dateTime (String.ofList (word ++ ' ' :: time)), (rest.drop 1).dropWhile inWord)
      else none
    else some (.dateTime (String.ofList word), rest)
  else if isTime word ∨ isDateTime word then some (.dateTime (String.ofList word), rest)
  else
    match truth? word, integer? word, float? word with
    | some b, _, _ => some (.bool b, rest)
    | _, some n, _ => some (.integer n, rest)
    | _, _, some d => some (.float d, rest)
    | none, none, none => none

mutual
/-- A value within so many lists and tables; `fuel` bounds the steps. -/
private def readValue : Nat → Nat → List Char → Option (Value × List Char)
  | 0, _, _ => none
  | fuel + 1, depth, cs =>
    match cs with
    | '"' :: _ | '\'' :: _ => (readString? cs).map fun (s, rest) => (.text (String.ofList s), rest)
    | '[' :: rest =>
      if depth + 1 < nestingLimit then
        (readItems fuel (depth + 1) rest).map fun (vs, rest) => (.list vs, rest)
      else none
    | '\x7b' :: rest =>
      if depth + 1 < nestingLimit then
        match skipBlanks rest with
        | '\x7d' :: rest => some (.table [], rest)
        | rest => (readPairs fuel (depth + 1) [] rest).map fun (es, rest) => (.table (finished es), rest)
      else none
    | _ => readWord? cs

private def readItems : Nat → Nat → List Char → Option (List Value × List Char)
  | 0, _, _ => none
  | fuel + 1, depth, cs =>
    match skipLines false cs with
    | ']' :: rest => some ([], rest)
    | cs => do
      let (v, rest) ← readValue fuel depth cs
      match skipLines false rest with
      | ',' :: rest => do
        let (vs, rest) ← readItems fuel depth rest
        some (v :: vs, rest)
      | ']' :: rest => some ([v], rest)
      | _ => none

/-- The entries of a table on one line up to its brace, added to those read. -/
private def readPairs : Nat → Nat → Entries → List Char → Option (Entries × List Char)
  | 0, _, _, _ => none
  | fuel + 1, depth, read, cs => do
    let (key, rest) ← readKey? cs
    match rest with
    | '=' :: rest => do
      let (v, rest) ← readValue fuel depth (skipBlanks rest)
      let read ← read.addDotted? key.path key.last v
      match skipBlanks rest with
      | ',' :: rest => readPairs fuel depth read rest
      | '\x7d' :: rest => some (read, rest)
      | _ => none
    | _ => none
end

def readStatement? (cs : List Char) : Option (Statement × List Char) :=
  match cs with
  | '[' :: '[' :: rest =>
    match readKey? rest with
    | some (key, ']' :: ']' :: rest) => (restOfLine? rest).map fun rest => (.openListed key, rest)
    | _ => none
  | '[' :: rest =>
    match readKey? rest with
    | some (key, ']' :: rest) => (restOfLine? rest).map fun rest => (.openTable key, rest)
    | _ => none
  | _ =>
    match readKey? cs with
    | some (key, '=' :: rest) => do
      let (v, rest) ← readValue (2 * rest.length + 2) 0 (skipBlanks rest)
      let rest ← restOfLine? rest
      some (.pair key v, rest)
    | _ => none

/-- The statements of a text; `fuel` bounds their number. -/
private def readStatements : Nat → List Char → Option (List Statement)
  | 0, _ => none
  | fuel + 1, cs =>
    match skipLines false cs with
    | [] => some []
    | cs => do
      let (s, rest) ← readStatement? cs
      let others ← readStatements fuel rest
      some (s :: others)

/-- The statements of a text. A byte order mark in front makes no difference. -/
def Statement.listOf? (text : String) : Option (List Statement) :=
  let cs :=
    match text.toList with
    | '\uFEFF' :: rest => rest
    | cs => cs
  readStatements (cs.length + 1) cs

end SeriesQuery.Toml
