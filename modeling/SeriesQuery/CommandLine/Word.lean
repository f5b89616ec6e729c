/-! # Words of a command line

A word with two dashes in front names an option by its long name, a word with one dash by a letter, and
either may have a value attached. Two dashes alone end the options. Every other word, a single dash
included, stands for itself.
-/

namespace SeriesQuery.CommandLine

/-- How an option is named. -/
inductive OptionKey where
  | long (name : String)
  | letter (c : Char)
deriving DecidableEq, Repr

/-- What a word is. -/
inductive Word where
  | endOfOptions
  | option (key : OptionKey) (attached : Option String)
  | plain (text : String)
deriving DecidableEq, Repr

namespace Word

def valueOf : List Char → Option String
  | [] => none
  | _ :: value => some (String.ofList value)

/-- The value behind a letter, with or without an equals sign between them. -/
def valueBehind : List Char → Option String
  | [] => none
  | '=' :: value => some (String.ofList value)
  | value => some (String.ofList value)

def ofText (text : String) : Word :=
  match text.toList with
  | ['-', '-'] => endOfOptions
  | '-' :: '-' :: body =>
    option (.long (String.ofList (body.takeWhile (· ≠ '=')))) (valueOf (body.dropWhile (· ≠ '=')))
  | '-' :: c :: rest => option (.letter c) (valueBehind rest)
  | _ => plain text

end Word
end SeriesQuery.CommandLine
