/-! # Blanks, comments and line ends of TOML

Lines end with a line feed, alone or after a carriage return. Control characters other than the tab
appear nowhere.
-/

namespace SeriesQuery.Toml

def isBlank (c : Char) : Bool := c = ' ' || c = '\t'

/-- The characters that comments and strings may hold as they are. -/
def isPlain (c : Char) : Bool := c = '\t' || (decide (0x20 ≤ c.toNat) && decide (c.toNat ≠ 0x7F))

def skipBlanks (cs : List Char) : List Char := cs.dropWhile isBlank

/-- What follows a line end at the start of the characters. -/
def lineEnd? : List Char → Option (List Char)
  | '\n' :: rest => some rest
  | '\r' :: '\n' :: rest => some rest
  | _ => none

/-- What follows the rest of a line that holds nothing but blanks and a comment. -/
def restOfLine? (cs : List Char) : Option (List Char) :=
  let rest :=
    match skipBlanks cs with
    | '#' :: comment => comment.dropWhile isPlain
    | other => other
  match rest with
  | [] => some []
  | c :: after => lineEnd? (c :: after)

/-- What follows blanks and line ends. -/
def skipBlankLines : List Char → List Char
  | '\n' :: rest => skipBlankLines rest
  | '\r' :: '\n' :: rest => skipBlankLines rest
  | c :: rest => if isBlank c then skipBlankLines rest else c :: rest
  | [] => []

/-- What follows blanks, comments and line ends; `commented` within a comment. -/
def skipLines (commented : Bool) : List Char → List Char
  | '\n' :: rest => skipLines false rest
  | '\r' :: '\n' :: rest => skipLines false rest
  | c :: rest =>
    if isBlank c || (commented && isPlain c) then skipLines commented rest
    else if c = '#' then skipLines true rest
    else c :: rest
  | [] => []

end SeriesQuery.Toml
