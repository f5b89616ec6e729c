import SeriesQuery.Toml.Line

/-! # TOML strings

Strings between double quotes, with escapes, or single quotes, without; each quote three times lets a
string run over lines. A line end inside a string counts as a line feed.
-/

namespace SeriesQuery.Toml

def hexNumber? : Nat → Nat → List Char → Option (Nat × List Char)
  | 0, read, rest => some (read, rest)
  | _ + 1, _, [] => none
  | count + 1, read, c :: rest =>
    if c.isDigit then hexNumber? count (16 * read + (c.toNat - '0'.toNat)) rest
    else if 'a' ≤ c ∧ c ≤ 'f' then hexNumber? count (16 * read + (c.toNat - 'a'.toNat + 10)) rest
    else if 'A' ≤ c ∧ c ≤ 'F' then hexNumber? count (16 * read + (c.toNat - 'A'.toNat + 10)) rest
    else none

def numbered? (digits : Nat) (cs : List Char) : Option (Char × List Char) :=
  match hexNumber? digits 0 cs with
  | some (n, rest) => if n.isValidChar then some (Char.ofNat n, rest) else none
  | none => none

/-- The character that an escape stands for, from behind its backslash. -/
def escaped? : List Char → Option (Char × List Char)
  | 'b' :: rest => some ('\x08', rest)
  | 't' :: rest => some ('\t', rest)
  | 'n' :: rest => some ('\n', rest)
  | 'f' :: rest => some ('\x0c', rest)
  | 'r' :: rest => some ('\r', rest)
  | '"' :: rest => some ('"', rest)
  | '\\' :: rest => some ('\\', rest)
  | 'u' :: rest => numbered? 4 rest
  | 'U' :: rest => numbered? 8 rest
  | _ => none

private def prepend (c : Char) (read : List Char × List Char) : List Char × List Char :=
  (c :: read.1, read.2)

/-- The characters up to the closing quote; `fuel` bounds their number. -/
private def readBasic : Nat → List Char → Option (List Char × List Char)
  | 0, _ => none
  | fuel + 1, cs =>
    match cs with
    | [] => none
    | '"' :: rest => some ([], rest)
    | '\\' :: rest =>
      match escaped? rest with
      | some (c, rest) => (readBasic fuel rest).map (prepend c)
      | none => none
    | c :: rest => if isPlain c then (readBasic fuel rest).map (prepend c) else none

/-- The characters up to the closing single quote. -/
def readLiteral? : List Char → Option (List Char × List Char)
  | [] => none
  | '\'' :: rest => some ([], rest)
  | c :: rest => if isPlain c then (readLiteral? rest).map (prepend c) else none

/-- The end of a string that closes with three quotes: up to two more quotes before them belong to it. -/
private def closing? (quote : Char) (cs : List Char) : Option (List Char × List Char) :=
  let count := (cs.takeWhile (· = quote)).length
  if count < 3 then none
  else
    let own := min (count - 3) 2
    some (List.replicate own quote, cs.drop (own + 3))

/-- What follows a line end behind a backslash, with all blanks and line ends after it. -/
private def continued? (cs : List Char) : Option (List Char) :=
  (lineEnd? (skipBlanks cs)).map skipBlankLines

/-- The characters up to three closing quotes; `fuel` bounds their number. -/
private def readBasicLines : Nat → List Char → Option (List Char × List Char)
  | 0, _ => none
  | fuel + 1, cs =>
    match closing? '"' cs, lineEnd? cs, cs with
    | some end_, _, _ => some end_
    | none, some rest, _ => (readBasicLines fuel rest).map (prepend '\n')
    | none, none, '\\' :: rest =>
      match continued? rest, escaped? rest with
      | some rest, _ => readBasicLines fuel rest
      | none, some (c, rest) => (readBasicLines fuel rest).map (prepend c)
      | none, none => none
    | none, none, c :: rest =>
      if isPlain c then (readBasicLines fuel rest).map (prepend c) else none
    | none, none, [] => none

/-- The characters up to three closing single quotes; `fuel` bounds their number. -/
private def readLiteralLines : Nat → List Char → Option (List Char × List Char)
  | 0, _ => none
  | fuel + 1, cs =>
    match closing? '\'' cs, lineEnd? cs, cs with
    | some end_, _, _ => some end_
    | none, some rest, _ => (readLiteralLines fuel rest).map (prepend '\n')
    | none, none, c :: rest =>
      if isPlain c then (readLiteralLines fuel rest).map (prepend c) else none
    | none, none, [] => none

/-- What follows a line end right behind the opening quotes, which does not belong to the string. -/
private def dropLineEnd (cs : List Char) : List Char := (lineEnd? cs).getD cs

def readQuoted? : List Char → Option (List Char × List Char)
  | '"' :: rest => readBasic (rest.length + 1) rest
  | '\'' :: rest => readLiteral? rest
  | _ => none

def readString? : List Char → Option (List Char × List Char)
  | '"' :: '"' :: '"' :: rest => readBasicLines (rest.length + 1) (dropLineEnd rest)
  | '\'' :: '\'' :: '\'' :: rest => readLiteralLines (rest.length + 1) (dropLineEnd rest)
  | cs => readQuoted? cs

end SeriesQuery.Toml
