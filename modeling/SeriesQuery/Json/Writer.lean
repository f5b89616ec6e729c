/-! # Writing JSON

A document to be written, and its two layouts: without any blanks, and with one item or member a line,
indented by two blanks for each level.
-/

namespace SeriesQuery.Json

/-- A document to be written. -/
inductive Doc where
  /-- A number or word that is written as it stands. -/
  | plain (s : String)
  | text (s : String)
  | list (items : List Doc)
  | object (members : List (String × Doc))

def escapeChar (c : Char) : List Char :=
  if c = '"' then ['\\', '"']
  else if c = '\\' then ['\\', '\\']
  else if c = '\x08' then ['\\', 'b']
  else if c = '\x0c' then ['\\', 'f']
  else if c = '\n' then ['\\', 'n']
  else if c = '\r' then ['\\', 'r']
  else if c = '\t' then ['\\', 't']
  else if c.toNat < 0x20 then
    ['\\', 'u', '0', '0', Nat.digitChar (c.toNat / 16), Nat.digitChar (c.toNat % 16)]
  else [c]

def quoteText (s : String) : String := String.ofList ('"' :: s.toList.flatMap escapeChar ++ ['"'])

namespace Doc

/-- Written items between brackets, on one line. -/
def between (first last : String) (items : List String) : String :=
  first ++ String.intercalate "," items ++ last

mutual
def compact : Doc → String
  | plain s => s
  | text s => quoteText s
  | list items => between "[" "]" (compactItems items)
  | object members => between "\x7b" "\x7d" (compactMembers members)

def compactItems : List Doc → List String
  | [] => []
  | d :: rest => d.compact :: compactItems rest

def compactMembers : List (String × Doc) → List String
  | [] => []
  | (key, d) :: rest => (quoteText key ++ ":" ++ d.compact) :: compactMembers rest
end

def margin (level : Nat) : String := String.ofList (List.replicate (2 * level) ' ')

/-- Written items between brackets, one a line; nothing stays on one line. -/
def stacked (first last : String) (level : Nat) (items : List String) : String :=
  if items.isEmpty then first ++ last
  else
    first ++ "\n" ++ String.intercalate ",\n" (items.map fun s => margin (level + 1) ++ s) ++ "\n" ++
      margin level ++ last

mutual
/-- The layout with one item a line, from a level of indentation on. -/
def prettyAt (level : Nat) : Doc → String
  | plain s => s
  | text s => quoteText s
  | list items => stacked "[" "]" level (prettyItems (level + 1) items)
  | object members => stacked "\x7b" "\x7d" level (prettyMembers (level + 1) members)

def prettyItems (level : Nat) : List Doc → List String
  | [] => []
  | d :: rest => d.prettyAt level :: prettyItems level rest

def prettyMembers (level : Nat) : List (String × Doc) → List String
  | [] => []
  | (key, d) :: rest => (quoteText key ++ ": " ++ d.prettyAt level) :: prettyMembers level rest
end

def pretty (d : Doc) : String := d.prettyAt 0

end Doc
end SeriesQuery.Json
