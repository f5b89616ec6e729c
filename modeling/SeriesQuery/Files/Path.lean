import SeriesQuery.Text.Pieces

/-! # File paths

Paths are texts with slashes between their parts. A path that starts with a slash is absolute; joined to
another path it replaces it.
-/

namespace SeriesQuery.Path

def isAbsolute (path : String) : Bool := path.toList.head? == some '/'

/-- The pieces between the slashes, empty ones included. -/
def pieces (path : String) : List String := (Text.pieces '/' path.toList).map String.ofList

def join (base part : String) : String :=
  if isAbsolute part then part
  else if base.isEmpty ∨ base.toList.getLast? = some '/' then base ++ part
  else base ++ "/" ++ part

/-- The parts of a path. Empty pieces count for nothing, and neither does a single dot unless it comes
first. -/
def parts (path : String) : List String :=
  match pieces path with
  | [] => []
  | first :: rest =>
    (if first.isEmpty then [] else [first]) ++ rest.filter fun s => decide (s ≠ "" ∧ s ≠ ".")

def ofParts (absolute : Bool) (parts : List String) : String :=
  (if absolute then "/" else "") ++ String.intercalate "/" parts

/-- The path without its last part; `none` where there is no part. -/
def parent? (path : String) : Option String :=
  let parts := parts path
  if parts.isEmpty then none else some (ofParts (isAbsolute path) parts.dropLast)

/-- The path and all paths above it, nearest first; the empty path is not one of them. -/
def lineage (path : String) : List String :=
  let parts := parts path
  path :: ((List.range parts.length).reverse.map fun n => ofParts (isAbsolute path) (parts.take n)).filter
    fun s => !s.isEmpty

end SeriesQuery.Path
