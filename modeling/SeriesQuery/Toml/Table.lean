import SeriesQuery.Toml.Value

/-! # Tables under construction

While a document is read, a table remembers how it came to be. A header may complete a table that only
deeper headers implied, but no table is defined twice; dotted keys extend only tables that dotted keys
made. Whatever was written as a value, inline tables and lists included, is closed.
-/

namespace SeriesQuery.Toml

/-- How a table came to be. -/
inductive Origin where
  /-- By a header of its own. -/
  | header
  /-- As a step on the way of a header. -/
  | implied
  /-- As a step on the way of a dotted key. -/
  | dotted
deriving DecidableEq, Repr

/-- What a key holds while the document is read. -/
inductive Item where
  | value (v : Value)
  | table (origin : Origin) (entries : List (String × Item))
  /-- A list of tables under one header; the last one is open. -/
  | tables (closed : List (List (String × Item))) (last : List (String × Item))

/-- Keys with what they hold. -/
abbrev Entries := List (String × Item)

namespace Entries

def replace (entries : Entries) (key : String) (item : Item) : Entries :=
  entries.map fun e => if e.1 == key then (key, item) else e

def addValue? (entries : Entries) (key : String) (v : Value) : Option Entries :=
  match find? key entries with
  | none => some (entries ++ [(key, .value v)])
  | some _ => none

def openTable? (entries : Entries) (key : String) : Option Entries :=
  match find? key entries with
  | none => some (entries ++ [(key, .table .header [])])
  | some (.table .implied inner) => some (entries.replace key (.table .header inner))
  | some _ => none

/-- Opens one more table of a list for its header. -/
def openListed? (entries : Entries) (key : String) : Option Entries :=
  match find? key entries with
  | none => some (entries ++ [(key, .tables [] [])])
  | some (.tables closed last) => some (entries.replace key (.tables (closed ++ [last]) []))
  | some _ => none

/-- Changes the entries that the path of a header leads to. Missing tables are made on the way, and of
a list of tables the last is meant. -/
def within? (entries : Entries) (change : Entries → Option Entries) : List String → Option Entries
  | [] => change entries
  | key :: path =>
    match find? key entries with
    | none => (within? [] change path).map fun inner => entries ++ [(key, .table .implied inner)]
    | some (.table origin inner) =>
      (within? inner change path).map fun inner => entries.replace key (.table origin inner)
    | some (.tables closed last) =>
      (within? last change path).map fun last => entries.replace key (.tables closed last)
    | some (.value _) => none

/-- Changes the entries that a dotted key leads to. The way may pass through implied tables, but not
through tables with a header, and it must end in a table of dotted keys. -/
def withinDotted? (entries : Entries) (change : Entries → Option Entries) :
    List String → Option Entries
  | [] => change entries
  | key :: path =>
    match find? key entries with
    | none => (withinDotted? [] change path).map fun inner => entries ++ [(key, .table .dotted inner)]
    | some (.table origin inner) =>
      if origin = .header ∨ (path = [] ∧ origin ≠ .dotted) then none
      else
        (withinDotted? inner change path).map fun inner => entries.replace key (.table origin inner)
    | some (.tables closed last) =>
      if path = [] then none
      else (withinDotted? last change path).map fun last => entries.replace key (.tables closed last)
    | some (.value _) => none

/-- Adds a value under a dotted key, given as its steps and its last part. -/
def addDotted? (entries : Entries) (path : List String) (key : String) (v : Value) : Option Entries :=
  entries.withinDotted? (fun es => es.addValue? key v) path

end Entries

mutual
def Item.toValue : Item → Value
  | .value v => v
  | .table _ entries => .table (finished entries)
  | .tables closed last => .list (finishedTables closed ++ [.table (finished last)])

def finished : List (String × Item) → List (String × Value)
  | [] => []
  | (key, item) :: rest => (key, item.toValue) :: finished rest

def finishedTables : List (List (String × Item)) → List Value
  | [] => []
  | entries :: rest => .table (finished entries) :: finishedTables rest
end

end SeriesQuery.Toml
