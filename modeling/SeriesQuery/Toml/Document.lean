import SeriesQuery.Toml.Statement

/-! # TOML documents

The statements of a text put together. Each key with its value goes into the table of the header before
it; before the first header it goes into the outermost table.
-/

namespace SeriesQuery.Toml

/-- A document under construction, and the path of its open table. -/
structure Draft where
  entries : Entries
  opened : List String

namespace Draft

/-- The document after one more statement, which may be refused. -/
def add? (d : Draft) : Statement → Option Draft
  | .openTable key =>
    (d.entries.within? (fun es => es.openTable? key.last) key.path).map fun es => ⟨es, key.parts⟩
  | .openListed key =>
    (d.entries.within? (fun es => es.openListed? key.last) key.path).map fun es => ⟨es, key.parts⟩
  | .pair key v =>
    (d.entries.within? (fun es => es.addDotted? key.path key.last v) d.opened).map fun es =>
      ⟨es, d.opened⟩

def addAll? (d : Draft) : List Statement → Option Draft
  | [] => some d
  | s :: rest => (d.add? s).bind fun d => d.addAll? rest

end Draft

def parse? (text : String) : Option (List (String × Value)) := do
  let statements ← Statement.listOf? text
  let d ← Draft.addAll? ⟨[], []⟩ statements
  some (finished d.entries)

end SeriesQuery.Toml
