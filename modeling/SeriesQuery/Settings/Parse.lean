import SeriesQuery.Settings.Basic
import SeriesQuery.Toml.Document

/-! # Reading settings

A settings file is a TOML document with a section for queries, one for archives and one for the log.
Sections and fields may be missing, unknown ones are passed over, and a field of the wrong kind is
refused.
-/

namespace SeriesQuery.Settings

open Toml

/-- The fields of a section, each of which may be missing. A section may also be a list of its fields in
order, of which the first `needed` must be there, or a date, which has none of them. -/
def fields? (names : List String) (needed : Nat) : Toml.Value → Option (List (Option Toml.Value))
  | .table entries => some (names.map fun name => find? name entries)
  | .list items =>
    if items.length < needed then none
    else some ((List.range names.length).map fun i => items[i]?)
  | .dateTime _ => some (names.map fun _ => none)
  | _ => none

def field? {α : Type} (read : Toml.Value → Option α) (default : α) : Option Toml.Value → Option α
  | none => some default
  | some v => read v

private def query? (v : Toml.Value) : Option QuerySettings :=
  let standard := QuerySettings.standard
  match fields? ["default_db", "force_materialized"] 0 v with
  | some [database, force] => do
    let database ← field? Toml.Value.text? standard.defaultDatabase database
    let force ← field? Toml.Value.bool? standard.forceMaterialized force
    some ⟨database, force⟩
  | _ => none

private def archive? (e : Environment) (v : Toml.Value) : Option ArchiveSettings :=
  let standard := ArchiveSettings.standard e
  match fields? ["dir", "file_name"] 0 v with
  | some [directory, fileName] => do
    let directory ← field? Toml.Value.text? standard.directory directory
    let fileName ← field? Toml.Value.text? standard.fileName fileName
    some ⟨directory, fileName⟩
  | _ => none

/-- Reads the section for the log. The file has no standard, so a list must go on to it. -/
private def logging? (v : Toml.Value) : Option LogSettings :=
  let standard := LogSettings.standard
  match fields? ["level", "format", "file"] 3 v with
  | some [level, format, file] => do
    let level ← field? Toml.Value.text? standard.level level
    let format ← field? Toml.Value.text? standard.format format
    let file ← field? (fun v => v.text?.map some) standard.file file
    some ⟨level, format, file⟩
  | _ => none

/-- The settings of a text; what it leaves out is standard. -/
def parse? (e : Environment) (text : String) : Option Settings := do
  let entries ← Toml.parse? text
  let standard := Settings.standard e
  let query ← field? query? standard.query (find? "query" entries)
  let archive ← field? (archive? e) standard.archive (find? "archive" entries)
  let logging ← field? logging? standard.logging (find? "logging" entries)
  some ⟨query, archive, logging⟩

/-- Of the environment only the directory for data is looked at. -/
theorem parse?_congr {e e' : Environment} (h : e.dataDirectory? = e'.dataDirectory?) (text : String) :
    parse? e text = parse? e' text := by
  have hstandard : ArchiveSettings.standard e = ArchiveSettings.standard e' := by
    simp [ArchiveSettings.standard, h]
  have harchive : archive? e = archive? e' := by
    funext v
    simp [archive?, hstandard]
  simp [parse?, standard, hstandard, harchive]

end SeriesQuery.Settings
