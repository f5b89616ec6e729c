import SeriesQuery.Text.Pieces

/-! # Error reports

A report names what went wrong and below it the causes, outermost first. A single cause is indented;
several are also numbered. Further lines of a cause stand below its first one.
-/

namespace SeriesQuery

/-- What went wrong, and why. -/
structure Report where
  message : String
  causes : List String
deriving DecidableEq, Repr

namespace Report

def ofMessage (message : String) : Report := ⟨message, []⟩

/-- A text with something before its first line and something before every other one. -/
def indent (first further text : String) : String :=
  first ++ String.intercalate ("\n" ++ further) ((Text.pieces '\n' text.toList).map String.ofList)

private def blanks (n : Nat) : String := String.ofList (List.replicate n ' ')

/-- The mark of a numbered cause: its number, aligned to the right, and a colon. -/
private def mark (n : Nat) : String :=
  let digits := toString n
  blanks (5 - digits.length) ++ digits ++ ": "

def causeTexts : List String → List String
  | [cause] => [indent (blanks 4) (blanks 4) cause]
  | causes => causes.zipIdx.map fun (cause, n) => indent (mark n) (blanks 7) cause

def text (r : Report) : String :=
  "Error: " ++ r.message ++ "\n" ++
    if r.causes.isEmpty then ""
    else "\nCaused by:\n" ++ String.join ((causeTexts r.causes).map fun s => s ++ "\n")

end Report
end SeriesQuery
