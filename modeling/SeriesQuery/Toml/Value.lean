import SeriesQuery.Double.Rounding

/-! # TOML values

What a TOML document holds. Dates and times are checked when they are read and kept as written; a table
keeps its entries in order, with one entry for each key.
-/

namespace SeriesQuery.Toml

/-- A TOML value. -/
inductive Value where
  | text (s : String)
  | integer (n : Int64)
  | float (d : Double)
  | bool (b : Bool)
  | dateTime (written : String)
  | list (items : List Value)
  | table (entries : List (String × Value))

def find? {α : Type} (key : String) (entries : List (String × α)) : Option α :=
  (entries.find? fun e => e.1 == key).map Prod.snd

namespace Value

def text? : Value → Option String
  | text s => some s
  | _ => none

def bool? : Value → Option Bool
  | bool b => some b
  | _ => none

end Value
end SeriesQuery.Toml
