import SeriesQuery.Unicode.Age
import SeriesQuery.Unicode.Boundary
import SeriesQuery.Unicode.CaseFolding
import SeriesQuery.Unicode.Category
import SeriesQuery.Unicode.Property
import SeriesQuery.Unicode.Script

/-! # Classes of characters

The sets of characters that a pattern can name, as ranges in normal form, so that two classes with
the same ranges are the same.
-/

namespace SeriesQuery.Pattern

open Unicode

/-- A set of characters. -/
abbrev CharClass := Ranges

namespace CharClass

def nothing : CharClass := []

def single (c : Char) : CharClass := [(c.toNat, c.toNat)]

def between (first last : Char) : CharClass := [(first.toNat, last.toNat)]

def anything : CharClass := [(0, 0x10FFFF)]

def negateIf (negated : Bool) (a : CharClass) : CharClass := if negated then a.compl else a

/-- The closure under case where `ignoreCase`. -/
def caselessIf (ignoreCase : Bool) (a : CharClass) : CharClass :=
  if ignoreCase then caseClosure a else a

def digit : CharClass := categoryRanges ["nd"]

def space : CharClass := propertyRanges "whitespace"

/-- The characters of words: letters, marks, decimal digits, connectors and joiners. -/
def word : CharClass :=
  alphabetic.union (categoryRanges ["mn", "mc", "me", "nd", "pc"] ++ listed "joinc")

def asciiDigit : CharClass := .ofText "30-39"
def asciiSpace : CharClass := .ofText "9-D 20"
def asciiWord : CharClass := .ofText "30-39 41-5A 5F 61-7A"

/-- The classes with a name between `[:` and `:]`; they hold ASCII characters only. -/
def posix? (name : List Char) : Option CharClass :=
  let table : List (String × String) := [
    ("alnum", "30-39 41-5A 61-7A"), ("alpha", "41-5A 61-7A"), ("ascii", "0-7F"), ("blank", "9 20"),
    ("cntrl", "0-1F 7F"), ("digit", "30-39"), ("graph", "21-7E"), ("lower", "61-7A"),
    ("print", "20-7E"), ("punct", "21-2F 3A-40 5B-60 7B-7E"), ("space", "9-D 20"),
    ("upper", "41-5A"), ("word", "30-39 41-5A 5F 61-7A"), ("xdigit", "30-39 41-46 61-66")]
  (table.find? fun e => e.1.toList == name).map fun e => Ranges.ofText e.2

/-- A name without an `is` that it begins with. -/
private def withoutIs? : List Char → Option (List Char)
  | first :: second :: rest =>
    if (first = 'i' ∨ first = 'I') ∧ (second = 's' ∨ second = 'S') then some rest else none
  | _ => none

/-- Names are compared without case, blanks, hyphens and underscores, and without an `is` that the
name as written begins with. The name `isc` is not taken for a `c`. -/
def looseName (name : List Char) : String :=
  let kept (name : List Char) : List Char :=
    (name.filter fun c => c ≠ ' ' ∧ c ≠ '-' ∧ c ≠ '_' ∧ c.toNat < 0x80).map Char.toLower
  match withoutIs? name with
  | some rest => if kept rest = ['c'] then "isc" else String.ofList (kept rest)
  | none => String.ofList (kept name)

/-- The class of a property name: a binary property, a general category or a script. -/
def named? (name : List Char) : Option CharClass :=
  let loose := looseName name
  (NamedRanges.lookup? properties loose).orElse fun _ =>
    (category? loose).orElse fun _ => script? loose

def valued? (name value : List Char) : Option CharClass :=
  let value := looseName value
  match looseName name with
  | "gc" | "generalcategory" => category? value
  | "sc" | "script" => script? value
  | "scx" | "scriptextensions" => scriptExtension? value
  | "age" => age? value
  | "gcb" | "graphemeclusterbreak" => NamedRanges.lookup? graphemeBreaks value
  | "wb" | "wordbreak" => NamedRanges.lookup? wordBreaks value
  | "sb" | "sentencebreak" => NamedRanges.lookup? sentenceBreaks value
  | _ => none

def isAscii (a : CharClass) : Bool := a.all fun r => decide (r.2 < 0x80)

end CharClass
end SeriesQuery.Pattern
