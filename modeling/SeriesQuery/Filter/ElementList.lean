import SeriesQuery.Predicate

/-! # Dashboard filter lists

Dashboards send a filter as a list of elements, each a tag text or a word for a combinator. A
combinator takes all that was built so far as its first child, and the tag texts after it become its
further children. A tag text right after another one is refused, and so is a combinator with nothing
before it.
-/

namespace SeriesQuery.Filter

/-- An element of a filter list. -/
structure Element where
  value : String
  /-- Whether the value is a word for a combinator and not a tag text. -/
  isCombinator : Bool
deriving DecidableEq, Repr

/-- Why a filter list is refused. -/
inductive ListFault where
  | nothingBefore
  | unknownWord (word : String)
  | adjacentValues
deriving DecidableEq, Repr

def ListFault.message : ListFault → String
  | nothingBefore => "combinator with no preceding filter"
  | unknownWord word => "unknown combinator '" ++ word ++ "'"
  | adjacentValues => "filter value must follow a combinator"

/-- A refused filter list: the index of the offending element and what is wrong there. -/
structure ListError where
  position : Nat
  fault : ListFault
deriving DecidableEq, Repr

def ListError.message (e : ListError) : String :=
  "Malformed structured filter at element " ++ toString e.position ++ ": " ++ e.fault.message

/-- A combinator over one first child, by its word in any case. -/
def combinator? (word : String) (child : Predicate String) : Option (Predicate String) :=
  let lower := word.toList.map Char.toLower
  if lower = ['a', 'n', 'd'] then some (.all [child])
  else if lower = ['o', 'r'] then some (.any [child])
  else none

def addElement (tree : Option (Predicate String)) (e : Element) :
    Except ListFault (Predicate String) :=
  if e.isCombinator then
    match tree with
    | none => .error .nothingBefore
    | some t =>
      match combinator? e.value t with
      | some node => .ok node
      | none => .error (.unknownWord e.value)
  else
    match tree with
    | none => .ok (.leaf e.value)
    | some t =>
      match t.addChild? (.leaf e.value) with
      | some node => .ok node
      | none => .error .adjacentValues

/-- The tree after further elements, the first of which has the index `position`. -/
def addElements (tree : Option (Predicate String)) (position : Nat) :
    List Element → Except ListError (Option (Predicate String))
  | [] => .ok tree
  | e :: rest =>
    match addElement tree e with
    | .ok t => addElements (some t) (position + 1) rest
    | .error fault => .error ⟨position, fault⟩

def listValues (elements : List Element) : List String :=
  (elements.filter fun e => !e.isCombinator).map Element.value

/-- The tree of a list; the empty list has none. -/
def ofElements (elements : List Element) : Except ListError (Option (Predicate String)) :=
  addElements none 0 elements

end SeriesQuery.Filter
