import SeriesQuery.Json.Number

/-! # JSON values

A JSON text as a tree. Numbers stay as written. A string may be no text, when its escapes or bytes
name no character: such a string is passed over where nothing reads it. Objects keep their members in
order, repetitions included.
-/

namespace SeriesQuery.Json

/-- A JSON value. -/
inductive Tree where
  | null
  | bool (b : Bool)
  | number (n : Number)
  | text (s : Option String)
  | list (items : List Tree)
  | object (members : List (Option String × Tree))

namespace Tree

mutual
def depth : Tree → Nat
  | null | bool _ | number _ | text _ => 0
  | list items => depthOfItems items + 1
  | object members => depthOfMembers members + 1

def depthOfItems : List Tree → Nat
  | [] => 0
  | t :: rest => max t.depth (depthOfItems rest)

def depthOfMembers : List (Option String × Tree) → Nat
  | [] => 0
  | (_, t) :: rest => max t.depth (depthOfMembers rest)
end

mutual
/-- Whether all strings are texts and all numbers have a value. -/
def isReadable : Tree → Bool
  | null | bool _ => true
  | number n => n.toValue?.isSome
  | text s => s.isSome
  | list items => itemsReadable items
  | object members => membersReadable members

def itemsReadable : List Tree → Bool
  | [] => true
  | t :: rest => t.isReadable && itemsReadable rest

def membersReadable : List (Option String × Tree) → Bool
  | [] => true
  | (key, t) :: rest => key.isSome && t.isReadable && membersReadable rest
end

def text? : Tree → Option String
  | text s => s
  | _ => none

def bool? : Tree → Option Bool
  | bool b => some b
  | _ => none

def int64? : Tree → Option Int64
  | number n => n.toInt64?
  | _ => none

def value? : Tree → Option Value
  | number n => n.toValue?
  | _ => none

def listOf? {α : Type} (read : Tree → Option α) : Tree → Option (List α)
  | list items => items.mapM read
  | _ => none

def membersOf? {α : Type} (read : Tree → Option α) : Tree → Option (List (String × α))
  | object members => members.mapM fun m =>
    match m.1, read m.2 with
    | some key, some a => some (key, a)
    | _, _ => none
  | _ => none

/-- A record with named fields, written as an object or, field after field, as a list. Unknown members
are passed over, a field given twice is refused, and a list may stop early but not go on. -/
def fields? (names : List String) : Tree → Option (List (Option Tree))
  | object members =>
    match members.mapM fun m => m.1.map fun key => (key, m.2) with
    | none => none
    | some members =>
      names.mapM fun name =>
        match members.filter fun m => m.1 == name with
        | [] => some none
        | [m] => some (some m.2)
        | _ => none
  | list items =>
    if items.length ≤ names.length then
      some (items.map some ++ List.replicate (names.length - items.length) none)
    else none
  | _ => none

def required? {α : Type} (read : Tree → Option α) (field : Option Tree) : Option α := field.bind read

def optional? {α : Type} (read : Tree → Option α) (default : α) : Option Tree → Option α
  | none => some default
  | some t => read t

end Tree
end SeriesQuery.Json
