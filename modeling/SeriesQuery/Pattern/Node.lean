import SeriesQuery.Pattern.Expr
import SeriesQuery.Pattern.Fault

/-! # What patterns mean

A pattern without flags and names: classes of characters and conditions on places, put together by
sequence, choice and repetition. Flags hold from where they stand to the end of their group, also
across bars. Laziness and groups make no difference to which texts a pattern matches; they are kept
because they make one to its size.
-/

namespace SeriesQuery.Pattern

/-- A condition on a place between two characters. -/
inductive Look where
  | textStart
  | textEnd
  | lineStart
  | lineEnd
  | lineStartCrlf
  | lineEndCrlf
  /-- An edge of a word, by the class of word characters. -/
  | word (edge : Edge) (ascii : Bool)
deriving DecidableEq, Repr

/-- A pattern ready to be matched. -/
inductive Node where
  | empty
  | set (c : CharClass)
  | look (l : Look)
  | seq (first second : Node)
  /-- A choice; several branches of one choice lean to the right. -/
  | alt (first second : Node)
  | many (body : Node) (least : Nat) (most : Option Nat) (isLazy : Bool)
  | group (capturing : Bool) (body : Node)

/-- The flags in force at a place of a pattern. -/
structure Flags where
  ignoreCase : Bool := false
  multiLine : Bool := false
  dotAll : Bool := false
  swapGreed : Bool := false
  unicode : Bool := true
  crlf : Bool := false

def Flags.apply (flags : Flags) (change : FlagChange) : Flags :=
  change.foldl (fun flags (flag, on) =>
    match flag with
    | .ignoreCase => { flags with ignoreCase := on }
    | .multiLine => { flags with multiLine := on }
    | .dotAll => { flags with dotAll := on }
    | .swapGreed => { flags with swapGreed := on }
    | .unicode => { flags with unicode := on }
    | .crlf => { flags with crlf := on }
    | .ignoreBlanks => flags) flags

/-- A class, refused when it leaves ASCII while Unicode is off. -/
private def withinMode (flags : Flags) (c : CharClass) : Except Fault CharClass :=
  if flags.unicode || c.isAscii then .ok c else .error .byteMode

private def shorthandClass (flags : Flags) (s : Shorthand) (negated : Bool) : Except Fault CharClass :=
  let c :=
    match s, flags.unicode with
    | .digit, true => CharClass.digit
    | .space, true => CharClass.space
    | .word, true => CharClass.word
    | .digit, false => CharClass.asciiDigit
    | .space, false => CharClass.asciiSpace
    | .word, false => CharClass.asciiWord
  withinMode flags (c.negateIf negated)

private def propertyClass (flags : Flags) (q : PropertyQuery) (negated : Bool) :
    Except Fault CharClass :=
  if flags.unicode then
    let found :=
      match q with
      | .name name => CharClass.named? name
      | .value name value => CharClass.valued? name value
    match found with
    | some c => .ok ((c.caselessIf flags.ignoreCase).negateIf negated)
    | none => .error .unknownProperty
  else .error .byteMode

/-- One character, with its case variants where case is ignored. Without Unicode only ASCII letters
have variants. -/
private def charClass (flags : Flags) (c : Char) : CharClass :=
  let single := CharClass.single c
  if !flags.ignoreCase then single
  else if flags.unicode then Unicode.caseClosure single
  else if c.toNat < 0x80 then (Unicode.caseClosure single).inter [(0, 0x7F)]
  else single

/-- A character of a class, or the last one of a range. Without Unicode it must be an ASCII one. -/
private def withinModeUpTo (flags : Flags) (last : Char) (c : CharClass) : Except Fault CharClass :=
  if flags.unicode || decide (last.toNat < 0x80) then .ok c else .error .byteMode

/-- Operands of a class lose their case, and keep within ASCII where Unicode is off. -/
private def fold (flags : Flags) (c : CharClass) : CharClass :=
  if !flags.ignoreCase then c
  else if flags.unicode then Unicode.caseClosure c
  else (Unicode.caseClosure c).inter [(0, 0x7F)]

mutual
def ClassExpr.toClass (flags : Flags) : ClassExpr → Except Fault CharClass
  | nothing => .ok CharClass.nothing
  | char c => withinModeUpTo flags c (CharClass.single c)
  | range first last => withinModeUpTo flags last (CharClass.between first last)
  | posix c negated => withinMode flags ((fold flags c).negateIf negated)
  | shorthand s negated => shorthandClass flags s negated
  | property q negated => propertyClass flags q negated
  | bracket negated body => do
    let c ← body.toClass flags
    withinMode flags ((fold flags c).negateIf negated)
  | union items => ClassExpr.toClasses flags items
  | combine op left right => do
    let a ← left.toClass flags
    let b ← right.toClass flags
    match op with
    | .intersection => .ok ((fold flags a).inter (fold flags b))
    | .difference => .ok ((fold flags a).diff (fold flags b))
    | .symmetricDifference => .ok ((fold flags a).symmDiff (fold flags b))

def ClassExpr.toClasses (flags : Flags) : List ClassExpr → Except Fault CharClass
  | [] => .ok CharClass.nothing
  | item :: rest => do
    let a ← item.toClass flags
    let b ← ClassExpr.toClasses flags rest
    .ok (a.union b)
end

private def placeLook (flags : Flags) : Place → Look
  | .lineStart =>
    if !flags.multiLine then .textStart else if flags.crlf then .lineStartCrlf else .lineStart
  | .lineEnd =>
    if !flags.multiLine then .textEnd else if flags.crlf then .lineEndCrlf else .lineEnd
  | .textStart => .textStart
  | .textEnd => .textEnd
  | .word edge => .word edge !flags.unicode

/-- The class of the dot: all characters or all but line ends. -/
private def dotClass (flags : Flags) : CharClass :=
  if flags.dotAll then CharClass.anything
  else if flags.crlf then Unicode.Ranges.compl [(0xA, 0xA), (0xD, 0xD)]
  else (CharClass.single '\n').compl

mutual
/-- The meaning of an expression where some flags are in force, and the flags in force after it. -/
def Expr.toNode (flags : Flags) : Expr → Except Fault (Node × Flags)
  | nothing => .ok (.empty, flags)
  | char c => .ok (.set (charClass flags c), flags)
  | byte c =>
    if flags.unicode || decide (c.toNat < 0x80) then .ok (.set (charClass flags c), flags)
    else .error .byteMode
  | dot => if flags.unicode then .ok (.set (dotClass flags), flags) else .error .byteMode
  | place p => .ok (.look (placeLook flags p), flags)
  | shorthand s negated => do .ok (.set (← shorthandClass flags s negated), flags)
  | property q negated => do .ok (.set (← propertyClass flags q negated), flags)
  | bracket negated body => do
    let c ← (ClassExpr.bracket negated body).toClass flags
    .ok (.set c, flags)
  | .flags change => .ok (.empty, flags.apply change)
  | repeated body least most isLazy => do
    let (n, after) ← body.toNode flags
    .ok (.many n least most (isLazy != after.swapGreed), after)
  | group capturing change body => do
    let (n, _) ← body.toNode (flags.apply change)
    .ok (.group capturing n, flags)
  | sequence items => Expr.toSequence flags items
  | choice branches => Expr.toChoice flags branches

def Expr.toSequence (flags : Flags) : List Expr → Except Fault (Node × Flags)
  | [] => .ok (.empty, flags)
  | item :: rest => do
    let (n, flags) ← item.toNode flags
    let (m, flags) ← Expr.toSequence flags rest
    .ok (.seq n m, flags)

def Expr.toChoice (flags : Flags) : List Expr → Except Fault (Node × Flags)
  | [] => .ok (.set CharClass.nothing, flags)
  | [item] => item.toNode flags
  | item :: rest => do
    let (n, flags) ← item.toNode flags
    let (m, flags) ← Expr.toChoice flags rest
    .ok (.alt n m, flags)
end

def Node.ofExpr (e : Expr) : Except Fault Node := do
  let (n, _) ← e.toNode {}
  .ok n

end SeriesQuery.Pattern
