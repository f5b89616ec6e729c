import SeriesQuery.Pattern.Expr
import SeriesQuery.Pattern.Fault
import SeriesQuery.Text.Pieces

/-! # Reading patterns

The grammar of patterns. Each reader takes the rest of the text and returns what it read with the
text after it. Where blanks are ignored, so are comments, and every reader skips both between its
characters. The two recursive readers are bounded by the length of the text.
-/

namespace SeriesQuery.Pattern

open Text

/-- What remains of a text when leading blanks and comments are skipped. -/
def skipIgnored (inComment : Bool) : List Char → List Char
  | [] => []
  | c :: rest =>
    if inComment then skipIgnored (c ≠ '\n') rest
    else if isBlank c then skipIgnored false rest
    else if c = '#' then skipIgnored true rest
    else c :: rest

def skip (ignoring : Bool) (text : List Char) : List Char :=
  if ignoring then skipIgnored false text else text

/-- The character after the current one. Where blanks are ignored they are passed over, and so is one
sign that begins a comment. -/
def peek? (ignoring : Bool) (after : List Char) : Option Char :=
  if ignoring then
    match after.dropWhile isBlank with
    | '#' :: rest => (rest.dropWhile isBlank).head?
    | rest => rest.head?
  else after.head?

def isHexDigit (c : Char) : Bool :=
  c.isDigit || decide ('a' ≤ c ∧ c ≤ 'f') || decide ('A' ≤ c ∧ c ≤ 'F')

def hexValue (digits : List Char) : Nat :=
  digits.foldl (fun n c =>
    16 * n + (if c.isDigit then c.toNat - 48 else if 'a' ≤ c then c.toNat - 87 else c.toNat - 55)) 0

def charOfHex (digits : List Char) : Except Fault Char :=
  let code := hexValue digits
  if code < 0xD800 ∨ (0xDFFF < code ∧ code ≤ 0x10FFFF) then .ok (Char.ofNat code) else .error .hexNumber

/-- Characters up to a closing brace, which is consumed. -/
def upToBrace (ignoring : Bool) : Nat → List Char → Option (List Char × List Char)
  | 0, _ => none
  | fuel + 1, text =>
    match skip ignoring text with
    | [] => none
    | '\x7d' :: rest => some ([], rest)
    | c :: rest => (upToBrace ignoring fuel rest).map fun (cs, after) => (c :: cs, after)

def hexDigits (ignoring : Bool) : Nat → List Char → Except Fault (List Char × List Char)
  | 0, text => .ok ([], text)
  | n + 1, text =>
    match skip ignoring text with
    | [] => .error .unfinishedEscape
    | c :: rest =>
      if isHexDigit c then do
        let (cs, after) ← hexDigits ignoring n rest
        .ok (c :: cs, after)
      else .error .hexNumber

def readHex (ignoring : Bool) (kind : Char) (text : List Char) :
    Except Fault (Expr × List Char) :=
  match skip ignoring text with
  | [] => .error .unfinishedEscape
  | '\x7b' :: rest =>
    match upToBrace ignoring (rest.length + 1) rest with
    | none => .error (if rest.all fun c => isHexDigit c then .unfinishedEscape else .hexNumber)
    | some (digits, after) =>
      if digits.isEmpty || !digits.all isHexDigit then .error .hexNumber
      else do
        let c ← charOfHex digits
        .ok (.char c, skip ignoring after)
  | text@(_ :: _) => do
    let (digits, after) ← hexDigits ignoring (if kind = 'x' then 2 else if kind = 'u' then 4 else 8) text
    let c ← charOfHex digits
    .ok (if kind = 'x' then .byte c else .char c, skip ignoring after)

/-- What a property's text in braces asks for, and whether it is negated by `!=`. -/
def propertyQuery (text : List Char) : PropertyQuery × Bool :=
  let rec unequal : List Char → Option (List Char × List Char)
    | '!' :: '=' :: rest => some ([], rest)
    | c :: rest => (unequal rest).map fun (before, after) => (c :: before, after)
    | [] => none
  match unequal text with
  | some (name, value) => (.value name value, true)
  | none =>
    match cutAt ':' text with
    | (name, some value) => (.value name value, false)
    | _ =>
      match cutAt '=' text with
      | (name, some value) => (.value name value, false)
      | _ => (.name text, false)

def readProperty (ignoring negated : Bool) (text : List Char) :
    Except Fault (Expr × List Char) :=
  match skip ignoring text with
  | [] => .error .unfinishedEscape
  | '\x7b' :: rest =>
    match upToBrace ignoring (rest.length + 1) rest with
    | none => .error .unfinishedEscape
    | some (name, after) =>
      let (query, unequal) := propertyQuery name
      .ok (.property query (negated != unequal), after)
  | '\\' :: _ => .error .unknownProperty
  | c :: rest => .ok (.property (.name [c]) negated, skip ignoring rest)

/-- A word boundary that may name its side in braces. -/
def readBoundary (ignoring : Bool) (text : List Char) : Except Fault (Expr × List Char) :=
  let named (c : Char) : Bool := c.isAlpha || c == '-'
  match text with
  | '\x7b' :: rest =>
    match skip ignoring rest with
    | [] => .error .wordBoundary
    | c :: _ =>
      if !named c then .ok (.place (.word .either), text)
      else
        match upToBrace ignoring (rest.length + 1) rest with
        | none => .error .wordBoundary
        | some (name, after) =>
          match String.ofList name with
          | "start" => .ok (.place (.word .start), after)
          | "end" => .ok (.place (.word .stop), after)
          | "start-half" => .ok (.place (.word .startHalf), after)
          | "end-half" => .ok (.place (.word .stopHalf), after)
          | _ => .error .wordBoundary
  | _ => .ok (.place (.word .either), text)

/-- ASCII characters that an escape takes as they are: all but letters, digits and angle brackets. -/
def isPlainEscape (c : Char) : Bool :=
  decide (c.toNat < 0x80) && !c.isAlphanum && c != '<' && c != '>'

def readEscape (ignoring : Bool) : List Char → Except Fault (Expr × List Char)
  | [] => .error .unfinishedEscape
  | c :: rest =>
    if c.isDigit then .error .backReference
    else if isPlainEscape c then .ok (.char c, rest)
    else
      match c with
      | 'x' | 'u' | 'U' => readHex ignoring c rest
      | 'p' => readProperty ignoring false rest
      | 'P' => readProperty ignoring true rest
      | 'd' => .ok (.shorthand .digit false, rest)
      | 'D' => .ok (.shorthand .digit true, rest)
      | 's' => .ok (.shorthand .space false, rest)
      | 'S' => .ok (.shorthand .space true, rest)
      | 'w' => .ok (.shorthand .word false, rest)
      | 'W' => .ok (.shorthand .word true, rest)
      | 'a' => .ok (.char '\x07', rest)
      | 'f' => .ok (.char '\x0c', rest)
      | 't' => .ok (.char '\t', rest)
      | 'n' => .ok (.char '\n', rest)
      | 'r' => .ok (.char '\r', rest)
      | 'v' => .ok (.char '\x0b', rest)
      | 'A' => .ok (.place .textStart, rest)
      | 'z' => .ok (.place .textEnd, rest)
      | 'b' => readBoundary ignoring rest
      | 'B' => .ok (.place (.word .neither), rest)
      | '<' => .ok (.place (.word .start), rest)
      | '>' => .ok (.place (.word .stop), rest)
      | _ => .error .unknownEscape

/-- One operand of a class: an escape, or a character as it is. -/
def readClassItem (ignoring : Bool) : List Char → Except Fault (Expr × List Char)
  | [] => .error .unclosedClass
  | '\\' :: rest => readEscape ignoring rest
  | c :: rest => .ok (.char c, rest)

def classItem : Expr → Except Fault ClassExpr
  | .char c | .byte c => .ok (.char c)
  | .shorthand s negated => .ok (.shorthand s negated)
  | .property q negated => .ok (.property q negated)
  | _ => .error .classEscape

def classBound : Expr → Except Fault Char
  | .char c | .byte c => .ok c
  | _ => .error .classRange

/-- An operand of a class or, with a hyphen inside, a range. -/
def readClassRange (ignoring : Bool) (text : List Char) :
    Except Fault (ClassExpr × List Char) := do
  let (first, after) ← readClassItem ignoring text
  match skip ignoring after with
  | [] => .error .unclosedClass
  | '-' :: rest =>
    let next := peek? ignoring rest
    if next = some ']' ∨ next = some '-' then
      let item ← classItem first
      .ok (item, '-' :: rest)
    else
      match skip ignoring rest with
      | [] => .error .unclosedClass
      | text@(_ :: _) =>
        let (last, after) ← readClassItem ignoring text
        let low ← classBound first
        let high ← classBound last
        if low ≤ high then .ok (.range low high, after) else .error .classRange
  | after =>
    let item ← classItem first
    .ok (item, after)

/-- A named class such as `[:alpha:]`, from behind its bracket; `none` when the text is none. -/
def readPosix? : List Char → Option (ClassExpr × List Char)
  | ':' :: rest =>
    let (negated, rest) := match rest with
      | '^' :: rest => (true, rest)
      | rest => (false, rest)
    let (name, after) := cutAt ':' rest
    match after with
    | some (']' :: after) => (CharClass.posix? name).map fun c => (.posix c negated, after)
    | _ => none
  | _ => none

/-- Leading hyphens of a class, which are taken as they are. -/
def leadingHyphens (ignoring : Bool) : Nat → List Char → Nat × List Char
  | 0, text => (0, text)
  | fuel + 1, text =>
    match text with
    | '-' :: rest =>
      let (n, after) := leadingHyphens ignoring fuel (skip ignoring rest)
      (n + 1, after)
    | _ => (0, text)

/-- The start of a class behind its bracket: a negation, then hyphens or a closing bracket that are
members. The members are in reverse order. -/
def openClass (ignoring : Bool) (text : List Char) : Bool × List ClassExpr × List Char :=
  let text := skip ignoring text
  let (negated, text) := match text with
    | '^' :: rest => (true, skip ignoring rest)
    | _ => (false, text)
  match leadingHyphens ignoring text.length text with
  | (0, ']' :: rest) => (negated, [.char ']'], skip ignoring rest)
  | (n, text) => (negated, List.replicate n (.char '-'), text)

def closeOperand (pending : Option (ClassOp × ClassExpr)) (items : List ClassExpr) : ClassExpr :=
  let operand := ClassExpr.ofUnion items.reverse
  match pending with
  | some (op, left) => .combine op left operand
  | none => operand

/-- The inside of a class up to and with its closing bracket. `items` are the members since the last
operator, latest first, and `pending` is that operator with all before it. -/
def readClass (ignoring : Bool) : Nat → Option (ClassOp × ClassExpr) → List ClassExpr → List Char →
    Except Fault (ClassExpr × List Char)
  | 0, _, _, _ => .error .unclosedClass
  | fuel + 1, pending, items, text =>
    match skip ignoring text with
    | [] => .error .unclosedClass
    | '[' :: rest =>
      match readPosix? rest with
      | some (item, after) => readClass ignoring fuel pending (item :: items) after
      | none => do
        let (negated, members, inside) := openClass ignoring rest
        let (body, after) ← readClass ignoring fuel none members inside
        readClass ignoring fuel pending (.bracket negated body :: items) after
    | ']' :: rest => .ok (closeOperand pending items, rest)
    | '&' :: '&' :: rest =>
      readClass ignoring fuel (some (.intersection, closeOperand pending items)) [] rest
    | '-' :: '-' :: rest =>
      readClass ignoring fuel (some (.difference, closeOperand pending items)) [] rest
    | '~' :: '~' :: rest =>
      readClass ignoring fuel (some (.symmetricDifference, closeOperand pending items)) [] rest
    | text => do
      let (item, after) ← readClassRange ignoring text
      readClass ignoring fuel pending (item :: items) after

def flag? : Char → Option Flag
  | 'i' => some .ignoreCase
  | 'm' => some .multiLine
  | 's' => some .dotAll
  | 'U' => some .swapGreed
  | 'u' => some .unicode
  | 'R' => some .crlf
  | 'x' => some .ignoreBlanks
  | _ => none

/-- Flags up to the colon or parenthesis that ends them. `on` tells whether a negation has been read,
and `dangling` whether it was the last character. -/
def readFlags (on dangling : Bool) (read : FlagChange) :
    List Char → Except Fault (FlagChange × Char × List Char)
  | [] => .error .unclosedFlags
  | c :: rest =>
    if c = ':' ∨ c = ')' then
      if dangling then .error .danglingNegation else .ok (read, c, rest)
    else if c = '-' then
      if on then
        if rest.isEmpty then .error .unclosedFlags else readFlags false true read rest
      else .error .repeatedFlag
    else
      match flag? c with
      | none => .error .unknownFlag
      | some f =>
        if read.any fun r => r.1 == f then .error .repeatedFlag
        else if rest.isEmpty then .error .unclosedFlags
        else readFlags on false (read ++ [(f, on)]) rest

def isNameStart (c : Char) : Bool :=
  c == '_' || c.isAlpha ||
    (decide (0x80 ≤ c.toNat) && Unicode.alphabetic.contains c)

def isNameRest (c : Char) : Bool :=
  isNameStart c || c.isDigit || c == '.' || c == '[' || c == ']' ||
    (decide (0x80 ≤ c.toNat) && (Unicode.categoryRanges ["nd", "nl", "no"]).contains c)

def readGroupName (names : List (List Char)) (text : List Char) :
    Except Fault (List Char × List Char) :=
  match cutAt '>' text with
  | (_, none) => .error .groupName
  | ([], some _) => .error .groupName
  | (first :: others, some after) =>
    if isNameStart first && others.all isNameRest then
      if names.contains (first :: others) then .error .repeatedGroupName
      else .ok (first :: others, after)
    else .error .groupName

/-- What an opening parenthesis begins. -/
inductive Opening where
  | flags (change : FlagChange)
  | group (capturing : Bool) (change : FlagChange) (names : List (List Char))

def readOpening (ignoring : Bool) (names : List (List Char)) (text : List Char) :
    Except Fault (Opening × List Char) :=
  match skip ignoring text with
  | '?' :: '=' :: _ | '?' :: '!' :: _ | '?' :: '<' :: '=' :: _ | '?' :: '<' :: '!' :: _ =>
    .error .lookAround
  | '?' :: 'P' :: '<' :: rest | '?' :: '<' :: rest => do
    let (name, after) ← readGroupName names rest
    .ok (.group true [] (name :: names), after)
  | '?' :: rest =>
    if rest.isEmpty then .error .unclosedGroup
    else do
      let (change, stop, after) ← readFlags true false [] rest
      if stop = ':' then .ok (.group false change names, after)
      else if change.isEmpty then .error .nothingToRepeat
      else .ok (.flags change, after)
  | text => .ok (.group true [] names, text)

def ignoringAfter (ignoring : Bool) (change : FlagChange) : Bool :=
  match change.find? fun c => c.1 == .ignoreBlanks with
  | some (_, on) => on
  | none => ignoring

/-- A number of decimal digits between blanks; `none` where there is no digit. -/
def readCount (ignoring : Bool) (text : List Char) :
    Except Fault (Option Nat × List Char) :=
  let text := text.dropWhile isBlank
  let rec digits : Nat → List Char → List Char × List Char
    | 0, text => ([], text)
    | fuel + 1, text =>
      match text with
      | c :: rest =>
        if c.isDigit then
          let (cs, after) := digits fuel (skip ignoring rest)
          (c :: cs, after)
        else ([], text)
      | [] => ([], [])
  let (read, after) := digits text.length text
  let after := skip ignoring (after.dropWhile isBlank)
  if read.isEmpty then .ok (none, after)
  else
    let n := read.foldl (fun n c => 10 * n + (c.toNat - 48)) 0
    if n < Nat.pow 2 32 then .ok (some n, after) else .error .countNumber

/-- The counts of a repetition, from behind the opening brace to behind the closing one. -/
def readCounts (ignoring : Bool) (text : List Char) :
    Except Fault (Nat × Option Nat × List Char) := do
  let text := skip ignoring text
  if text.isEmpty then .error .unclosedCount
  let (least, after) ← readCount ignoring text
  match after with
  | [] => .error .unclosedCount
  | ',' :: rest =>
    match skip ignoring rest with
    | [] => .error .unclosedCount
    | '\x7d' :: rest =>
      match least with
      | some n => .ok (n, none, rest)
      | none => .error .countNumber
    | rest =>
      let (most, after) ← readCount ignoring rest
      match least, most with
      | some n, some m =>
        match after with
        | '\x7d' :: rest => if n ≤ m then .ok (n, some m, rest) else .error .countOrder
        | _ => .error .unclosedCount
      | _, _ => .error .countNumber
  | '\x7d' :: rest =>
    match least with
    | some n => .ok (n, some n, rest)
    | none => .error .countNumber
  | _ =>
    match least with
    | some _ => .error .unclosedCount
    | none => .error .countNumber

/-- The expression that a repetition applies to, split off the ones before it. -/
def repeatedOperand : List Expr → Except Fault (Expr × List Expr)
  | [] => .error .nothingToRepeat
  | .flags _ :: _ => .error .nothingToRepeat
  | e :: before => .ok (e, before)

/-- Whether a repetition has the mark of a lazy one, and the text behind it. -/
def readLazyMark : List Char → Bool × List Char
  | '?' :: rest => (true, rest)
  | text => (false, text)

/-- A whole group or pattern up to, not with, the parenthesis that ends it. `items` are the
expressions since the last bar and `branches` those before it, latest first; `names` are the group
names in use. -/
def readExpr : Nat → Bool → List (List Char) → List Expr → List Expr → List Char →
    Except Fault (Expr × List (List Char) × List Char)
  | 0, _, _, _, _, _ => .error .unclosedGroup
  | fuel + 1, ignoring, names, branches, items, text =>
    match skip ignoring text with
    | [] => .ok (.ofChoice (Expr.ofSequence items.reverse :: branches).reverse, names, [])
    | ')' :: rest =>
      .ok (.ofChoice (Expr.ofSequence items.reverse :: branches).reverse, names, ')' :: rest)
    | '|' :: rest => readExpr fuel ignoring names (Expr.ofSequence items.reverse :: branches) [] rest
    | '(' :: rest => do
      match ← readOpening ignoring names rest with
      | (.flags change, after) =>
        readExpr fuel (ignoringAfter ignoring change) names branches (.flags change :: items) after
      | (.group capturing change names, inside) =>
        match ← readExpr fuel (ignoringAfter ignoring change) names [] [] inside with
        | (body, names, ')' :: after) =>
          readExpr fuel ignoring names branches (.group capturing change body :: items) after
        | _ => .error .unclosedGroup
    | '[' :: rest => do
      let (negated, members, inside) := openClass ignoring rest
      let (body, after) ← readClass ignoring (rest.length + 1) none members inside
      readExpr fuel ignoring names branches (.bracket negated body :: items) after
    | '?' :: rest => do
      let (e, before) ← repeatedOperand items
      let (isLazy, after) := readLazyMark rest
      readExpr fuel ignoring names branches (.repeated e 0 (some 1) isLazy :: before) after
    | '*' :: rest => do
      let (e, before) ← repeatedOperand items
      let (isLazy, after) := readLazyMark rest
      readExpr fuel ignoring names branches (.repeated e 0 none isLazy :: before) after
    | '+' :: rest => do
      let (e, before) ← repeatedOperand items
      let (isLazy, after) := readLazyMark rest
      readExpr fuel ignoring names branches (.repeated e 1 none isLazy :: before) after
    | '\x7b' :: rest => do
      let (e, before) ← repeatedOperand items
      let (least, most, after) ← readCounts ignoring rest
      let (isLazy, after) := readLazyMark (skip ignoring after)
      readExpr fuel ignoring names branches (.repeated e least most isLazy :: before) after
    | '\\' :: rest => do
      let (e, after) ← readEscape ignoring rest
      readExpr fuel ignoring names branches (e :: items) after
    | '.' :: rest => readExpr fuel ignoring names branches (.dot :: items) rest
    | '^' :: rest => readExpr fuel ignoring names branches (.place .lineStart :: items) rest
    | '$' :: rest => readExpr fuel ignoring names branches (.place .lineEnd :: items) rest
    | c :: rest => readExpr fuel ignoring names branches (.char c :: items) rest

/-- The number of nested constructs that a pattern may have. -/
def depthLimit : Nat := 250

def Expr.read (text : List Char) : Except Fault Expr := do
  match ← readExpr (text.length + 1) false [] [] [] text with
  | (e, _, []) => if e.depth ≤ depthLimit then .ok e else .error .tooDeep
  | _ => .error .unopenedGroup

end SeriesQuery.Pattern
