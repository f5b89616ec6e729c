/-! # Cutting texts into pieces

Texts are cut on single characters and on the two-character arrow `=>`. A text without a separator
is one piece, so there is always a first piece; joining the pieces gives the text back.
-/

namespace SeriesQuery.Text

/-- `head` put in front of the first piece. -/
def extendFirst (head : List Char) : List (List Char) → List (List Char)
  | [] => [head]
  | piece :: rest => (head ++ piece) :: rest

def pieces (separator : Char) : List Char → List (List Char)
  | [] => [[]]
  | c :: rest =>
    if c = separator then [] :: pieces separator rest
    else extendFirst [c] (pieces separator rest)

/-- The pieces between occurrences of `=>`, taken from the left. -/
def arrowPieces : List Char → List (List Char)
  | [] => [[]]
  | '=' :: '>' :: rest => [] :: arrowPieces rest
  | c :: rest => extendFirst [c] (arrowPieces rest)

def dropTrailingEmpty : List (List Char) → List (List Char)
  | [] => []
  | piece :: rest =>
    match piece, dropTrailingEmpty rest with
    | [], [] => []
    | _, kept => piece :: kept

/-- The first piece and, after it, the others without the empty ones at the end. -/
def firstAndRest : List (List Char) → List Char × List (List Char)
  | [] => ([], [])
  | piece :: rest => (piece, dropTrailingEmpty rest)

/-- The text before the first occurrence of a character and, if there is one, the text after it. -/
def cutAt (separator : Char) : List Char → List Char × Option (List Char)
  | [] => ([], none)
  | c :: rest =>
    if c = separator then ([], some rest)
    else
      let (before, after) := cutAt separator rest
      (c :: before, after)

theorem pieces_ne_nil (separator : Char) (text : List Char) : pieces separator text ≠ [] := by
  cases text with
  | nil => simp [pieces]
  | cons c rest =>
    by_cases h : c = separator
    · simp [pieces, h]
    · cases hp : pieces separator rest <;> simp [pieces, h, hp, extendFirst]

theorem pieces_of_not_mem {separator : Char} {text : List Char} (h : separator ∉ text) :
    pieces separator text = [text] := by
  induction text with
  | nil => rfl
  | cons c rest ih =>
    have hc : c ≠ separator := fun e => h (by simp [e])
    have hr : separator ∉ rest := fun e => h (by simp [e])
    simp [pieces, hc, ih hr, extendFirst]

theorem intercalate_extendFirst (separator head : List Char) (ps : List (List Char)) (h : ps ≠ []) :
    separator.intercalate (extendFirst head ps) = head ++ separator.intercalate ps := by
  cases ps with
  | nil => exact absurd rfl h
  | cons p rest => cases rest <;> simp [extendFirst, List.intercalate]

theorem arrowPieces_ne_nil (text : List Char) : arrowPieces text ≠ [] := by
  fun_induction arrowPieces text with
  | case1 => simp
  | case2 => simp
  | case3 c rest _ ih => cases hp : arrowPieces rest <;> simp [extendFirst]

/-- Joining the pieces with arrows gives the text back. -/
theorem intercalate_arrowPieces (text : List Char) :
    ['=', '>'].intercalate (arrowPieces text) = text := by
  fun_induction arrowPieces text with
  | case1 => rfl
  | case2 rest ih =>
    cases hp : arrowPieces rest with
    | nil => exact absurd hp (arrowPieces_ne_nil rest)
    | cons p ps =>
      rw [hp] at ih
      simp [List.intercalate] at ih ⊢
      exact ih
  | case3 c rest _ ih => simp [intercalate_extendFirst _ _ _ (arrowPieces_ne_nil rest), ih]

theorem cutAt_append {separator : Char} {before : List Char} (h : separator ∉ before)
    (after : List Char) : cutAt separator (before ++ separator :: after) = (before, some after) := by
  induction before with
  | nil => simp [cutAt]
  | cons c rest ih =>
    have hc : c ≠ separator := fun e => h (by simp [e])
    have hr : separator ∉ rest := fun e => h (by simp [e])
    simp [cutAt, hc, ih hr]

theorem cutAt_of_not_mem {separator : Char} {text : List Char} (h : separator ∉ text) :
    cutAt separator text = (text, none) := by
  induction text with
  | nil => rfl
  | cons c rest ih =>
    have hc : c ≠ separator := fun e => h (by simp [e])
    have hr : separator ∉ rest := fun e => h (by simp [e])
    simp [cutAt, hc, ih hr]

/-- White space, as Unicode defines it. -/
def isBlank (c : Char) : Bool :=
  decide (c.toNat ∈ [0x9, 0xA, 0xB, 0xC, 0xD, 0x20, 0x85, 0xA0, 0x1680, 0x2000, 0x2001, 0x2002, 0x2003,
    0x2004, 0x2005, 0x2006, 0x2007, 0x2008, 0x2009, 0x200A, 0x2028, 0x2029, 0x202F, 0x205F, 0x3000])

def trim (text : List Char) : List Char :=
  ((text.dropWhile isBlank).reverse.dropWhile isBlank).reverse

def padRight (width : Nat) (text : String) : String :=
  text ++ String.ofList (List.replicate (width - text.length) ' ')

end SeriesQuery.Text
