import SeriesQuery.Proofs.Pattern.LocalParts

/-! # The reader of expressions is local

An expression is read up to the parenthesis that ends it, which may as well be missing.
-/

namespace SeriesQuery.Pattern

open Text Leaves

variable {ignoring : Bool} {names : List (List Char)} {branches items : List Expr} {n m : Nat}

def readBracket (ignoring : Bool) (n : Nat) (t : List Char) : Except Fault ((Bool × ClassExpr) × List Char) :=
  readClass ignoring n none (openClass ignoring t).2.1 (openClass ignoring t).2.2 >>= fun b =>
    .ok (((openClass ignoring t).1, b.1), b.2)

theorem local_readBracket (ignoring : Bool) (n m : Nat) : Local m (readBracket ignoring n) (readBracket ignoring m) := by
  let inside (n : Nat) (b : Bool × List ClassExpr × List Char) : Except Fault ((Bool × ClassExpr) × List Char) :=
    readClass ignoring n none b.2.1 b.2.2 >>= fun c => .ok ((b.1, c.1), c.2)
  refine .comp (inside n) (inside m) (local_openClass m) fun b => ?_
  change Local m (fun r => readClass ignoring n none b.2.1 r >>= fun c => .ok ((b.1, c.1), c.2))
    (fun r => readClass ignoring m none b.2.1 r >>= fun c => .ok ((b.1, c.1), c.2))
  exact (local_readClass n m none b.2.1).andThen fun c => .pure (((b.1, c.1), []) : (Bool × ClassExpr) × List Char)

/-- The type of a reader of expressions, from the flag for blanks, the names in use and what is before. -/
abbrev Reading : Type :=
  Bool → List (List Char) → List Expr → List Expr → List Char → Except Fault (Expr × List (List Char) × List Char)

def afterOpening (read : Reading) (ignoring : Bool) (names : List (List Char)) (branches items : List Expr)
    (b : Opening × List Char) : Except Fault (Expr × List (List Char) × List Char) :=
  match b with
  | (.flags change, after) => read (ignoringAfter ignoring change) names branches (.flags change :: items) after
  | (.group capturing change names, inside) =>
    read (ignoringAfter ignoring change) names [] [] inside >>= fun
      | (body, names, ')' :: after) => read ignoring names branches (.group capturing change body :: items) after
      | _ => .error .unclosedGroup

/-- An expression from behind a repetition of an operand that has others before it. -/
def afterRepetition (read : Reading) (ignoring : Bool) (names : List (List Char)) (branches : List Expr)
    (operand : Expr × List Expr) (least : Nat) (most : Option Nat) (t : List Char) :
    Except Fault (Expr × List (List Char) × List Char) :=
  read ignoring names branches (.repeated operand.1 least most (readLazyMark t).1 :: operand.2) (readLazyMark t).2

section Steps

variable {f g : Reading}
  (h : ∀ ignoring names branches items, Local m (f ignoring names branches items) (g ignoring names branches items))

include h

theorem local_afterOpening (b : Opening × List Char) :
    Local m (fun r => afterOpening f ignoring names branches items (put b r))
      (fun r => afterOpening g ignoring names branches items (put b r)) := by
  rcases b with ⟨change | ⟨capturing, change, names⟩, t⟩
  · exact h (ignoringAfter ignoring change) names branches (.flags change :: items)
  · refine (h (ignoringAfter ignoring change) names [] []).andThen fun body => ?_
    refine .closing ')' (h ignoring body.2.1 branches (.group capturing change body.1 :: items)) (fun _ => rfl)
      (fun _ => rfl) fun t b ht hread => ?_
    dsimp only [put] at hread
    split at hread
    · rename_i heq
      cases heq
      exact absurd rfl (ht _)
    · cases hread

theorem local_afterRepetition (operand : Expr × List Expr) (least : Nat) (most : Option Nat) :
    Local m (afterRepetition f ignoring names branches operand least most)
      (afterRepetition g ignoring names branches operand least most) :=
  .comp (fun b => f ignoring names branches (.repeated operand.1 least most b.1 :: operand.2) b.2)
    (fun b => g ignoring names branches (.repeated operand.1 least most b.1 :: operand.2) b.2) (local_readLazyMark m)
    fun b => h ignoring names branches (.repeated operand.1 least most b.1 :: operand.2)

/-- An expression from behind the brace of counts. -/
theorem local_afterCounts (operand : Expr × List Expr) :
    Local m
      (fun t => readCounts ignoring t >>= fun c =>
        afterRepetition f ignoring names branches operand c.1 c.2.1 (skip ignoring c.2.2))
      (fun t => readCounts ignoring t >>= fun c =>
        afterRepetition g ignoring names branches operand c.1 c.2.1 (skip ignoring c.2.2)) :=
  (local_readCounts ignoring m).andThen fun c =>
    .comp (afterRepetition f ignoring names branches operand c.1 c.2.1)
      (afterRepetition g ignoring names branches operand c.1 c.2.1) (.skip ignoring)
      fun _ => local_afterRepetition h operand c.1 c.2.1

/-- An expression from behind the bracket of a class. -/
theorem local_afterBracket :
    Local m
      (fun t => readBracket ignoring (t.length + 1) t >>= fun b =>
        f ignoring names branches (.bracket b.1.1 b.1.2 :: items) b.2)
      (fun t => readBracket ignoring (t.length + 1) t >>= fun b =>
        g ignoring names branches (.bracket b.1.1 b.1.2 :: items) b.2) :=
  (LocalIf.bounded (local_readBracket ignoring) m).andThen fun b =>
    h ignoring names branches (.bracket b.1.1 b.1.2 :: items)

end Steps

theorem readExpr_char {c : Char} (hc : ∀ r, skip ignoring (c :: r) = c :: r)
    (h : c ∉ [')', '|', '(', '[', '?', '*', '+', '\x7b', '\\', '.', '^', '$']) (r : List Char) :
    readExpr (n + 1) ignoring names branches items (c :: r) =
      readExpr n ignoring names branches (.char c :: items) r := by
  rw [readExpr, hc]
  split
  case h_14 heq =>
    cases heq
    rfl
  case h_1 heq => cases heq
  all_goals
    rename_i heq
    cases heq
    exact absurd (by decide) h

theorem readExpr_bracket (r : List Char) :
    readExpr (n + 1) ignoring names branches items ('[' :: r) =
      readBracket ignoring (r.length + 1) r >>= fun b =>
        readExpr n ignoring names branches (.bracket b.1.1 b.1.2 :: items) b.2 := by
  have hc : skip ignoring ('[' :: r) = '[' :: r := by
    cases ignoring <;> rfl
  rw [readExpr, hc, readBracket]
  cases hread : readClass ignoring (r.length + 1) none (openClass ignoring r).2.1 (openClass ignoring r).2.2 with
  | error e =>
    simp only [hread]
    rfl
  | ok b =>
    simp only [hread]
    rfl

/-- Counts that nothing follows are refused. -/
theorem skip_ne_nil_of_readExpr {r : List Char} {b : Expr × List (List Char) × List Char}
    (h : readExpr n ignoring names branches items ('\x7b' :: r) = .ok b) : skip ignoring r ≠ [] := by
  cases n with
  | zero => cases h
  | succ n =>
    have hc : skip ignoring ('\x7b' :: r) = '\x7b' :: r := by
      cases ignoring <;> rfl
    intro hnil
    simp only [readExpr, hc] at h
    rcases Except.bind_eq_ok_iff.1 h with ⟨operand, -, h⟩
    rcases Except.bind_eq_ok_iff.1 h with ⟨c, hcounts, -⟩
    rw [readCounts, hnil] at hcounts
    cases hcounts

theorem local_readExpr (n m : Nat) (ignoring : Bool) (names : List (List Char)) (branches items : List Expr) :
    Local m (readExpr n ignoring names branches items) (readExpr m ignoring names branches items) := by
  induction n generalizing m ignoring names branches items with
  | zero => exact .fails nofun
  | succ n ih =>
    have main (m : Nat) : Local (m + 1) (readExpr (n + 1) ignoring names branches items)
        (readExpr (m + 1) ignoring names branches items) := by
      refine .of_head ignoring ?_ ?_ ?_ fun c hc => ?_
      · intro t
        simp only [readExpr, skip_skip]
      · intro t
        simp only [readExpr, skip_skip]
      · intro b h
        cases ignoring <;> cases h <;> exact ⟨rfl, rfl, fun k => rfl⟩
      · by_cases hend : c = ')'
        · right
          subst hend
          refine ⟨(.ofChoice (Expr.ofSequence items.reverse :: branches).reverse, names, []), fun r => ?_, fun _ => ?_⟩
          · simp only [readExpr, hc]
            exact ⟨rfl, rfl⟩
          · cases ignoring <;> rfl
        left
        by_cases hbar : c = '|'
        · subst hbar
          simp only [readExpr, hc]
          exact ih m _ _ _ _
        by_cases hopening : c = '('
        · subst hopening
          simp only [readExpr, hc]
          exact (local_readOpening ignoring names m).andThen (local_afterOpening (ih m))
        by_cases hbracket : c = '['
        · subst hbracket
          simp only [readExpr_bracket]
          exact local_afterBracket (ih m)
        by_cases hrepeat : c = '?' ∨ c = '*' ∨ c = '+'
        · rcases hrepeat with rfl | rfl | rfl
          all_goals
            simp only [readExpr, hc]
            exact .const_bind (repeatedOperand items) fun operand => local_afterRepetition (ih m) operand _ _
        by_cases hcounts : c = '\x7b'
        · subst hcounts
          simp only [readExpr, hc]
          exact .const_bind (repeatedOperand items) fun operand => local_afterCounts (ih m) operand
        by_cases hescape : c = '\\'
        · subst hescape
          simp only [readExpr, hc]
          refine (localIf_readEscape ignoring m).bind (fun b => ih m ignoring names branches (b.1 :: items)) ?_
          intro b d k hread _ _ r hr hnil
          have hread : readExpr n ignoring names branches (b.1 :: items) (b.2 ++ k) = .ok (push d k) := hread
          have hbrace := (ih (b.2.length + 1) ignoring names branches (b.1 :: items)).restrict hread trivial
            (Nat.lt_succ_self _)
          rw [hr] at hbrace
          exact skip_ne_nil_of_readExpr hbrace hnil
        by_cases hplace : c = '.' ∨ c = '^' ∨ c = '$'
        · rcases hplace with rfl | rfl | rfl
          all_goals
            simp only [readExpr, hc]
            exact ih m _ _ _ _
        · have hchar : c ∉ [')', '|', '(', '[', '?', '*', '+', '\x7b', '\\', '.', '^', '$'] := by
            simp only [not_or] at hrepeat hplace
            simp [hend, hbar, hopening, hbracket, hrepeat, hcounts, hescape, hplace]
          simp only [readExpr_char hc hchar]
          exact ih m ignoring names branches (.char c :: items)
    cases m with
    | zero => exact (main 0).zero
    | succ m => exact main m

end SeriesQuery.Pattern
