import SeriesQuery.Pattern.Basic
import SeriesQuery.Proofs.Pattern.LocalExpressions
import SeriesQuery.Proofs.Pattern.Spans

/-! # Patterns enclosed in a group

A pattern for whole texts is put as a text between the start of a group and its end. It is read there as it is read
by itself, as reading is local: unless it closes a group that it has not opened, which then is the one around it,
and unless it ends in a comment, which swallows the end of the group.
-/

namespace SeriesQuery.Pattern

open Leaves

def Expr.enclosed (e : Expr) : Expr := .sequence [.place .lineStart, .group false [] e, .place .lineEnd]

def enclose (text : List Char) : List Char := '^' :: '(' :: '?' :: ':' :: (text ++ [')', '$'])

namespace Expr

theorem depth_enclosed (e : Expr) : e.enclosed.depth = e.depth + 2 := by
  simp [enclosed, depth, depths]

theorem ofExpr_enclosed (e : Expr) : Node.ofExpr e.enclosed = Node.ofExpr e >>= fun n => .ok n.whole := by
  cases h : e.toNode {} with
  | error fault =>
    simp only [Node.ofExpr, enclosed, toNode, toSequence, Flags.apply, List.foldl_nil, bind, Except.bind, h]
  | ok b =>
    simp only [Node.ofExpr, enclosed, toNode, toSequence, Flags.apply, List.foldl_nil, bind, Except.bind, h]
    rfl

end Expr

/-- The expression ends at a parenthesis behind it. -/
def EndsBefore (text : List Char) (e : Expr) : Prop :=
  ∃ names, readExpr (text.length + 2) false [] [] [] (text ++ [')']) = .ok (e, names, [')'])

theorem readExpr_enclosing_eq_ok_iff {n : Nat} {t : List Char} {b : Expr × List (List Char) × List Char} :
    readExpr (n + 2) false [] [] [] ('^' :: '(' :: '?' :: ':' :: t) = .ok b ↔
      ∃ body names after, readExpr n false [] [] [] t = .ok (body, names, ')' :: after) ∧
        readExpr n false names [] [.group false [] body, .place .lineStart] after = .ok b := by
  have hopening : readOpening false [] ('?' :: ':' :: t) = .ok (.group false [] [], t) := rfl
  simp only [readExpr, skip_false, hopening]
  change (readExpr n false [] [] [] t >>= _) = _ ↔ _
  rw [Except.bind_eq_ok_iff]
  constructor
  · rintro ⟨⟨body, names, left⟩, hread, h⟩
    split at h
    · rename_i heq
      cases heq
      exact ⟨_, _, _, hread, h⟩
    · cases h
  · rintro ⟨body, names, after, hread, h⟩
    exact ⟨_, hread, h⟩

theorem readExpr_lineEnd (n : Nat) (names : List (List Char)) (items : List Expr) :
    readExpr (n + 2) false names [] items ['$'] = .ok (Expr.ofSequence (items.reverse ++ [.place .lineEnd]), names, []) := by
  simp [readExpr, skip_false, Expr.ofChoice]

theorem read_eq_ok_iff {text : List Char} {e : Expr} : Expr.read text = .ok e ↔
    ∃ names, readExpr (text.length + 1) false [] [] [] text = .ok (e, names, []) ∧ e.depth ≤ depthLimit := by
  rw [Expr.read, Except.bind_eq_ok_iff]
  constructor
  · rintro ⟨⟨body, names, left⟩, hread, h⟩
    split at h
    · rename_i heq
      cases heq
      split at h
      · rename_i hdepth
        cases h
        exact ⟨names, hread, hdepth⟩
      · cases h
    · cases h
  · rintro ⟨names, hread, hdepth⟩
    exact ⟨_, hread, if_pos hdepth⟩

theorem read_of_left {text left : List Char} {e : Expr} {names : List (List Char)}
    (h : readExpr (text.length + 1) false [] [] [] text = .ok (e, names, left)) (hleft : left ≠ []) :
    Expr.read text = .error .unopenedGroup := by
  cases left with
  | nil => exact absurd rfl hleft
  | cons c left =>
    rw [Expr.read, h]
    rfl

/-- An expression that ends at a parenthesis behind it is the one of the whole text. -/
theorem EndsBefore.read {text : List Char} {e : Expr} (h : EndsBefore text e) (hdepth : e.depth ≤ depthLimit) :
    Expr.read text = .ok e := by
  rcases h with ⟨names, h⟩
  exact read_eq_ok_iff.2 ⟨names, (local_readExpr _ _ _ _ _ _).restrict (b := (e, names, [])) h trivial
    (Nat.lt_succ_self _), hdepth⟩

theorem endsBefore_of_read {text : List Char} {e : Expr} (h : Expr.read text = .ok e) (hfree : '#' ∉ text) :
    EndsBefore text e := by
  rcases read_eq_ok_iff.1 h with ⟨names, hread, -⟩
  refine ⟨names, (local_readExpr _ _ _ _ _ _).extend hread (.inr ⟨hfree, [], rfl⟩) ?_⟩
  rw [List.length_append, List.length_singleton]
  exact Nat.lt_succ_self _

theorem EndsBefore.read_enclose {text : List Char} {e : Expr} (h : EndsBefore text e)
    (hdepth : e.depth + 2 ≤ depthLimit) : Expr.read (enclose text) = .ok e.enclosed := by
  rcases h with ⟨names, h⟩
  have hinside := (local_readExpr _ (text.length + 5) _ _ _ _).extend (k := ['$']) h (.inl nofun)
    (by simp only [List.length_append, List.length_singleton]; omega)
  rw [List.append_assoc] at hinside
  rw [← Expr.depth_enclosed] at hdepth
  refine read_eq_ok_iff.2 ⟨names, ?_, hdepth⟩
  have hlength : (enclose text).length + 1 = text.length + 5 + 2 := by
    simp [enclose]
  rw [hlength, enclose, readExpr_enclosing_eq_ok_iff]
  exact ⟨e, names, ['$'], hinside, readExpr_lineEnd (text.length + 3) names _⟩

/-- What is read in the group is what is read by itself, or a group is closed that is not opened. -/
theorem endsBefore_of_read_enclose {text : List Char} {w : Expr} (h : Expr.read (enclose text) = .ok w)
    (hclosed : Expr.read text ≠ .error .unopenedGroup) :
    ∃ e, w = e.enclosed ∧ e.depth + 2 ≤ depthLimit ∧ EndsBefore text e := by
  rcases read_eq_ok_iff.1 h with ⟨names, hread, hdepth⟩
  have hlength : (enclose text).length + 1 = text.length + 5 + 2 := by
    simp [enclose]
  rw [hlength, enclose, readExpr_enclosing_eq_ok_iff] at hread
  rcases hread with ⟨e, inner, after, hinside, hafter⟩
  -- The group ends at its own parenthesis or before it.
  have hleft : ∃ left, ')' :: after = left ++ [')', '$'] := by
    have hsuffix : ')' :: after <:+ text ++ [')', '$'] := (local_readExpr _ 0 _ _ _ _).suffix hinside
    rcases List.suffix_or_suffix_of_suffix hsuffix (List.suffix_append text [')', '$']) with hpart | ⟨left, hleft⟩
    · rcases List.suffix_cons_iff.1 hpart with heq | hend
      · exact ⟨[], heq⟩
      · exact absurd (hend.subset List.mem_cons_self) (by decide)
    · exact ⟨left, hleft.symm⟩
  rcases hleft with ⟨left, hleft⟩
  have halone := (local_readExpr _ (text.length + 1) _ _ _ _).restrict (b := (e, inner, left)) (k := [')', '$'])
    (by rw [hinside, hleft]; rfl) trivial (Nat.lt_succ_self _)
  have hnil : left = [] := by
    by_contra hne
    exact hclosed (read_of_left halone hne)
  subst hnil
  cases hleft
  rw [readExpr_lineEnd] at hafter
  cases hafter
  refine ⟨e, rfl, Expr.depth_enclosed e ▸ hdepth, names, ?_⟩
  apply (local_readExpr _ (text.length + 2) _ _ _ _).restrict (k := ['$'])
  · rw [List.append_assoc]
    exact hinside
  · trivial
  · rw [List.length_append, List.length_singleton]
    exact Nat.lt_succ_self _

end SeriesQuery.Pattern
