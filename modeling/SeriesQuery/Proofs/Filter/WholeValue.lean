import SeriesQuery.Proofs.Filter.Reading
import SeriesQuery.Proofs.Pattern.Enclosed

/-! # Patterns match whole values

A `~` comparison can be made when its pattern is one by itself, and then asks whether the pattern matches a value
from its first place to its last. The pattern must not close a group that it has not opened: this would be the group
around it, and what is behind would not be held to the end of the value. Nor may it end in a comment, nor be so deep
or large that there is no room for the group.
-/

namespace SeriesQuery

namespace Pattern

/-- A pattern for which there is room in the group of a whole text, and which leaves the end of the group. -/
structure Enclosable (p : Pattern) : Prop where
  ends : ∃ e, EndsBefore p.source.toList e ∧ e.depth + 2 ≤ depthLimit
  fits : Automaton.fits (.ofNode p.node.whole) = true

theorem compile_eq_ok_iff {source : String} {p : Pattern} : compile source = .ok p ↔
    p.source = source ∧ ∃ e, Expr.read source.toList = .ok e ∧ Node.ofExpr e = .ok p.node ∧
      Automaton.fits (.ofNode p.node) = true := by
  constructor
  · intro h
    rcases Except.bind_eq_ok_iff.1 h with ⟨e, hread, h⟩
    rcases Except.bind_eq_ok_iff.1 h with ⟨n, hnode, h⟩
    split at h
    · rename_i hfits
      cases h
      exact ⟨rfl, e, hread, hnode, hfits⟩
    · cases h
  · rintro ⟨rfl, e, hread, hnode, hfits⟩
    exact compile_eq_ok hread hnode hfits

/-- A pattern that is refused only for the group it closes is refused when it is read. -/
theorem read_ne_unopenedGroup {source : String} (h : compile source ≠ .error .unopenedGroup) :
    Expr.read source.toList ≠ .error .unopenedGroup := by
  intro hread
  apply h
  rw [compile, hread]
  rfl

theorem compile_of_read {source : String} {e : Expr} {n : Node} (hread : Expr.read source.toList = .ok e)
    (hnode : Node.ofExpr e = .ok n) (hsmall : compile source ≠ .error .tooLarge) :
    compile source = .ok ⟨source, n⟩ := by
  by_cases hfits : Automaton.fits (.ofNode n) = true
  · exact compile_eq_ok hread hnode hfits
  · refine absurd ?_ hsmall
    simp [compile, hread, hnode, hfits, bind, Except.bind]

/-- A pattern without the sign of a comment leaves the end of the group around it. -/
theorem enclosable_of_free {source : String} {p : Pattern} (h : compile source = .ok p) (hfree : '#' ∉ source.toList)
    (hdepth : ∀ e, Expr.read source.toList = .ok e → e.depth + 2 ≤ depthLimit)
    (hfits : Automaton.fits (.ofNode p.node.whole) = true) : p.Enclosable := by
  rcases compile_eq_ok_iff.1 h with ⟨rfl, e, hread, -⟩
  exact ⟨⟨e, endsBefore_of_read hread hfree, hdepth e hread⟩, hfits⟩

end Pattern

namespace Comparison

open Pattern

theorem toList_wholeText (pattern : String) : (wholeText pattern).toList = enclose pattern.toList := by
  simp [wholeText, enclose]

theorem compile_wholeText_eq_ok_iff {pattern : String} (hclosed : compile pattern ≠ .error .unopenedGroup)
    (hsmall : compile pattern ≠ .error .tooLarge) {w : Pattern} : compile (wholeText pattern) = .ok w ↔
      ∃ p, compile pattern = .ok p ∧ p.Enclosable ∧ w = ⟨wholeText pattern, p.node.whole⟩ := by
  constructor
  · intro h
    rcases Pattern.compile_eq_ok_iff.1 h with ⟨hsource, E, hread, hnode, hfits⟩
    rw [toList_wholeText] at hread
    rcases endsBefore_of_read_enclose hread (read_ne_unopenedGroup hclosed) with ⟨e, rfl, hdepth, hends⟩
    rw [Expr.ofExpr_enclosed] at hnode
    rcases Except.bind_eq_ok_iff.1 hnode with ⟨n, hn, hwhole⟩
    have hcompile := compile_of_read (hends.read (by omega)) hn hsmall
    rcases w with ⟨source, node⟩
    cases hsource
    cases hwhole
    exact ⟨⟨pattern, n⟩, hcompile, ⟨⟨e, hends, hdepth⟩, hfits⟩, rfl⟩
  · rintro ⟨p, hp, henclosable, rfl⟩
    rcases Pattern.compile_eq_ok_iff.1 hp with ⟨rfl, e, hread, hnode, -⟩
    rcases henclosable.ends with ⟨e', hends, hdepth⟩
    cases hread.symm.trans (hends.read (by omega))
    apply compile_eq_ok (e := e.enclosed)
    · rw [toList_wholeText]
      exact hends.read_enclose hdepth
    · rw [Expr.ofExpr_enclosed, hnode]
      rfl
    · exact henclosable.fits

/-- Unless a pattern closes a group that it has not opened or is too large, a `~` comparison with it can be made
exactly when it is a pattern by itself and enclosable; and then the comparison admits the values that the pattern
matches from the first place to the last. -/
theorem like_iff_spans (key value : String) (hclosed : compile (restoreDots value) ≠ .error .unopenedGroup)
    (hsmall : compile (restoreDots value) ≠ .error .tooLarge) :
    ((∃ c, make key .like value = .ok c) ↔ ∃ p, compile (restoreDots value) = .ok p ∧ p.Enclosable) ∧
      ∀ c, make key .like value = .ok c → ∃ p, compile (restoreDots value) = .ok p ∧
        ∀ actual : String, c.admits actual = true ↔ p.node.Spans actual.toList 0 actual.toList.length := by
  have hcompile {w : Pattern} := @compile_wholeText_eq_ok_iff (restoreDots value) hclosed hsmall w
  constructor
  · rw [exists_make_iff]
    constructor
    · intro h
      rcases h rfl with ⟨w, hw⟩
      rcases hcompile.1 hw with ⟨p, hp, henclosable, -⟩
      exact ⟨p, hp, henclosable⟩
    · rintro ⟨p, hp, henclosable⟩ -
      exact ⟨_, hcompile.2 ⟨p, hp, henclosable, rfl⟩⟩
  · intro c hc
    rcases make_eq_ok_iff.1 hc with ⟨hop, -⟩ | ⟨-, w, hw, rfl⟩
    · exact absurd rfl hop
    · rcases hcompile.1 hw with ⟨p, hp, -, rfl⟩
      exact ⟨p, hp, fun actual => p.node.occursIn_whole_iff⟩

def letterThenDot : Pattern.Node := .seq (.set [(0x78, 0x78)]) (.seq (.set [(0x2E, 0x2E)]) .empty)

theorem compile_letterThenDot : compile "x\\." = .ok ⟨"x\\.", letterThenDot⟩ := by
  have hform : Form.ofNode letterThenDot = .word ['x', '.'] := by
    simp only [letterThenDot, Form.ofNode]
    rfl
  apply compile_eq_ok
  · rfl
  · rfl
  · rw [hform]
    decide +kernel

theorem spans_letterThenDot_iff {text : List Char} :
    letterThenDot.Spans text 0 text.length ↔ text = ['x', '.'] := by
  have hcontains {code : Nat} {c : Char} (h : Unicode.Ranges.contains [(code, code)] c) : c.toNat = code := by
    simp [Unicode.Ranges.contains, Unicode.Ranges.has] at h
    omega
  constructor
  · rintro ⟨_, ⟨rfl, hletter⟩, _, ⟨rfl, hdot⟩, hend, -⟩
    rcases text with _ | ⟨a, _ | ⟨b, _ | ⟨c, r⟩⟩⟩
    · cases hend
    · cases hend
    · have ha : a = 'x' := Char.toNat_inj.1 (hcontains hletter)
      have hb : b = '.' := Char.toNat_inj.1 (hcontains hdot)
      rw [ha, hb]
    · simp at hend
  · rintro rfl
    exact ⟨1, ⟨rfl, rfl⟩, 2, ⟨rfl, rfl⟩, rfl, Nat.le_refl 2⟩

theorem enclosable_letterThenDot : Enclosable ⟨"x\\.", letterThenDot⟩ := by
  rcases compile_eq_ok_iff.1 Filter.compile_letterAndDot with ⟨-, _, -, -, hfits⟩
  refine enclosable_of_free compile_letterThenDot (by decide) (fun e hread => ?_) hfits
  cases (show Expr.read _ = .ok (.sequence [.char 'x', .char '.']) from rfl).symm.trans hread
  decide

theorem like_letterThenDot : ∃ c, make "k" .like "x\\^" = .ok c ∧
    ∀ actual : String, c.admits actual = true ↔ actual = "x." := by
  have hrestore : restoreDots "x\\^" = "x\\." := by rfl
  have hlike := like_iff_spans "k" "x\\^" (by rw [hrestore, compile_letterThenDot]; nofun)
    (by rw [hrestore, compile_letterThenDot]; nofun)
  rw [hrestore, compile_letterThenDot] at hlike
  rcases hlike.1.2 ⟨_, rfl, enclosable_letterThenDot⟩ with ⟨c, hmake⟩
  rcases hlike.2 c hmake with ⟨_, ⟨⟩, hspans⟩
  refine ⟨c, hmake, fun actual => (hspans actual).trans (spans_letterThenDot_iff.trans ?_)⟩
  exact @String.toList_inj actual "x."

/-- The start of a text behind a letter, or a letter and the end of a text. -/
def startOrEnd : Pattern.Node :=
  .alt (.seq (.look .textStart) (.seq (.group false (.set [(0x61, 0x61)])) .empty))
    (.seq (.group false (.set [(0x62, 0x62)])) (.seq (.look .textEnd) .empty))

theorem compile_startOrEnd : compile "^(?:a)|(?:b)$" = .ok ⟨"^(?:a)|(?:b)$", startOrEnd⟩ := by
  have hform : Form.ofNode startOrEnd =
      .choice [.sequence [.look .textStart, .word ['a']], .sequence [.word ['b'], .look .textEnd]] := by
    simp only [startOrEnd, Form.ofNode, Form.branchesOf]
    rfl
  apply compile_eq_ok
  · rfl
  · rfl
  · rw [hform]
    decide +kernel

theorem like_closedGroup : (∃ c, make "k" .like "a)|(?:b" = .ok c ∧ c.admits "ax" = true) ∧
    compile (restoreDots "a)|(?:b") = .error .unopenedGroup :=
  ⟨⟨_, make_eq_ok_iff.2 (.inr ⟨rfl, _, compile_startOrEnd, rfl⟩), by decide +kernel⟩, rfl⟩

end Comparison

end SeriesQuery
