import SeriesQuery.Pattern.Automaton.Basic
import SeriesQuery.Pattern.Match
import SeriesQuery.Pattern.Reader

/-! # Patterns

A pattern is a text of the grammar together with its meaning. It can only be had by reading the text,
so two patterns of one text are the same.
-/

namespace SeriesQuery

/-- A text that is a pattern, with its meaning. -/
structure Pattern where
  source : String
  node : Pattern.Node

namespace Pattern

def compile (source : String) : Except Fault Pattern := do
  let e ← Expr.read source.toList
  let n ← Node.ofExpr e
  if Automaton.fits (.ofNode n) then .ok ⟨source, n⟩ else .error .tooLarge

theorem compile_eq_ok {source : String} {e : Expr} {n : Node} (hread : Expr.read source.toList = .ok e)
    (hnode : Node.ofExpr e = .ok n) (hfits : Automaton.fits (.ofNode n) = true) :
    compile source = .ok ⟨source, n⟩ := by
  simp [compile, hread, hnode, hfits, bind, Except.bind]

def occursIn (p : Pattern) (text : String) : Bool := p.node.occursIn text.toList

end Pattern
end SeriesQuery
