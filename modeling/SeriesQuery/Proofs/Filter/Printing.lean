import SeriesQuery.Proofs.Filter.Reading

/-! # Printing filter trees

A tree that was read is printed as it was written, but for the patterns: these keep the dots that were put
back for their carets. Putting back dots a second time changes nothing, so what is printed makes the same
comparisons, and reading it gives the same tree.
-/

namespace SeriesQuery

def restoreDot (c : Char) : Char := if c = '^' then '.' else c

theorem restoreDot_comp_restoreDot : restoreDot ∘ restoreDot = restoreDot := by
  funext c
  by_cases h : c = '^' <;> simp [restoreDot, h]

/-- Only dots arise where dots are put back. -/
theorem mem_of_mem_map_restoreDot {c : Char} {text : List Char} (hc : c ≠ '.')
    (h : c ∈ text.map restoreDot) : c ∈ text := by
  obtain ⟨d, hd, rfl⟩ := List.mem_map.1 h
  by_cases hcaret : d = '^'
  · simp [restoreDot, hcaret] at hc
  · simpa [restoreDot, hcaret] using hd

theorem Comparison.restoreDots_ofList (text : List Char) :
    restoreDots (String.ofList text) = String.ofList (text.map restoreDot) := by
  rw [restoreDots, String.toList_ofList]
  rfl

namespace Filter
namespace Token

/-- The token with the dots of its pattern put back. -/
def withDots (t : Token) : Token where
  key := t.key
  op := t.op
  value := if t.op = .like then t.value.map restoreDot else t.value
  key_ne_nil := t.key_ne_nil
  isKeyChar_key := t.isKeyChar_key
  oneLine := by
    split
    · exact fun h => t.oneLine (mem_of_mem_map_restoreDot (by decide) h)
    · exact t.oneLine
  separatorFree := by
    split
    · exact ⟨fun h => t.separatorFree.1 (mem_of_mem_map_restoreDot (by decide) h),
        fun h => t.separatorFree.2 (mem_of_mem_map_restoreDot (by decide) h)⟩
    · exact t.separatorFree
  ends := by
    split
    · rename_i hop
      simp [Ends, hop]
    · exact t.ends

end Token

namespace CheckedToken

/-- The token with dots in its pattern makes the same comparison. -/
def withDots (t : CheckedToken) : CheckedToken where
  toToken := t.toToken.withDots
  comparison := t.comparison
  made := by
    obtain ⟨hop, hc⟩ | ⟨hop, p, hp, hc⟩ := Comparison.make_eq_ok_iff.1 t.made
    · rw [Comparison.make_eq_ok_iff]
      exact .inl ⟨hop, by simpa [Token.withDots, hop] using hc⟩
    · have hagain : Comparison.restoreDots (String.ofList (t.value.map restoreDot)) =
          Comparison.restoreDots (String.ofList t.value) := by
        simp [Comparison.restoreDots_ofList, restoreDot_comp_restoreDot]
      rw [Comparison.make_eq_ok_iff]
      refine .inr ⟨hop, p, ?_⟩
      simp only [Token.withDots, hop, if_true, hagain]
      exact ⟨hp, hop ▸ hc⟩

/-- A comparison is printed as its token with dots. -/
theorem text_comparison (t : CheckedToken) : t.comparison.text = String.ofList t.withDots.text := by
  obtain ⟨hop, hc⟩ | ⟨hop, p, hp, hc⟩ := Comparison.make_eq_ok_iff.1 t.made
  · simp [hc, Comparison.text, Token.text, withDots, Token.withDots, hop, String.append_assoc]
  · simp [hc, Comparison.text, Token.text, withDots, Token.withDots, hop, String.append_assoc,
      Comparison.restoreDots_ofList]

end CheckedToken

theorem print?_node (tree : TagPredicate) (joint : Joint) (c : Comparison) :
    print? (joint.node tree (.leaf c)) =
      (print? tree).map fun s => s ++ String.singleton joint.separator ++ c.text := by
  cases joint <;> rfl

theorem Row.written_snoc (row : Row Token) (joint : Joint) (t : Token) :
    (row.snoc joint t).written = row.written ++ String.singleton joint.separator ++ String.ofList t.text := by
  apply String.toList_injective
  simp [written]

/-- The tree of a row of tokens is printed as the row of the tokens with dots. -/
theorem print?_tree (row : Row CheckedToken) :
    print? (row.map CheckedToken.comparison).tree = some (row.map fun t => t.toToken.withDots).written := by
  induction row using Row.snocInduction with
  | single t =>
    rw [Row.map_single, Row.tree_single, print?, t.text_comparison, Row.map_single, Row.written,
      Row.map_single, Row.text_single]
    rfl
  | snoc row joint t ih =>
    rw [Row.map_snoc, Row.tree_snoc, print?_node, ih, t.text_comparison, Row.map_snoc, Row.written_snoc]
    rfl

/-- A tree that was read is printed as it was written, but with dots for the carets of its patterns, and
what is printed is read as the same tree. -/
theorem print?_and_parse_of_parse {e : String} {tree : TagPredicate} (h : parse e = .ok (some tree)) :
    ∃ row : Row Token, row.written = e ∧ print? tree = some (row.map Token.withDots).written ∧
      parse (row.map Token.withDots).written = .ok (some tree) := by
  obtain ⟨row, rfl, rfl⟩ := exists_row_of_parse h
  refine ⟨row.map CheckedToken.toToken, rfl, ?_, ?_⟩
  · rw [print?_tree, Row.map_map]
    rfl
  · have hparse := parse_written (row.map CheckedToken.withDots)
    rw [Row.map_map, Row.map_map] at hparse
    rw [Row.map_map]
    exact hparse

/-- The caret of a pattern becomes a dot, and that of a plain value stays. -/
theorem print?_mixedRow :
    ∃ tree, parse "a=^|b<=2&c~x\\^" = .ok (some tree) ∧ print? tree = some "a=^|b<=2&c~x\\." ∧
      parse "a=^|b<=2&c~x\\." = .ok (some tree) := by
  have hwritten : mixedRow.written = "a=^|b<=2&c~x\\^" := by rfl
  have hdots : (mixedRow.map Token.withDots).written = "a=^|b<=2&c~x\\." := by rfl
  obtain ⟨tree, h⟩ := exists_parse_written compiles_mixedRow
  obtain ⟨row, hrow, hprint, hparse⟩ := print?_and_parse_of_parse h
  obtain rfl := Row.written_injective hrow
  exact ⟨tree, hwritten ▸ h, hdots ▸ hprint, hdots ▸ hparse⟩

end Filter
end SeriesQuery
