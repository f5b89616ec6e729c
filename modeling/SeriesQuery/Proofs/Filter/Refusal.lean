import SeriesQuery.Proofs.Filter.Printing

/-! # Refused filter expressions

An expression is refused for the first of its tokens that cannot be read by itself. A token without a key,
an operator and a value is named as it is written. One whose pattern cannot be read is named with the dots
that were put back into the pattern, which is the token as written only where the pattern has no caret.
-/

namespace SeriesQuery

theorem Comparison.make_eq_error_iff {key value : String} {op : Operator} {error : FilterError} :
    make key op value = .error error ↔ op = .like ∧ ∃ cause,
      Pattern.compile (wholeText (restoreDots value)) = .error cause ∧
        error = ⟨key ++ op.symbol ++ restoreDots value, .pattern cause⟩ := by
  by_cases hop : op = .like
  · cases hp : Pattern.compile (wholeText (restoreDots value)) <;> simp [make, hop, hp, eq_comm]
  · simp [make, hop]

theorem map_restoreDot_eq_self_iff {text : List Char} : text.map restoreDot = text ↔ '^' ∉ text := by
  induction text with
  | nil => simp
  | cons c text ih =>
    by_cases hc : c = '^'
    · simp [restoreDot, hc]
    · simp [restoreDot, hc, Ne.symm hc, ih]

namespace Filter

/-- How a piece between separators is refused. -/
inductive RefusedAs : List Char → FilterError → Prop where
  /-- The piece is no token. -/
  | shape {piece : List Char} (none : ∀ t : Token, t.text ≠ piece) :
      RefusedAs piece ⟨String.ofList piece, .shape⟩
  /-- The piece is a token whose pattern cannot be read. -/
  | pattern {t : Token} {cause : Pattern.Fault} (like : t.op = .like)
      (refused : Pattern.compile (Comparison.wholeText (Comparison.restoreDots (String.ofList t.value))) =
        .error cause) : RefusedAs t.text ⟨String.ofList t.withDots.text, .pattern cause⟩

theorem Token.text_withDots_of_like {t : Token} (h : t.op = .like) :
    t.withDots.text = t.key ++ (t.op.symbol.toList ++ t.value.map restoreDot) := by
  simp [text, withDots, h]

/-- A token is changed by its dots exactly when its pattern has a caret. -/
theorem Token.text_withDots_eq_iff {t : Token} (h : t.op = .like) : t.withDots.text = t.text ↔ '^' ∉ t.value := by
  rw [text_withDots_of_like h, text, List.append_cancel_left_eq, List.append_cancel_left_eq,
    map_restoreDot_eq_self_iff]

theorem refusedAs_of_parseToken {piece : List Char} {error : FilterError} (hfree : SeparatorFree piece)
    (h : parseToken piece = .error error) : RefusedAs piece error := by
  unfold parseToken at h
  split at h
  · rename_i key op value hparts
    obtain ⟨t, rfl, rfl, rfl, rfl⟩ := Token.exists_of_parts? hfree hparts
    obtain ⟨hop, cause, hcause, rfl⟩ := Comparison.make_eq_error_iff.1 h
    have htext : String.ofList t.key ++ t.op.symbol ++ Comparison.restoreDots (String.ofList t.value) =
        String.ofList t.withDots.text := by
      apply String.toList_injective
      simp [Token.text_withDots_of_like hop, Comparison.restoreDots_ofList]
    rw [htext]
    exact .pattern hop hcause
  · rename_i hparts
    cases h
    refine .shape fun t ht => ?_
    rw [← ht, t.parts?_text] at hparts
    cases hparts

/-- What is refused is not read. -/
theorem RefusedAs.parseToken_ne_ok {piece : List Char} {error : FilterError} (h : RefusedAs piece error)
    (hfree : SeparatorFree piece) (c : Comparison) : parseToken piece ≠ .ok c := by
  intro hok
  obtain ⟨t, ht, -⟩ := CheckedToken.exists_of_parseToken hfree hok
  cases h with
  | shape none => exact none t.toToken ht
  | pattern like refused =>
    obtain rfl := Token.text_injective ht
    obtain ⟨p, hp⟩ := t.compiles like
    cases refused.symm.trans hp

/-- The piece is named as it is written unless its pattern has a caret. -/
theorem RefusedAs.token_eq_iff {piece : List Char} {error : FilterError} (h : RefusedAs piece error) :
    error.token = String.ofList piece ↔ ¬ ∃ t : Token, t.text = piece ∧ t.op = .like ∧ '^' ∈ t.value := by
  cases h with
  | shape none => simp [none]
  | pattern like refused =>
    rw [Token.exists_text_eq_iff, String.ofList_inj, Token.text_withDots_eq_iff like]
    simp [like]

/-! ## The first refusal -/

/-- The error is that of the first piece that is refused. -/
def FirstRefused (pieces : List (List Char)) (error : FilterError) : Prop :=
  ∃ before piece after, pieces = before ++ piece :: after ∧
    (∀ earlier ∈ before, ∃ c, parseToken earlier = .ok c) ∧ parseToken piece = .error error

theorem FirstRefused.head {piece : List Char} {error : FilterError} (h : parseToken piece = .error error)
    (pieces : List (List Char)) : FirstRefused (piece :: pieces) error :=
  ⟨[], piece, pieces, rfl, nofun, h⟩

theorem FirstRefused.cons {piece : List Char} {pieces : List (List Char)} {error : FilterError}
    {c : Comparison} (hc : parseToken piece = .ok c) (h : FirstRefused pieces error) :
    FirstRefused (piece :: pieces) error := by
  obtain ⟨before, refused, after, rfl, hbefore, hrefused⟩ := h
  exact ⟨piece :: before, refused, after, rfl, List.forall_mem_cons.2 ⟨⟨c, hc⟩, hbefore⟩, hrefused⟩

theorem firstRefused_of_parseRest {tree : TagPredicate} {others : List (Joint × List Char)}
    {error : FilterError} (h : parseRest tree others = .error error) :
    FirstRefused (others.map Prod.snd) error := by
  induction others generalizing tree with
  | nil => cases h
  | cons o others ih =>
    obtain hrefused | ⟨c, hc, hrest⟩ := Except.bind_eq_error_iff.1 h
    · exact .head hrefused _
    · exact .cons hc (ih hrest)

theorem firstRefused_of_parse {e : String} {error : FilterError} (h : parse e = .error error) :
    ∃ row : Row (List Char), row.IsCutOf e.toList ∧ tokens e = row.items.map String.ofList ∧
      FirstRefused row.items error := by
  have hne : ¬ e.isEmpty = true := by
    intro hempty
    rw [parse, if_pos hempty] at h
    cases h
  rw [parse, if_neg hne] at h
  refine ⟨_, isCutOf_cut e.toList, ?_, ?_⟩
  · simp [tokens, hne, Row.items]
  · obtain hrefused | ⟨c, hc, hrest⟩ := Except.bind_eq_error_iff.1 h
    · exact .head hrefused _
    · obtain hrest | ⟨tree, -, hnone⟩ := Except.bind_eq_error_iff.1 hrest
      · exact .cons hc (firstRefused_of_parseRest hrest)
      · cases hnone

/-- A refused expression is refused for the first of its tokens that is not read by itself, and the error
names this token as it is written, unless it has a pattern with a caret. -/
theorem error_names_first_refused {e : String} {error : FilterError} (h : parse e = .error error) :
    ∃ before token after, tokens e = before ++ token :: after ∧
      (∀ earlier ∈ before, ∃ c, parseToken earlier.toList = .ok c) ∧
      (∀ c, parseToken token.toList ≠ .ok c) ∧ RefusedAs token.toList error ∧
      (error.token = token ↔
        ¬ ∃ t : Token, t.text = token.toList ∧ t.op = .like ∧ '^' ∈ t.value) := by
  obtain ⟨row, hrow, htokens, before, piece, after, hitems, hbefore, hpiece⟩ := firstRefused_of_parse h
  have hfree : SeparatorFree piece := hrow.separatorFree piece (by simp [hitems])
  have hrefused := refusedAs_of_parseToken hfree hpiece
  refine ⟨before.map String.ofList, String.ofList piece, after.map String.ofList, ?_, ?_⟩
  · rw [htokens, hitems, List.map_append, List.map_cons]
  · simp only [List.forall_mem_map, String.toList_ofList]
    exact ⟨hbefore, hrefused.parseToken_ne_ok hfree, hrefused, hrefused.token_eq_iff⟩

/-- The second of three tokens is refused for its pattern, and found again as it is written. -/
theorem error_names_unclosedGroup :
    parse "host=web1&k~x.(|bad token" = .error ⟨"k~x.(", .pattern .unclosedGroup⟩ ∧
      ∃ before after, tokens "host=web1&k~x.(|bad token" = before ++ "k~x.(" :: after ∧
        ∀ earlier ∈ before, ∃ c, parseToken earlier.toList = .ok c := by
  have h : parse "host=web1&k~x.(|bad token" = .error ⟨"k~x.(", .pattern .unclosedGroup⟩ := by rfl
  obtain ⟨before, token, after, htokens, hbefore, -, -, hnamed⟩ := error_names_first_refused h
  have hcaret : '^' ∉ token.toList := by
    have hmem : token ∈ ["host=web1", "k~x.(", "bad token"] := by
      change token ∈ tokens "host=web1&k~x.(|bad token"
      simp [htokens]
    simp only [List.mem_cons, List.not_mem_nil, or_false] at hmem
    obtain rfl | rfl | rfl := hmem <;> decide
  obtain rfl : "k~x.(" = token := hnamed.2 fun ⟨t, ht, _, hmem⟩ => hcaret (by simp [← ht, Token.text, hmem])
  exact ⟨h, before, after, htokens, hbefore⟩

/-- The only token of an expression has a caret in a pattern that cannot be read, and the error names another
text. -/
theorem error_names_no_token :
    ∃ error, parse "k~^(" = .error error ∧ tokens "k~^(" = ["k~^("] ∧
      (∀ c, parseToken "k~^(".toList ≠ .ok c) ∧ error.token = "k~.(" ∧
      ¬ ∃ before after, tokens "k~^(" = before ++ error.token :: after := by
  refine ⟨⟨"k~.(", .pattern .unclosedGroup⟩, rfl, rfl, nofun, rfl, ?_⟩
  rintro ⟨before, after, htokens⟩
  have hmem : "k~.(" ∈ tokens "k~^(" := by simp [htokens]
  exact absurd hmem (by decide)

end Filter
end SeriesQuery
