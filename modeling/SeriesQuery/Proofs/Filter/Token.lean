import Mathlib.Data.List.TakeWhile
import SeriesQuery.Proofs.Filter.Row

/-! # Comparisons as written

A token is the key, the operator and the value of a comparison in a filter expression. Reading a token
gives back these three, since no operator begins with a character of a key and the longer of two operators
is taken; and whatever piece of an expression can be read is a token. What a comparison asks of tags is
said here a second time, of the token alone.
-/

namespace SeriesQuery

/-- What an operator, with the text behind it, asks of a tag value. -/
def Operator.Admits (op : Operator) (written actual : String) : Prop :=
  match op with
  | eq => actual = written
  | ge => written ≤ actual
  | gt => written < actual
  | le => actual ≤ written
  | lt => actual < written
  | like => ∃ p, Pattern.compile (Comparison.wholeText (Comparison.restoreDots written)) = .ok p ∧
      p.occursIn actual = true

namespace Comparison

theorem make_eq_ok_iff {key value : String} {op : Operator} {c : Comparison} :
    make key op value = .ok c ↔ (op ≠ .like ∧ c = ⟨key, op, value, none⟩) ∨
      (op = .like ∧ ∃ p, Pattern.compile (wholeText (restoreDots value)) = .ok p ∧
        c = ⟨key, op, restoreDots value, some p⟩) := by
  by_cases hop : op = .like
  · cases hp : Pattern.compile (wholeText (restoreDots value)) <;> simp [make, hop, hp, eq_comm]
  · simp [make, hop, eq_comm]

/-- A comparison can be made unless its pattern is refused. -/
theorem exists_make_iff {key value : String} {op : Operator} :
    (∃ c, make key op value = .ok c) ↔
      (op = .like → ∃ p, Pattern.compile (wholeText (restoreDots value)) = .ok p) := by
  by_cases hop : op = .like <;> simp [make_eq_ok_iff, hop]

theorem admits_iff_of_make {key value : String} {op : Operator} {c : Comparison}
    (h : make key op value = .ok c) (actual : String) : c.admits actual = true ↔ op.Admits value actual := by
  obtain ⟨hop, rfl⟩ | ⟨rfl, p, hp, rfl⟩ := make_eq_ok_iff.1 h
  · cases op <;> simp [admits, Operator.Admits] at hop ⊢
  · simp [admits, Operator.Admits, hp]

end Comparison

namespace Filter

/-- The longer operator would be read where `=` follows `<` or `>`. -/
def Ends (op : Operator) (value : List Char) : Prop := op = .lt ∨ op = .gt → value.head? ≠ some '='

theorem ends_of_ne_cons {op : Operator} {value : List Char} (h : ∀ more, value ≠ '=' :: more) :
    Ends op value := by
  intro _ hhead
  obtain ⟨more, rfl⟩ := List.head?_eq_some_iff.1 hhead
  exact h more rfl

theorem operator?_eq_some_iff {text value : List Char} {op : Operator} :
    operator? text = some (op, value) ↔ text = op.symbol.toList ++ value ∧ Ends op value := by
  constructor
  · intro h
    unfold operator? at h
    split at h <;> cases h
    case h_1 | h_2 | h_3 | h_6 => exact ⟨rfl, by simp [Ends]⟩
    case h_4 hne | h_5 hne => exact ⟨rfl, ends_of_ne_cons hne⟩
  · rintro ⟨rfl, hends⟩
    cases op with
    | eq | ge | le | like => rfl
    | gt | lt =>
      cases value with
      | nil => rfl
      | cons c rest =>
        have hc : c ≠ '=' := by simpa [Ends] using hends
        simp [Operator.symbol, operator?, hc]

/-- No operator begins with a character of a key. -/
theorem takeWhile_symbol_append (op : Operator) (value : List Char) :
    (op.symbol.toList ++ value).takeWhile isKeyChar = [] := by
  cases op <;> rfl

theorem dropWhile_symbol_append (op : Operator) (value : List Char) :
    (op.symbol.toList ++ value).dropWhile isKeyChar = op.symbol.toList ++ value := by
  cases op <;> rfl

/-- A comparison as it stands in a filter expression. -/
@[ext]
structure Token where
  key : List Char
  op : Operator
  value : List Char
  key_ne_nil : key ≠ []
  isKeyChar_key : ∀ c ∈ key, isKeyChar c = true
  oneLine : '\n' ∉ value
  separatorFree : SeparatorFree value
  ends : Ends op value

namespace Token

def text (t : Token) : List Char := t.key ++ (t.op.symbol.toList ++ t.value)

theorem separatorFree_text (t : Token) : SeparatorFree t.text := by
  have hkey : SeparatorFree t.key := by
    constructor <;> intro h <;> cases t.isKeyChar_key _ h
  have hsymbol : SeparatorFree t.op.symbol.toList := by
    cases t.op <;> simp [SeparatorFree, Operator.symbol]
  exact separatorFree_append.2 ⟨hkey, separatorFree_append.2 ⟨hsymbol, t.separatorFree⟩⟩

theorem parts?_text (t : Token) : parts? t.text = some (t.key, t.op, t.value) := by
  have htake : t.text.takeWhile isKeyChar = t.key := by
    rw [text, List.takeWhile_append_of_pos t.isKeyChar_key, takeWhile_symbol_append, List.append_nil]
  have hdrop : t.text.dropWhile isKeyChar = t.op.symbol.toList ++ t.value := by
    rw [text, List.dropWhile_append_of_pos t.isKeyChar_key, dropWhile_symbol_append]
  have hop := operator?_eq_some_iff.2 ⟨rfl, t.ends⟩
  simp [parts?, htake, hdrop, hop, t.key_ne_nil, t.oneLine]

/-- A text is a token in at most one way. -/
theorem text_injective : Function.Injective text := by
  intro t u h
  have hparts := t.parts?_text
  rw [h, u.parts?_text] at hparts
  simp only [Option.some.injEq, Prod.mk.injEq] at hparts
  exact Token.ext hparts.1.symm hparts.2.1.symm hparts.2.2.symm

theorem exists_text_eq_iff {t : Token} {p : Token → Prop} :
    (∃ u : Token, u.text = t.text ∧ p u) ↔ p t := by
  constructor
  · rintro ⟨u, hu, hp⟩
    exact text_injective hu ▸ hp
  · exact fun hp => ⟨t, rfl, hp⟩

/-- What falls into key, operator and value between separators is a token. -/
theorem exists_of_parts? {piece key value : List Char} {op : Operator} (hfree : SeparatorFree piece)
    (h : parts? piece = some (key, op, value)) :
    ∃ t : Token, t.text = piece ∧ t.key = key ∧ t.op = op ∧ t.value = value := by
  unfold parts? at h
  simp only at h
  split at h
  · rename_i op value hop
    obtain ⟨hdrop, hends⟩ := operator?_eq_some_iff.1 hop
    split at h
    · cases h
    · rename_i hparts
      cases h
      simp only [Bool.or_eq_true, List.isEmpty_iff, List.contains_iff_mem, not_or] at hparts
      have hpiece : piece = piece.takeWhile isKeyChar ++ (op.symbol.toList ++ value) := by
        rw [← hdrop, List.takeWhile_append_dropWhile]
      have hvalue : SeparatorFree value := by
        rw [hpiece, separatorFree_append, separatorFree_append] at hfree
        exact hfree.2.2
      exact ⟨⟨_, op, value, hparts.1, fun c hc => List.mem_takeWhile_imp hc, hparts.2, hvalue, hends⟩,
        hpiece.symm, rfl, rfl, rfl⟩
  · cases h

def Compiles (t : Token) : Prop :=
  t.op = .like →
    ∃ p, Pattern.compile (Comparison.wholeText (Comparison.restoreDots (String.ofList t.value))) = .ok p

def Matches (tags : Tags) (t : Token) : Prop :=
  ∃ actual, tags.find? (String.ofList t.key) = some actual ∧ t.op.Admits (String.ofList t.value) actual

end Token

/-- A token with the comparison that it makes. -/
structure CheckedToken extends Token where
  comparison : Comparison
  made : Comparison.make (String.ofList key) op (String.ofList value) = .ok comparison

namespace CheckedToken

theorem parseToken_text (t : CheckedToken) : parseToken t.text = .ok t.comparison := by
  simp only [parseToken, t.parts?_text]
  exact t.made

/-- What is read between separators is a token with its comparison. -/
theorem exists_of_parseToken {piece : List Char} {c : Comparison} (hfree : SeparatorFree piece)
    (h : parseToken piece = .ok c) : ∃ t : CheckedToken, t.text = piece ∧ t.comparison = c := by
  unfold parseToken at h
  split at h
  · rename_i key op value hparts
    obtain ⟨t, htext, rfl, rfl, rfl⟩ := Token.exists_of_parts? hfree hparts
    exact ⟨⟨t, c, h⟩, htext, rfl⟩
  · cases h

theorem exists_of_compiles {t : Token} (h : t.Compiles) : ∃ checked : CheckedToken, checked.toToken = t := by
  obtain ⟨c, hc⟩ := Comparison.exists_make_iff.2 h
  exact ⟨⟨t, c, hc⟩, rfl⟩

theorem compiles (t : CheckedToken) : t.Compiles := Comparison.exists_make_iff.1 ⟨t.comparison, t.made⟩

theorem key_comparison (t : CheckedToken) : t.comparison.key = String.ofList t.key := by
  obtain ⟨-, h⟩ | ⟨-, p, -, h⟩ := Comparison.make_eq_ok_iff.1 t.made <;> rw [h]

theorem op_comparison (t : CheckedToken) : t.comparison.op = t.op := by
  obtain ⟨-, h⟩ | ⟨-, p, -, h⟩ := Comparison.make_eq_ok_iff.1 t.made <;> rw [h]

theorem matchesTags_iff (t : CheckedToken) (tags : Tags) :
    t.comparison.matchesTags tags = true ↔ t.Matches tags := by
  simp only [Comparison.matchesTags, t.key_comparison, Option.any_eq_true, Token.Matches,
    Comparison.admits_iff_of_make t.made]

end CheckedToken
end Filter
end SeriesQuery
