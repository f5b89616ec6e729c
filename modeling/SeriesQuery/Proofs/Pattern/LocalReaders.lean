import SeriesQuery.Proofs.Pattern.Locality

/-! # The readers of escapes are local

Digits, what is in braces, and escapes are read up to where they end. A word boundary may have a name in braces
behind it, and what begins like one is refused where it is not finished, so that the end of a text has to settle
whether there is one.
-/

namespace SeriesQuery.Pattern

open Text Leaves

variable {m : Nat}

theorem skip_false (t : List Char) : skip false t = t := rfl

/-- A reader of all characters that pass a test, which skips what is ignored between them. -/
structure IsWhile {α : Type} (ignoring : Bool) (test : Char → Bool) (stop : α) (step : Char → α → α)
    (F : Nat → List Char → α × List Char) : Prop where
  zero (t : List Char) : F 0 t = (stop, t)
  nil (n : Nat) : F (n + 1) [] = (stop, [])
  cons (n : Nat) (c : Char) (r : List Char) : F (n + 1) (c :: r) =
    if test c then (step c (F n (skip ignoring r)).1, (F n (skip ignoring r)).2) else (stop, c :: r)

namespace IsWhile

variable {ignoring : Bool} {α : Type} {test : Char → Bool} {stop : α} {step : Char → α → α}
  {F : Nat → List Char → α × List Char}

theorem suffix (h : IsWhile ignoring test stop step F) (n : Nat) (t : List Char) : (F n t).2 <:+ t := by
  induction n generalizing t with
  | zero =>
    rw [h.zero]
  | succ n ih =>
    cases t with
    | nil =>
      rw [h.nil]
    | cons c r =>
      rw [h.cons]
      split
      · exact (ih _).trans ((skip_suffix ignoring r).trans (List.suffix_cons c r))
      · exact List.suffix_rfl

/-- Bounds beyond the length of the text make no difference. -/
theorem eq_of_length_le (h : IsWhile ignoring test stop step F) {n n' : Nat} {t : List Char} (hn : t.length ≤ n)
    (hn' : t.length ≤ n') : F n t = F n' t := by
  induction n generalizing t n' with
  | zero =>
    rw [List.eq_nil_of_length_eq_zero (Nat.le_zero.1 hn), h.zero]
    cases n' with
    | zero => rw [h.zero]
    | succ n' => rw [h.nil]
  | succ n ih =>
    cases n' with
    | zero => rw [List.eq_nil_of_length_eq_zero (Nat.le_zero.1 hn'), h.zero, h.nil]
    | succ n' =>
      cases t with
      | nil => rw [h.nil, h.nil]
      | cons c r =>
        have hlen := (skip_suffix ignoring r).length_le
        rw [List.length_cons] at hn hn'
        have hrest : F n (skip ignoring r) = F n' (skip ignoring r) := ih (by omega) (by omega)
        rw [h.cons, h.cons, hrest]

theorem isLocal (h : IsWhile ignoring test stop step F) (hparenthesis : test ')' = false) (m : Nat) :
    Local m (fun t => .ok (F t.length t)) (fun t => .ok (F t.length t)) := by
  induction m with
  | zero =>
    constructor
    case suffix =>
      rintro t _ ⟨⟩
      exact h.suffix t.length t
    all_goals
      intro t k b _ _ hlen
      exact absurd hlen (Nat.not_lt_zero _)
  | succ m ih =>
    have hstop (c : Char) (r : List Char) (hc : test c = false) : F (c :: r).length (c :: r) = (stop, c :: r) := by
      rw [List.length_cons, h.cons, hc]
      rfl
    refine .of_cons ?_ fun c => ?_
    · rintro _ ⟨⟩
      refine ⟨congrArg Prod.snd (h.zero []), rfl, fun k => ?_⟩
      rw [hstop ')' k hparenthesis, List.length_nil, h.zero]
      rfl
    · by_cases hc : test c
      · left
        have hstep (r : List Char) : F (c :: r).length (c :: r) =
            (step c (F (skip ignoring r).length (skip ignoring r)).1, (F (skip ignoring r).length (skip ignoring r)).2) := by
          rw [List.length_cons, h.cons, if_pos hc,
            h.eq_of_length_le (skip_suffix ignoring r).length_le (Nat.le_refl _)]
        simp only [hstep]
        have hrest : Local m (fun r => .ok (step c (F r.length r).1, (F r.length r).2))
            (fun r => .ok (step c (F r.length r).1, (F r.length r).2)) :=
          .comp (fun b => .ok (step c b.1, b.2)) (fun b => .ok (step c b.1, b.2)) ih fun b => .pure (step c b.1, b.2)
        exact .comp (fun r => .ok (step c (F r.length r).1, (F r.length r).2))
          (fun r => .ok (step c (F r.length r).1, (F r.length r).2)) (.skip ignoring) fun _ => hrest
      · right
        rw [Bool.not_eq_true] at hc
        refine ⟨(stop, []), fun r => ?_, fun _ => ?_⟩
        · rw [hstop c r hc]
          exact ⟨rfl, rfl⟩
        · rw [List.length_nil, h.zero]
          rfl

end IsWhile

theorem local_upToBrace (ignoring : Bool) (n m : Nat) :
    Local m (fun t => ofOption (upToBrace ignoring n t)) (fun t => ofOption (upToBrace ignoring m t)) := by
  induction n generalizing m with
  | zero => exact .fails nofun
  | succ n ih =>
    have main (m : Nat) : Local (m + 1) (fun t => ofOption (upToBrace ignoring (n + 1) t))
        (fun t => ofOption (upToBrace ignoring (m + 1) t)) := by
      refine .of_head ignoring ?_ ?_ ?_ fun c hc => .inl ?_
      · intro t
        simp only [upToBrace, skip_skip]
      · intro t
        simp only [upToBrace, skip_skip]
      · intro b h
        cases ignoring <;> cases h
      · by_cases hbrace : c = '\x7d'
        · subst hbrace
          simp only [upToBrace, hc]
          exact .pure (([], []) : List Char × List Char)
        · have hstep (n : Nat) (r : List Char) : upToBrace ignoring (n + 1) (c :: r) =
              (upToBrace ignoring n r).map fun b => (c :: b.1, b.2) := by
            simp [upToBrace, hc]
          simp only [hstep, ofOption_map]
          exact (ih m).andThen fun b => .pure (c :: b.1, b.2)
    cases m with
    | zero => exact (main 0).zero
    | succ m => exact main m

theorem local_hexDigits (ignoring : Bool) (n m : Nat) :
    Local m (hexDigits ignoring n) (hexDigits ignoring n) := by
  induction n with
  | zero => exact .pure (([], []) : List Char × List Char)
  | succ n ih =>
    refine LocalIf.lower (.of_head ignoring ?_ ?_ ?_ fun c hc => .inl ?_)
    · intro t
      simp only [hexDigits, skip_skip]
    · intro t
      simp only [hexDigits, skip_skip]
    · intro b h
      cases ignoring <;> cases h
    · simp only [hexDigits, hc]
      split
      · exact ih.andThen fun b => .pure (c :: b.1, b.2)
      · exact .fails nofun

/-- A reader of what is in braces, which is refused when the brace is not closed. -/
theorem LocalIf.inBraces {β : Type} [Leaves β] {P : β → Prop} (ignoring : Bool)
    {f : List Char → Except Fault β} (g : List Char × List Char → Except Fault β)
    (hf : ∀ t b, f t = .ok b ↔ (ofOption (upToBrace ignoring (t.length + 1) t) >>= g) = .ok b)
    (hg : ∀ name : List Char, LocalIf P m (fun r => g (name, r)) (fun r => g (name, r))) : LocalIf P m f f := by
  have hbounded := LocalIf.bounded (P := fun _ : List Char × List Char => True) (local_upToBrace ignoring) m
  exact (hbounded.andThen fun b => hg b.1).congr hf hf

theorem local_answer_skip {α : Type} (a : α) (ignoring : Bool) (m : Nat) :
    Local m (fun t => .ok (a, skip ignoring t)) (fun t => .ok (a, skip ignoring t)) :=
  .comp (fun t => .ok (a, t)) (fun t => .ok (a, t)) (.skip ignoring) fun b => .pure (a, b)

theorem local_readHex (ignoring : Bool) (kind : Char) (m : Nat) :
    Local m (readHex ignoring kind) (readHex ignoring kind) := by
  refine LocalIf.lower (.of_head ignoring ?_ ?_ ?_ fun c hc => .inl ?_)
  · intro t
    simp only [readHex, skip_skip]
  · intro t
    simp only [readHex, skip_skip]
  · intro b h
    cases ignoring <;> cases h
  · by_cases hbrace : c = '\x7b'
    · subst hbrace
      simp only [readHex, hc]
      refine .inBraces ignoring (fun b => if b.1.isEmpty || !b.1.all isHexDigit then .error .hexNumber
        else charOfHex b.1 >>= fun c => .ok (.char c, skip ignoring b.2)) ?_ fun name => ?_
      · intro t b
        cases upToBrace ignoring (t.length + 1) t with
        | none => exact iff_of_false nofun nofun
        | some b => exact Iff.rfl
      · by_cases hdigits : name.isEmpty || !name.all isHexDigit
        · simp only [hdigits, if_true]
          exact .fails nofun
        · simp only [hdigits]
          exact .const_bind _ fun c => local_answer_skip _ ignoring m
    · simp only [readHex, hc]
      -- All numbers of digits are at least two, so that the first one is a digit.
      obtain ⟨n, hn⟩ : ∃ n, (if kind = 'x' then 2 else if kind = 'u' then 4 else 8) = n + 1 := by
        split
        · exact ⟨1, rfl⟩
        · split
          · exact ⟨3, rfl⟩
          · exact ⟨7, rfl⟩
      simp only [hn, hexDigits, hc]
      by_cases hdigit : isHexDigit c
      · simp only [hdigit, if_true]
        have hread : Local m (fun r => hexDigits ignoring n r >>= fun b => .ok (c :: b.1, b.2))
            (fun r => hexDigits ignoring n r >>= fun b => .ok (c :: b.1, b.2)) :=
          (local_hexDigits ignoring n m).andThen fun b => .pure (c :: b.1, b.2)
        exact hread.andThen fun b => .const_bind (charOfHex b.1) fun d => local_answer_skip _ ignoring m
      · simp only [hdigit]
        exact .fails nofun

theorem local_readProperty (ignoring negated : Bool) (m : Nat) :
    Local m (readProperty ignoring negated) (readProperty ignoring negated) := by
  refine LocalIf.lower (.of_head ignoring ?_ ?_ ?_ fun c hc => .inl ?_)
  · intro t
    simp only [readProperty, skip_skip]
  · intro t
    simp only [readProperty, skip_skip]
  · intro b h
    cases ignoring <;> cases h
  · by_cases hbrace : c = '\x7b'
    · subst hbrace
      simp only [readProperty, hc]
      refine .inBraces ignoring (fun b => .ok (.property (propertyQuery b.1).1 (negated != (propertyQuery b.1).2), b.2))
        ?_ fun name => .pure ((Expr.property (propertyQuery name).1 (negated != (propertyQuery name).2), []) : Expr × List Char)
      intro t b
      cases upToBrace ignoring (t.length + 1) t with
      | none => exact iff_of_false nofun nofun
      | some b => exact Iff.rfl
    · by_cases hescape : c = '\\'
      · subst hescape
        simp only [readProperty, hc]
        exact .fails nofun
      · simp only [readProperty, hc]
        exact local_answer_skip _ ignoring m

/-- A boundary without a name in braces has to be told from one with a name. -/
def Settled (ignoring : Bool) (b : Expr × List Char) : Prop :=
  b.1 = .place (.word .either) → ∀ r, b.2 = '\x7b' :: r → skip ignoring r ≠ []

def namedBoundary (b : List Char × List Char) : Except Fault (Expr × List Char) :=
  match String.ofList b.1 with
  | "start" => .ok (.place (.word .start), b.2)
  | "end" => .ok (.place (.word .stop), b.2)
  | "start-half" => .ok (.place (.word .startHalf), b.2)
  | "end-half" => .ok (.place (.word .stopHalf), b.2)
  | _ => .error .wordBoundary

theorem local_namedBoundary (ignoring : Bool) (m : Nat) :
    Local m (fun t => ofOption (upToBrace ignoring (t.length + 1) t) >>= namedBoundary)
      (fun t => ofOption (upToBrace ignoring (t.length + 1) t) >>= namedBoundary) := by
  refine .inBraces ignoring namedBoundary (fun _ _ => Iff.rfl) fun name => ?_
  unfold namedBoundary
  dsimp only
  split
  · exact .pure ((Expr.place (.word .start), []) : Expr × List Char)
  · exact .pure ((Expr.place (.word .stop), []) : Expr × List Char)
  · exact .pure ((Expr.place (.word .startHalf), []) : Expr × List Char)
  · exact .pure ((Expr.place (.word .stopHalf), []) : Expr × List Char)
  · exact .fails nofun

theorem readBoundary_of_ne {c : Char} (h : c ≠ '\x7b') (ignoring : Bool) (r : List Char) :
    readBoundary ignoring (c :: r) = .ok (.place (.word .either), c :: r) := by
  rw [readBoundary]
  intro rest heq
  exact h (List.cons.inj heq).1

/-- A brace behind a boundary holds a name when what begins in it begins like one. -/
theorem readBoundary_brace_eq_ok_iff {ignoring : Bool} {r : List Char} {b : Expr × List Char} :
    readBoundary ignoring ('\x7b' :: r) = .ok b ↔ ∃ c s, skip ignoring r = c :: s ∧
      if c.isAlpha || c == '-' then
        (ofOption (upToBrace ignoring (r.length + 1) r) >>= namedBoundary) = .ok b
      else b = (.place (.word .either), '\x7b' :: r) := by
  rw [readBoundary]
  cases hs : skip ignoring r with
  | nil => simp
  | cons c s =>
    have hiff (P : Prop) : (∃ c' s', c :: s = c' :: s' ∧
        if c'.isAlpha || c' == '-' then
          (ofOption (upToBrace ignoring (r.length + 1) r) >>= namedBoundary) = .ok b else P) ↔
        if c.isAlpha || c == '-' then
          (ofOption (upToBrace ignoring (r.length + 1) r) >>= namedBoundary) = .ok b else P := by
      constructor
      · rintro ⟨_, _, ⟨⟩, h⟩
        exact h
      · intro h
        exact ⟨c, s, rfl, h⟩
    rw [hiff]
    by_cases hnamed : c.isAlpha || c == '-'
    · simp only [hnamed, Bool.not_true, Bool.false_eq_true, if_false, if_true]
      cases upToBrace ignoring (r.length + 1) r with
      | none => exact iff_of_false nofun nofun
      | some b => exact Iff.rfl
    · simp only [hnamed, Bool.false_eq_true, if_false]
      constructor
      · intro h
        exact (Except.ok.inj h).symm
      · rintro rfl
        rfl

section Boundaries

variable {ignoring : Bool} {r k : List Char} {b : Expr × List Char}

theorem suffix_of_readBoundary_brace (h : readBoundary ignoring ('\x7b' :: r) = .ok b) : b.2 <:+ '\x7b' :: r := by
  rcases readBoundary_brace_eq_ok_iff.1 h with ⟨c, s, -, h⟩
  split at h
  · exact ((local_namedBoundary ignoring 0).suffix h).trans (List.suffix_cons _ r)
  · subst h
    exact List.suffix_rfl

theorem readBoundary_brace_append (h : readBoundary ignoring ('\x7b' :: r) = .ok b) (hapart : Apart r b.2 k) :
    readBoundary ignoring ('\x7b' :: (r ++ k)) = .ok (push b k) := by
  rcases readBoundary_brace_eq_ok_iff.1 h with ⟨c, s, hs, h⟩
  refine readBoundary_brace_eq_ok_iff.2 ⟨c, s ++ k, skip_append_of_cons hs k, ?_⟩
  split at h
  · rename_i hnamed
    rw [if_pos hnamed]
    exact (local_namedBoundary ignoring _).extend h hapart (Nat.lt_succ_self _)
  · rename_i hnamed
    rw [if_neg hnamed, h]
    rfl

theorem readBoundary_brace_of_append (h : readBoundary ignoring ('\x7b' :: (r ++ k)) = .ok (push b k))
    (hb : Settled ignoring b) : readBoundary ignoring ('\x7b' :: r) = .ok b := by
  have hstop (hpush : push b k = (Expr.place (.word .either), '\x7b' :: (r ++ k))) :
      b = (.place (.word .either), '\x7b' :: r) :=
    eq_put_of_push_eq (c := (Expr.place (.word .either), [])) (r := '\x7b' :: r) hpush
  rcases readBoundary_brace_eq_ok_iff.1 h with ⟨c, s, hs, h⟩
  rw [readBoundary_brace_eq_ok_iff]
  cases hr : skip ignoring r with
  | nil =>
    -- A name would have to begin behind the text, and a boundary without a name is not settled.
    split at h
    · have hread := (local_namedBoundary ignoring _).restrict h trivial (Nat.lt_succ_self _)
      rw [upToBrace, hr] at hread
      cases hread
    · have heq := hstop h
      exact absurd hr (hb (congrArg Prod.fst heq) r (congrArg Prod.snd heq))
  | cons d s' =>
    cases hs.symm.trans (skip_append_of_cons hr k)
    refine ⟨c, s', rfl, ?_⟩
    split at h
    · rename_i hnamed
      rw [if_pos hnamed]
      exact (local_namedBoundary ignoring _).restrict h trivial (Nat.lt_succ_self _)
    · rename_i hnamed
      rw [if_neg hnamed]
      exact hstop h

/-- What leaves the brace has read no name. -/
theorem eq_of_readBoundary_brace (h : readBoundary ignoring ('\x7b' :: r) = .ok b) (hleft : r.length < b.2.length) :
    b = (.place (.word .either), '\x7b' :: r) := by
  rcases readBoundary_brace_eq_ok_iff.1 h with ⟨c, s, -, h⟩
  split at h
  · exact absurd ((local_namedBoundary ignoring 0).suffix h).length_le (Nat.not_le.2 hleft)
  · exact h

end Boundaries

theorem localIf_readBoundary (ignoring : Bool) (m : Nat) :
    LocalIf (Settled ignoring) m (readBoundary ignoring) (readBoundary ignoring) where
  suffix {t b} h := by
    cases t with
    | nil =>
      cases h
      exact List.suffix_rfl
    | cons c r =>
      by_cases hc : c = '\x7b'
      · subst hc
        exact suffix_of_readBoundary_brace h
      · cases (readBoundary_of_ne hc ignoring r).symm.trans h
        exact List.suffix_rfl
  extend {t k b} h hapart hlen := by
    cases t with
    | nil =>
      cases h
      rcases hapart with hne | ⟨-, k, rfl⟩
      · exact absurd rfl hne
      · rfl
    | cons c r =>
      by_cases hc : c = '\x7b'
      · subst hc
        exact readBoundary_brace_append h (hapart.of_suffix (List.suffix_cons _ r))
      · cases (readBoundary_of_ne hc ignoring r).symm.trans h
        exact readBoundary_of_ne hc ignoring (r ++ k)
  restrict {t k b} h hb hlen := by
    cases t with
    | nil =>
      cases k with
      | nil =>
        rw [push_nil] at h
        exact h
      | cons c k =>
        have hpush : push b (c :: k) = (Expr.place (.word .either), c :: k) := by
          by_cases hc : c = '\x7b'
          · subst hc
            have hlen : k.length < (b.2 ++ '\x7b' :: k).length := by
              simp only [List.length_append, List.length_cons]
              omega
            exact eq_of_readBoundary_brace h hlen
          · exact Except.ok.inj (h.symm.trans (readBoundary_of_ne hc ignoring k))
        rw [eq_put_of_push_eq (c := (Expr.place (.word .either), [])) (r := []) hpush]
        rfl
    | cons c r =>
      by_cases hc : c = '\x7b'
      · subst hc
        exact readBoundary_brace_of_append h hb
      · have hpush : push b k = (Expr.place (.word .either), c :: (r ++ k)) :=
          Except.ok.inj (h.symm.trans (readBoundary_of_ne hc ignoring (r ++ k)))
        rw [readBoundary_of_ne hc, eq_put_of_push_eq (c := (Expr.place (.word .either), [])) (r := c :: r) hpush]
        rfl

/-- What the character behind a backslash makes of the escape. -/
theorem readEscape_cases (ignoring : Bool) (c : Char) :
    (∀ r b, readEscape ignoring (c :: r) ≠ .ok b) ∨ (∃ e, ∀ r, readEscape ignoring (c :: r) = .ok (e, r)) ∨
      (∀ r, readEscape ignoring (c :: r) = readHex ignoring c r) ∨
      (∃ negated, ∀ r, readEscape ignoring (c :: r) = readProperty ignoring negated r) ∨
      ∀ r, readEscape ignoring (c :: r) = readBoundary ignoring r := by
  by_cases hdigit : c.isDigit
  · left
    intro r b
    rw [readEscape.eq_def]
    dsimp only
    rw [if_pos hdigit]
    nofun
  by_cases hplain : isPlainEscape c
  · right
    left
    refine ⟨.char c, fun r => ?_⟩
    rw [readEscape.eq_def]
    dsimp only
    rw [if_neg hdigit, if_pos hplain]
  by_cases hletter : c ∈ ['x', 'u', 'U', 'p', 'P', 'd', 'D', 's', 'S', 'w', 'W', 'a', 'f', 't', 'n', 'r', 'v', 'A', 'z',
      'b', 'B', '<', '>']
  · simp only [List.mem_cons, List.not_mem_nil, or_false] at hletter
    rcases hletter with rfl | rfl | rfl | rfl | rfl | rfl | rfl | rfl | rfl | rfl | rfl | rfl | rfl | rfl | rfl | rfl |
      rfl | rfl | rfl | rfl | rfl | rfl | rfl
    case inr.inr.inr.inl => exact .inr (.inr (.inr (.inl ⟨false, fun r => rfl⟩)))
    case inr.inr.inr.inr.inl => exact .inr (.inr (.inr (.inl ⟨true, fun r => rfl⟩)))
    all_goals first
      | exact .inr (.inr (.inl fun r => rfl))
      | exact .inr (.inr (.inr (.inr fun r => rfl)))
      | exact .inr (.inl ⟨_, fun r => rfl⟩)
  · left
    intro r b
    rw [readEscape.eq_def]
    dsimp only
    rw [if_neg hdigit, if_neg hplain]
    split
    case h_24 => nofun
    all_goals exact absurd (by decide) hletter

theorem localIf_readEscape (ignoring : Bool) (m : Nat) :
    LocalIf (Settled ignoring) m (readEscape ignoring) (readEscape ignoring) := by
  refine LocalIf.lower (.of_cons nofun fun c => .inl ?_)
  rcases readEscape_cases ignoring c with h | ⟨e, h⟩ | h | ⟨negated, h⟩ | h
  · exact .fails h
  · simp only [h]
    exact .pure (e, ([] : List Char))
  · simp only [h]
    exact (local_readHex ignoring c m).mono (fun _ _ => trivial) (Nat.le_refl m)
  · simp only [h]
    exact (local_readProperty ignoring negated m).mono (fun _ _ => trivial) (Nat.le_refl m)
  · simp only [h]
    exact localIf_readBoundary ignoring m

theorem localIf_readClassItem (ignoring : Bool) (c : Char) (m : Nat) :
    LocalIf (Settled ignoring) m (fun r => readClassItem ignoring (c :: r)) (fun r => readClassItem ignoring (c :: r)) := by
  by_cases hescape : c = '\\'
  · subst hescape
    exact localIf_readEscape ignoring m
  · have hchar (r : List Char) : readClassItem ignoring (c :: r) = .ok (.char c, r) := by
      simp [readClassItem]
    simp only [hchar]
    exact .pure (Expr.char c, ([] : List Char))

end SeriesQuery.Pattern
