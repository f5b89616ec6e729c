import Mathlib.Data.List.Infix
import SeriesQuery.Pattern.Reader
import SeriesQuery.Proofs.Checked.Binding

/-! # Readers that do not look behind what they read

A reader takes a text and answers what it has read with the text that is left. It is local when the answer does
not depend on what is left: with another text behind it the answer is the same, and so it is without one.
Local readers compose, which makes a reader local when the steps are that it is made of.

Two things are in the way of this at the end of a text. A comment there goes on in what is put behind, so that
something must be left, or there must be no sign for a comment and what is put behind must be a parenthesis.
And a reader may look at a character only to decide where it stops; then what it answers at the end of the text
has to satisfy a condition. Two readers are compared, since those that recurse have a bound as an argument, and
any two bounds beyond the length of a text are alike.
-/

namespace SeriesQuery.Pattern

open Text

/-- Answers with a text that is left. -/
class Leaves (β : Type) where
  rest : β → List Char
  put : β → List Char → β
  rest_put : ∀ b r, rest (put b r) = r
  put_rest : ∀ b, put b (rest b) = b
  put_put : ∀ b r s, put (put b r) s = put b s

namespace Leaves

instance text : Leaves (List Char) where
  rest r := r
  put _ r := r
  rest_put _ _ := rfl
  put_rest _ := rfl
  put_put _ _ _ := rfl

instance pair {α β : Type} [Leaves β] : Leaves (α × β) where
  rest b := rest b.2
  put b r := (b.1, put b.2 r)
  rest_put b := rest_put b.2
  put_rest b := Prod.ext rfl (put_rest b.2)
  put_put b r s := Prod.ext rfl (put_put b.2 r s)

variable {β : Type} [Leaves β]

def push (b : β) (k : List Char) : β := put b (rest b ++ k)

@[simp] theorem rest_push (b : β) (k : List Char) : rest (push b k) = rest b ++ k := rest_put _ _

@[simp] theorem push_nil (b : β) : push b [] = b := by
  rw [push, List.append_nil, put_rest]

theorem push_put (b : β) (r k : List Char) : push (put b r) k = put b (r ++ k) := by
  rw [push, rest_put, put_put]

theorem eq_put_of_push_eq {b c : β} {r k : List Char} (h : push b k = put c (r ++ k)) : b = put c r := by
  have hrest : rest b ++ k = r ++ k := by rw [← rest_push, h, rest_put]
  rw [← put_rest b, List.append_cancel_right hrest, ← put_put b (rest b ++ k), ← push, h, put_put]

end Leaves

open Leaves

/-- Whether what is read of a text has nothing to do with what is put behind it. -/
def Apart (text left behind : List Char) : Prop :=
  left ≠ [] ∨ '#' ∉ text ∧ ∃ k, behind = ')' :: k

theorem Apart.of_suffix {text part left behind : List Char} (h : Apart text left behind) (hpart : part <:+ text) :
    Apart part left behind := by
  rcases h with h | ⟨hfree, hk⟩
  · exact .inl h
  · exact .inr ⟨fun hmem => hfree (hpart.subset hmem), hk⟩

theorem Apart.of_left {text left part behind : List Char} (h : Apart text part behind) (hpart : part <:+ left) :
    Apart text left behind := by
  rcases h with h | h
  · left
    rintro rfl
    exact h (List.suffix_nil.1 hpart)
  · exact .inr h

/-- Two readers answer alike, whatever stands behind what they read. -/
structure LocalIf {β : Type} [Leaves β] (settled : β → Prop) (m : Nat) (f g : List Char → Except Fault β) :
    Prop where
  suffix {t : List Char} {b : β} : f t = .ok b → rest b <:+ t
  extend {t k : List Char} {b : β} :
    f t = .ok b → Apart t (rest b) k → (t ++ k).length < m → g (t ++ k) = .ok (push b k)
  restrict {t k : List Char} {b : β} :
    f (t ++ k) = .ok (push b k) → settled b → t.length < m → g t = .ok b

/-- The readers need no condition at the end of a text. -/
abbrev Local {β : Type} [Leaves β] (m : Nat) (f g : List Char → Except Fault β) : Prop :=
  LocalIf (fun _ => True) m f g

section Skipping

variable {ignoring : Bool} {t r k : List Char} {c : Char}

theorem skipIgnored_suffix (inComment : Bool) (t : List Char) : skipIgnored inComment t <:+ t := by
  induction t generalizing inComment with
  | nil => exact List.suffix_rfl
  | cons d t ih =>
    rw [skipIgnored]
    split
    · exact (ih _).trans (List.suffix_cons d t)
    · split
      · exact (ih _).trans (List.suffix_cons d t)
      · split
        · exact (ih _).trans (List.suffix_cons d t)
        · exact List.suffix_rfl

theorem skip_suffix (ignoring : Bool) (t : List Char) : skip ignoring t <:+ t := by
  cases ignoring with
  | false => exact List.suffix_rfl
  | true => exact skipIgnored_suffix false t

/-- Where the skipped part ends in front of what is put behind, that makes no difference; otherwise skipping goes
on there, in a comment only when one has begun. -/
theorem skipIgnored_append (inComment : Bool) (t k : List Char) :
    (∃ c r, skipIgnored inComment t = c :: r ∧ skipIgnored inComment (t ++ k) = c :: (r ++ k) ∧
      isBlank c = false ∧ c ≠ '#') ∨
    skipIgnored inComment t = [] ∧ ∃ still, skipIgnored inComment (t ++ k) = skipIgnored still k ∧
      (inComment = false → '#' ∉ t → still = false) := by
  induction t generalizing inComment with
  | nil => exact .inr ⟨rfl, inComment, rfl, fun h _ => h⟩
  | cons c t ih =>
    rw [List.cons_append, skipIgnored, skipIgnored]
    by_cases hcomment : inComment
    · simp only [hcomment, if_true]
      rcases ih (decide (c ≠ '\n')) with h | ⟨hnil, still, hstill, -⟩
      · exact .inl h
      · exact .inr ⟨hnil, still, hstill, nofun⟩
    · rw [if_neg hcomment, if_neg hcomment]
      by_cases hblank : isBlank c
      · rw [if_pos hblank, if_pos hblank]
        rcases ih false with h | ⟨hnil, still, hstill, hfree⟩
        · exact .inl h
        · refine .inr ⟨hnil, still, hstill, fun _ hmem => hfree rfl ?_⟩
          exact fun h => hmem (List.mem_cons_of_mem c h)
      · rw [if_neg hblank, if_neg hblank]
        by_cases hsign : c = '#'
        · rw [if_pos hsign, if_pos hsign]
          rcases ih true with h | ⟨hnil, still, hstill, -⟩
          · exact .inl h
          · refine .inr ⟨hnil, still, hstill, fun _ hmem => absurd ?_ hmem⟩
            rw [hsign]
            exact List.mem_cons_self
        · rw [if_neg hsign, if_neg hsign]
          exact .inl ⟨c, t, rfl, rfl, by simpa using hblank, hsign⟩

theorem skip_append_of_cons (h : skip ignoring t = c :: r) (k : List Char) :
    skip ignoring (t ++ k) = c :: (r ++ k) := by
  cases ignoring with
  | false => exact congrArg (· ++ k) h
  | true =>
    rcases skipIgnored_append false t k with ⟨d, s, hd, hk, -⟩ | ⟨hnil, -⟩
    · cases hd.symm.trans h
      exact hk
    · cases hnil.symm.trans h

theorem skip_append_of_nil (h : skip ignoring t = []) (k : List Char) : skip ignoring (t ++ k) <:+ k := by
  cases ignoring with
  | false =>
    cases (show t = [] from h)
    exact List.suffix_rfl
  | true =>
    rcases skipIgnored_append false t k with ⟨d, s, hd, -⟩ | ⟨-, still, hk, -⟩
    · cases hd.symm.trans h
    · have hskip : skip true (t ++ k) = skipIgnored still k := hk
      rw [hskip]
      exact skipIgnored_suffix still k

theorem skip_append_parenthesis (h : skip ignoring t = []) (hfree : '#' ∉ t) (k : List Char) :
    skip ignoring (t ++ ')' :: k) = ')' :: k := by
  cases ignoring with
  | false =>
    cases (show t = [] from h)
    rfl
  | true =>
    rcases skipIgnored_append false t (')' :: k) with ⟨d, s, hd, -⟩ | ⟨-, still, hk, hstill⟩
    · cases hd.symm.trans h
    · cases hstill rfl hfree
      exact hk

/-- Whether a character is skipped does not depend on those behind it. -/
theorem skip_cons_of_skip (h : skip ignoring t = c :: r) (s : List Char) : skip ignoring (c :: s) = c :: s := by
  cases ignoring with
  | false => rfl
  | true =>
    rcases skipIgnored_append false t [] with ⟨d, s', hd, -, hblank, hsign⟩ | ⟨hnil, -⟩
    · cases hd.symm.trans h
      simp [skip, skipIgnored, hblank, hsign]
    · cases hnil.symm.trans h

@[simp] theorem skip_skip (ignoring : Bool) (t : List Char) : skip ignoring (skip ignoring t) = skip ignoring t := by
  cases h : skip ignoring t with
  | nil => cases ignoring <;> rfl
  | cons c r => exact skip_cons_of_skip h r

end Skipping

/-- What is left of a text with more behind it, and has more left in turn, is left of the text. -/
theorem exists_append_of_suffix {r s t k : List Char} (hr : r ++ k <:+ s) (hs : s <:+ t ++ k) :
    ∃ u, s = u ++ k ∧ r <:+ u ∧ u <:+ t := by
  rcases hr with ⟨p, rfl⟩
  rw [← List.append_assoc] at hs ⊢
  exact ⟨p ++ r, rfl, List.suffix_append p r, List.suffix_append_self_iff.1 hs⟩

theorem eq_nil_of_append_suffix {r k : List Char} (h : r ++ k <:+ k) : r = [] := by
  have hle := h.length_le
  rw [List.length_append] at hle
  exact List.eq_nil_of_length_eq_zero (by omega)

theorem skip_eq_of_append {ignoring : Bool} {t r k : List Char} (h : skip ignoring (t ++ k) = r ++ k) :
    skip ignoring t = r := by
  cases hs : skip ignoring t with
  | nil =>
    have hsuffix := skip_append_of_nil hs k
    rw [h] at hsuffix
    rw [eq_nil_of_append_suffix hsuffix]
  | cons c s =>
    rw [skip_append_of_cons hs, ← List.cons_append] at h
    rw [List.append_cancel_right h]

theorem error_ne_ok {β : Type} (fault : Fault) (b : β) : Except.error fault ≠ Except.ok b := by
  intro h
  cases h

def ofOption {β : Type} : Option β → Except Fault β
  | some b => .ok b
  | none => .error .unclosedGroup

theorem ofOption_map {β γ : Type} (f : β → γ) (o : Option β) :
    ofOption (o.map f) = ofOption o >>= fun b => .ok (f b) := by
  cases o <;> rfl

theorem ofOption_eq_ok_iff {β : Type} {o : Option β} {b : β} : ofOption o = .ok b ↔ o = some b := by
  cases o with
  | none => exact iff_of_false nofun nofun
  | some b' =>
    constructor
    · rintro ⟨⟩
      rfl
    · rintro ⟨⟩
      rfl

namespace LocalIf

variable {β γ : Type} [Leaves β] [Leaves γ] {P : β → Prop} {Q : γ → Prop} {m : Nat}

theorem mono {P' : β → Prop} {m' : Nat} {f g : List Char → Except Fault β} (h : LocalIf P m f g)
    (hP : ∀ b, P' b → P b) (hm : m' ≤ m) : LocalIf P' m' f g where
  suffix := h.suffix
  extend hf hapart hlen := h.extend hf hapart (Nat.lt_of_lt_of_le hlen hm)
  restrict hf hb hlen := h.restrict hf (hP _ hb) (Nat.lt_of_lt_of_le hlen hm)

theorem lower {f g : List Char → Except Fault β} (h : LocalIf P (m + 1) f g) : LocalIf P m f g :=
  h.mono (fun _ hb => hb) (Nat.le_succ m)

/-- No text is shorter than nothing. -/
theorem zero {f g g' : List Char → Except Fault β} (h : LocalIf P m f g) : LocalIf P 0 f g' where
  suffix := h.suffix
  extend _ _ hlen := absurd hlen (Nat.not_lt_zero _)
  restrict _ _ hlen := absurd hlen (Nat.not_lt_zero _)

/-- Only what is answered counts, not why nothing is. -/
theorem congr {f g f' g' : List Char → Except Fault β} (h : LocalIf P m f g)
    (hf : ∀ t b, f' t = .ok b ↔ f t = .ok b) (hg : ∀ t b, g' t = .ok b ↔ g t = .ok b) :
    LocalIf P m f' g' where
  suffix hread := h.suffix ((hf _ _).1 hread)
  extend hread hapart hlen := (hg _ _).2 (h.extend ((hf _ _).1 hread) hapart hlen)
  restrict hread hb hlen := (hg _ _).2 (h.restrict ((hf _ _).1 hread) hb hlen)

theorem fails {f g : List Char → Except Fault β} (h : ∀ t b, f t ≠ .ok b) : LocalIf P m f g where
  suffix hf := absurd hf (h _ _)
  extend hf := absurd hf (h _ _)
  restrict hf := absurd hf (h _ _)

theorem pure (b : β) : LocalIf P m (fun t => .ok (put b t)) (fun t => .ok (put b t)) where
  suffix h := by
    cases h
    rw [rest_put]
  extend h _ _ := by
    cases h
    rw [push_put]
  restrict h _ _ := by
    rw [eq_put_of_push_eq (Except.ok.inj h).symm]

/-- A step that has nothing to do with the text. -/
theorem const_bind {α : Type} (x : Except Fault α) {f g : α → List Char → Except Fault β}
    (h : ∀ a, LocalIf P m (f a) (g a)) : LocalIf P m (fun t => x >>= fun a => f a t) (fun t => x >>= fun a => g a t) := by
  cases x with
  | error e => exact fails nofun
  | ok a => exact h a

/-- One reader behind the other. What the second one reads has to tell that the condition of the first one
holds. -/
theorem bind {f f' : List Char → Except Fault β} {g g' : β → Except Fault γ} (hf : LocalIf P m f f')
    (hg : ∀ b, LocalIf Q m (fun r => g (put b r)) (fun r => g' (put b r)))
    (hP : ∀ {b c k}, g (push b k) = .ok (push c k) → Q c → P b) :
    LocalIf Q m (fun t => f t >>= g) (fun t => f' t >>= g') where
  suffix {t c} h := by
    rcases Except.bind_eq_ok_iff.1 h with ⟨b, hb, hc⟩
    rw [← put_rest b] at hc
    exact ((hg b).suffix hc).trans (hf.suffix hb)
  extend {t k c} h hapart hlen := by
    rcases Except.bind_eq_ok_iff.1 h with ⟨b, hb, hc⟩
    have hfirst := hf.suffix hb
    rw [← put_rest b] at hc
    have hsecond := (hg b).suffix hc
    have hshort : (rest b ++ k).length < m := by
      have hle := hfirst.length_le
      simp only [List.length_append] at hlen ⊢
      omega
    refine Except.bind_eq_ok_iff.2 ⟨push b k, hf.extend hb (hapart.of_left hsecond) hlen, ?_⟩
    exact (hg b).extend hc (hapart.of_suffix hfirst) hshort
  restrict {t k c} h hc hlen := by
    rcases Except.bind_eq_ok_iff.1 h with ⟨b, hb, hread⟩
    have hsecond : rest c ++ k <:+ rest b := by
      rw [← put_rest b] at hread
      rw [← rest_push]
      exact (hg b).suffix hread
    rcases exists_append_of_suffix hsecond (hf.suffix hb) with ⟨u, hu, -, hut⟩
    have hpush : b = push (put b u) k := by rw [push_put, ← hu, put_rest]
    rw [hpush] at hb hread
    refine Except.bind_eq_ok_iff.2 ⟨put b u, hf.restrict hb (hP hread hc) hlen, ?_⟩
    rw [push_put] at hread
    exact (hg b).restrict hread hc (Nat.lt_of_le_of_lt hut.length_le hlen)

/-- One reader behind another one that needs no condition. -/
theorem andThen {f f' : List Char → Except Fault β} {g g' : β → Except Fault γ} (hf : Local m f f')
    (hg : ∀ b, LocalIf Q m (fun r => g (put b r)) (fun r => g' (put b r))) :
    LocalIf Q m (fun t => f t >>= g) (fun t => f' t >>= g') :=
  hf.bind hg fun _ _ => trivial

/-- A reader behind a function that is one and cannot be refused. -/
theorem comp {f f' : List Char → β} (g g' : β → Except Fault γ)
    (hf : Local m (fun t => .ok (f t)) (fun t => .ok (f' t)))
    (hg : ∀ b, LocalIf Q m (fun r => g (put b r)) (fun r => g' (put b r))) :
    LocalIf Q m (fun t => g (f t)) (fun t => g' (f' t)) :=
  hf.andThen hg

/-- Skipping what is ignored. -/
theorem skip (ignoring : Bool) :
    LocalIf (β := List Char) (fun _ => True) m (fun t => .ok (Pattern.skip ignoring t))
      (fun t => .ok (Pattern.skip ignoring t)) where
  suffix h := by
    cases h
    exact skip_suffix ignoring _
  extend {t k b} h hapart _ := by
    cases h
    cases hs : Pattern.skip ignoring t with
    | nil =>
      rw [hs] at hapart
      rcases hapart with hne | ⟨hfree, k, rfl⟩
      · exact absurd rfl hne
      · rw [skip_append_parenthesis hs hfree]
        rfl
    | cons c r =>
      rw [skip_append_of_cons hs]
      rfl
  restrict h _ _ := congrArg Except.ok (skip_eq_of_append (Except.ok.inj h))

section Heads

variable {ignoring : Bool} {f g : List Char → Except Fault β}
  (hf : ∀ t, f (Pattern.skip ignoring t) = f t) (hg : ∀ t, g (Pattern.skip ignoring t) = g t)
  (nil : ∀ b, f [] = .ok b → rest b = [] ∧ g [] = .ok b ∧ ∀ k, g (')' :: k) = .ok (put b (')' :: k)))
  (cons : ∀ c, (∀ r, Pattern.skip ignoring (c :: r) = c :: r) →
    LocalIf P m (fun r => f (c :: r)) (fun r => g (c :: r)) ∨
      ∃ b, (∀ r, f (c :: r) = .ok (put b (c :: r)) ∧ g (c :: r) = .ok (put b (c :: r))) ∧
        (P (put b []) → g [] = .ok (put b [])))

include hf nil cons in
theorem suffix_of_head {t : List Char} {b : β} (h : f t = .ok b) : rest b <:+ t := by
  rw [← hf] at h
  refine List.IsSuffix.trans ?_ (skip_suffix ignoring t)
  cases hs : Pattern.skip ignoring t with
  | nil =>
    rw [hs] at h
    rw [(nil b h).1]
  | cons c r =>
    rw [hs] at h
    rcases cons c fun r' => skip_cons_of_skip hs r' with hlocal | ⟨b, hstop, -⟩
    · exact (hlocal.suffix h).trans (List.suffix_cons c r)
    · cases h.symm.trans (hstop r).1
      rw [rest_put]

include hf hg nil cons in
theorem extend_of_head {t k : List Char} {b : β} (h : f t = .ok b) (hapart : Apart t (rest b) k)
    (hlen : (t ++ k).length < m + 1) : g (t ++ k) = .ok (push b k) := by
  rw [← hf] at h
  rw [← hg]
  cases hs : Pattern.skip ignoring t with
  | nil =>
    rw [hs] at h
    rcases nil b h with ⟨hrest, -, hparenthesis⟩
    rcases hapart with hne | ⟨hfree, k, rfl⟩
    · exact absurd hrest hne
    · rw [skip_append_parenthesis hs hfree, hparenthesis, push, hrest]
      rfl
  | cons c r =>
    rw [hs] at h
    rw [skip_append_of_cons hs]
    have hpart : c :: r <:+ t := hs ▸ skip_suffix ignoring t
    rcases cons c fun r' => skip_cons_of_skip hs r' with hlocal | ⟨b, hstop, -⟩
    · apply hlocal.extend h (hapart.of_suffix ((List.suffix_cons c r).trans hpart))
      have hle := hpart.length_le
      simp only [List.length_append, List.length_cons] at hle hlen ⊢
      omega
    · cases h.symm.trans (hstop r).1
      rw [push_put]
      exact (hstop _).2

include hf nil cons in
/-- Where nothing of a text is left to begin with, the reader stops at the start of what is behind it. -/
theorem restrict_of_head_nil {t k : List Char} {b : β} (h : f (t ++ k) = .ok (push b k)) (hb : P b)
    (hs : Pattern.skip ignoring t = []) : g [] = .ok b := by
  have hbehind := skip_append_of_nil hs k
  have hrest := suffix_of_head hf nil cons ((hf _).trans h)
  rw [rest_push] at hrest
  have hnil := eq_nil_of_append_suffix (hrest.trans hbehind)
  rw [hnil, List.nil_append] at hrest
  have hskip : Pattern.skip ignoring (t ++ k) = k := hbehind.eq_of_length_le hrest.length_le
  rw [← hf, hskip] at h
  cases k with
  | nil =>
    rw [push_nil] at h
    exact (nil b h).2.1
  | cons c k =>
    rcases cons c fun r' => skip_cons_of_skip hskip r' with hlocal | ⟨b₀, hstop, hend⟩
    · have hle := (hlocal.suffix h).length_le
      rw [rest_push] at hle
      simp only [List.length_append, List.length_cons] at hle
      omega
    · have hpush : push b (c :: k) = put b₀ ([] ++ c :: k) := Except.ok.inj (h.symm.trans (hstop k).1)
      rw [eq_put_of_push_eq hpush] at hb ⊢
      exact hend hb

include hf hg nil cons in
theorem restrict_of_head {t k : List Char} {b : β} (h : f (t ++ k) = .ok (push b k)) (hb : P b)
    (hlen : t.length < m + 1) : g t = .ok b := by
  rw [← hg]
  cases hs : Pattern.skip ignoring t with
  | nil => exact restrict_of_head_nil hf nil cons h hb hs
  | cons c r =>
    rw [← hf, skip_append_of_cons hs] at h
    rcases cons c fun r' => skip_cons_of_skip hs r' with hlocal | ⟨b₀, hstop, -⟩
    · apply hlocal.restrict h hb
      have hle := (hs ▸ skip_suffix ignoring t : c :: r <:+ t).length_le
      simp only [List.length_cons] at hle
      omega
    · have hpush := Except.ok.inj (h.symm.trans (hstop (r ++ k)).1)
      rw [← List.cons_append] at hpush
      rw [eq_put_of_push_eq hpush]
      exact (hstop r).2

variable (ignoring) in
include hf hg nil cons in
/-- A reader by its first character that is not skipped. It goes on behind the character, or it stops there and
leaves the character. Where it may stop, it also has to stop at the end of a text. -/
theorem of_head : LocalIf P (m + 1) f g where
  suffix := suffix_of_head hf nil cons
  extend := extend_of_head hf hg nil cons
  restrict := restrict_of_head hf hg nil cons

end Heads

/-- A reader that goes on behind one certain character, and otherwise is another one that reads no empty text. -/
theorem or_head (x : Char) {f g f₁ g₁ f₂ g₂ : List Char → Except Fault β} (h₁ : LocalIf P m f₁ g₁)
    (h₂ : LocalIf P m f₂ g₂) (hf : ∀ r, f (x :: r) = f₁ r) (hg : ∀ r, g (x :: r) = g₁ r)
    (hf₂ : ∀ c r, c ≠ x → f (c :: r) = f₂ (c :: r)) (hg₂ : ∀ c r, c ≠ x → g (c :: r) = g₂ (c :: r))
    (hnil : ∀ b, f [] ≠ .ok b) (hnil₂ : ∀ b, g₂ [] ≠ .ok b) : LocalIf P m f g where
  suffix {t b} h := by
    cases t with
    | nil => exact absurd h (hnil b)
    | cons c r =>
      by_cases hc : c = x
      · subst hc
        rw [hf] at h
        exact (h₁.suffix h).trans (List.suffix_cons c r)
      · rw [hf₂ c r hc] at h
        exact h₂.suffix h
  extend {t k b} h hapart hlen := by
    cases t with
    | nil => exact absurd h (hnil b)
    | cons c r =>
      by_cases hc : c = x
      · subst hc
        rw [hf] at h
        rw [List.cons_append, hg]
        apply h₁.extend h (hapart.of_suffix (List.suffix_cons c r))
        simp only [List.length_append, List.length_cons] at hlen ⊢
        omega
      · rw [hf₂ c r hc] at h
        rw [List.cons_append, hg₂ c _ hc]
        exact h₂.extend h hapart hlen
  restrict {t k b} h hb hlen := by
    cases t with
    | nil =>
      rw [List.nil_append] at h
      cases k with
      | nil =>
        rw [push_nil] at h
        exact absurd h (hnil b)
      | cons c k =>
        by_cases hc : c = x
        · subst hc
          rw [hf] at h
          have hle := (h₁.suffix h).length_le
          rw [rest_push] at hle
          simp only [List.length_append, List.length_cons] at hle
          omega
        · rw [hf₂ c k hc] at h
          have hend : g₂ [] = .ok b := h₂.restrict (t := []) h hb hlen
          exact absurd hend (hnil₂ b)
    | cons c r =>
      rw [List.cons_append] at h
      by_cases hc : c = x
      · subst hc
        rw [hf] at h
        rw [hg]
        exact h₁.restrict h hb (Nat.lt_of_succ_lt hlen)
      · rw [hf₂ c _ hc] at h
        rw [hg₂ c r hc]
        exact h₂.restrict (t := c :: r) h hb hlen

/-- Readers with a bound, which is beyond the length of the text. -/
theorem bounded {F : Nat → List Char → Except Fault β} (h : ∀ n m, LocalIf P m (F n) (F m)) (m : Nat) :
    LocalIf P m (fun t => F (t.length + 1) t) (fun t => F (t.length + 1) t) where
  suffix hread := (h _ 0).suffix hread
  extend hread hapart _ := (h _ _).extend hread hapart (Nat.lt_succ_self _)
  restrict hread hb _ := (h _ _).restrict hread hb (Nat.lt_succ_self _)

/-- A reader by its first character. -/
theorem of_cons {f g : List Char → Except Fault β}
    (nil : ∀ b, f [] = .ok b → rest b = [] ∧ g [] = .ok b ∧ ∀ k, g (')' :: k) = .ok (put b (')' :: k)))
    (cons : ∀ c, LocalIf P m (fun r => f (c :: r)) (fun r => g (c :: r)) ∨
        ∃ b, (∀ r, f (c :: r) = .ok (put b (c :: r)) ∧ g (c :: r) = .ok (put b (c :: r))) ∧
          (P (put b []) → g [] = .ok (put b []))) :
    LocalIf P (m + 1) f g :=
  .of_head false (fun _ => rfl) (fun _ => rfl) nil fun c _ => cons c

/-- A reader that is refused unless the text begins with one certain character. -/
theorem closing (x : Char) {f g f₁ g₁ : List Char → Except Fault β} (h₁ : LocalIf P m f₁ g₁)
    (hf : ∀ r, f (x :: r) = f₁ r) (hg : ∀ r, g (x :: r) = g₁ r)
    (hother : ∀ t b, (∀ r, t ≠ x :: r) → f t ≠ .ok b) : LocalIf P m f g := by
  refine lower (.of_cons ?_ fun c => .inl ?_)
  · exact fun b h => absurd h (hother [] b nofun)
  · by_cases hc : c = x
    · subst hc
      simp only [hf, hg]
      exact h₁
    · exact .fails fun r b => hother (c :: r) b fun s h => hc (List.cons.inj h).1

/-- A reader that answers when the text begins with one of certain texts. -/
theorem of_start {f : List Char → Except Fault β} (reads : List Char → β → Prop)
    (hput : ∀ p b r, reads p (put b r) ↔ reads p b) (hf : ∀ t b, f t = .ok b ↔ ∃ p, reads p b ∧ t = p ++ rest b) :
    Local m f f where
  suffix h := by
    rcases (hf _ _).1 h with ⟨p, -, rfl⟩
    exact List.suffix_append p _
  extend {t k b} h _ _ := by
    rcases (hf _ _).1 h with ⟨p, hp, rfl⟩
    rw [hf]
    refine ⟨p, (hput p b _).2 hp, ?_⟩
    rw [rest_push, List.append_assoc]
  restrict {t k b} h _ _ := by
    rcases (hf _ _).1 h with ⟨p, hp, ht⟩
    rw [hf]
    refine ⟨p, (hput p b _).1 hp, ?_⟩
    rw [rest_push, ← List.append_assoc] at ht
    exact List.append_cancel_right ht

/-- A reader that is tried first, and another one where it answers nothing. What the other one answers has to settle
that the first one is not in question. -/
theorem orElse {f : List Char → Option β} {g₁ g₁' : β → Except Fault γ} {g₂ g₂' : List Char → Except Fault γ}
    (hf : Local m (fun t => ofOption (f t)) (fun t => ofOption (f t)))
    (h₁ : ∀ b, LocalIf Q m (fun r => g₁ (put b r)) (fun r => g₁' (put b r))) (h₂ : LocalIf Q m g₂ g₂')
    (hnone : ∀ {t k c}, g₂ t = .ok c ∨ g₂ (t ++ k) = .ok (push c k) → (f (t ++ k) = none ↔ f t = none)) :
    LocalIf Q m (fun t => (f t).elim (g₂ t) g₁) (fun t => (f t).elim (g₂' t) g₁') := by
  have hfirst := hf.andThen h₁
  have helim {t : List Char} {c : γ} {g : β → Except Fault γ} {x : Except Fault γ}
      (h : (ofOption (f t) >>= g) = .ok c) : (f t).elim x g = .ok c := by
    cases hb : f t with
    | none =>
      rw [hb] at h
      cases h
    | some b =>
      rw [hb] at h
      exact h
  have hbind {t : List Char} {b : β} {c : γ} {x : Except Fault γ} (hb : f t = some b)
      (h : (f t).elim x g₁ = .ok c) : (ofOption (f t) >>= g₁) = .ok c := by
    rw [hb] at h ⊢
    exact h
  constructor
  case suffix =>
    intro t c h
    cases hb : f t with
    | none =>
      rw [hb] at h
      exact h₂.suffix h
    | some b => exact hfirst.suffix (hbind hb h)
  case extend =>
    intro t k c h hapart hlen
    cases hb : f t with
    | none =>
      rw [hb] at h
      rw [(hnone (.inl h)).2 hb]
      exact h₂.extend h hapart hlen
    | some b => exact helim (hfirst.extend (hbind hb h) hapart hlen)
  case restrict =>
    intro t k c h hc hlen
    cases hb : f (t ++ k) with
    | none =>
      rw [hb] at h
      rw [(hnone (.inr h)).1 hb]
      exact h₂.restrict h hc hlen
    | some b => exact helim (hfirst.restrict (hbind hb h) hc hlen)

end LocalIf

end SeriesQuery.Pattern
