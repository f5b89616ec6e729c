import Mathlib.Data.List.TakeWhile
import SeriesQuery.Proofs.Pattern.LocalReaders
import SeriesQuery.Proofs.Text.Cutting

/-! # The readers of classes are local

An operand that stops at a hyphen depends on what is behind the hyphen, and a bracket in a class on whether it
begins a named class. Both are settled once the closing bracket of the class has been read.
-/

namespace SeriesQuery.Pattern

open Text Leaves

variable {ignoring : Bool} {m : Nat}

theorem dropWhile_append_of_cons {α : Type} {test : α → Bool} {r s : List α} {c : α}
    (h : r.dropWhile test = c :: s) (k : List α) : (r ++ k).dropWhile test = c :: (s ++ k) := by
  rw [List.dropWhile_append, h]
  rfl

theorem peek?_append {r : List Char} {x : Char} (h : peek? ignoring r = some x) (k : List Char) :
    peek? ignoring (r ++ k) = some x := by
  have hhead {s : List Char} (hs : s.head? = some x) : (s ++ k).head? = some x := by
    rw [List.head?_append, hs]
    rfl
  cases ignoring with
  | false => exact hhead h
  | true =>
    simp only [peek?, if_true] at h ⊢
    cases hs : r.dropWhile isBlank with
    | nil => simp [hs] at h
    | cons c s =>
      rw [dropWhile_append_of_cons hs]
      rw [hs] at h
      by_cases hc : c = '#'
      · subst hc
        cases hu : s.dropWhile isBlank with
        | nil => simp [hu] at h
        | cons d u =>
          simp only [hu] at h
          simp only [dropWhile_append_of_cons hu]
          exact h
      · simpa [hc] using h

theorem mem_dropWhile_of_mem {α : Type} {test : α → Bool} {x : α} {r : List α} (hx : x ∈ r) (htest : test x = false) :
    x ∈ r.dropWhile test := by
  rw [← List.takeWhile_append_dropWhile (p := test) (l := r), List.mem_append] at hx
  rcases hx with hx | hx
  · cases (List.mem_takeWhile_imp hx).symm.trans htest
  · exact hx

/-- A character that is neither a blank nor begins a comment is seen, or another one before it. -/
theorem exists_peek?_of_mem {r : List Char} {x : Char} (hx : x ∈ r) (hblank : isBlank x = false) (hsign : x ≠ '#') :
    ∃ y, peek? ignoring r = some y := by
  have hhead {s : List Char} (hs : x ∈ s) : ∃ y, s.head? = some y :=
    ⟨s.head (List.ne_nil_of_mem hs), List.head?_eq_some_head _⟩
  cases ignoring with
  | false => exact hhead hx
  | true =>
    simp only [peek?, if_true]
    have hmem := mem_dropWhile_of_mem hx hblank
    split
    · rename_i s hs
      rw [hs] at hmem
      exact hhead (mem_dropWhile_of_mem (List.mem_of_ne_of_mem hsign hmem) hblank)
    · exact hhead hmem

theorem exists_peek?_of_skip {t r : List Char} {c : Char} (h : skip ignoring t = c :: r) :
    ∃ y, peek? ignoring t = some y := by
  cases ignoring with
  | false => exact ⟨c, congrArg List.head? (show t = c :: r from h)⟩
  | true =>
    have hmem : c ∈ t := (skip_suffix true t).subset (by rw [h]; exact List.mem_cons_self)
    have hkept := skip_cons_of_skip h []
    by_cases hblank : isBlank c
    · simp [skip, skipIgnored, hblank] at hkept
    by_cases hsign : c = '#'
    · simp [skip, skipIgnored, hsign] at hkept
    · exact exists_peek?_of_mem hmem (Bool.eq_false_iff.2 hblank) hsign

/-- What is between a first operand of a class and a range of it. -/
def StopsRange (ignoring : Bool) (behind : List Char) : Prop :=
  peek? ignoring behind = some ']' ∨ peek? ignoring behind = some '-'

def asRange (ignoring : Bool) (first : Expr) (text : List Char) : Except Fault (ClassExpr × List Char) :=
  readClassItem ignoring text >>= fun (last, after) => classBound first >>= fun low => classBound last >>= fun high =>
    if low ≤ high then .ok (.range low high, after) else .error .classRange

/-- What follows the first operand of a class. A hyphen makes a range of it, unless the class ends behind the
hyphen or another one follows. -/
def EndsOperand (ignoring : Bool) (first : Expr) (after : List Char) (b : ClassExpr × List Char) : Prop :=
  (∃ c s, skip ignoring after = c :: s ∧ (c = '-' → StopsRange ignoring s) ∧ classItem first = .ok b.1 ∧ b.2 = c :: s) ∨
  ∃ s c r, skip ignoring after = '-' :: s ∧ ¬ StopsRange ignoring s ∧ skip ignoring s = c :: r ∧
    asRange ignoring first (c :: r) = .ok b

theorem classItem_bind_eq_ok_iff {first : Expr} {after : List Char} {b : ClassExpr × List Char} :
    (classItem first >>= fun item => .ok (item, after)) = .ok b ↔ classItem first = .ok b.1 ∧ b.2 = after := by
  rw [Except.bind_eq_ok_iff]
  constructor
  · rintro ⟨item, hitem, ⟨⟩⟩
    exact ⟨hitem, rfl⟩
  · rintro ⟨hitem, rfl⟩
    exact ⟨b.1, hitem, rfl⟩

def endOperand (ignoring : Bool) (b : Expr × List Char) : Except Fault (ClassExpr × List Char) :=
  match skip ignoring b.2 with
  | [] => .error .unclosedClass
  | '-' :: rest =>
    if peek? ignoring rest = some ']' ∨ peek? ignoring rest = some '-' then
      classItem b.1 >>= fun item => .ok (item, '-' :: rest)
    else
      match skip ignoring rest with
      | [] => .error .unclosedClass
      | text@(_ :: _) => asRange ignoring b.1 text
  | after => classItem b.1 >>= fun item => .ok (item, after)

theorem readClassRange_eq (t : List Char) :
    readClassRange ignoring t = readClassItem ignoring t >>= endOperand ignoring := rfl

theorem endOperand_eq_ok_iff {first : Expr} {after : List Char} {b : ClassExpr × List Char} :
    endOperand ignoring (first, after) = .ok b ↔ EndsOperand ignoring first after b := by
  unfold EndsOperand endOperand
  dsimp only
  cases hs : skip ignoring after with
  | nil => simp
  | cons c s =>
    by_cases hc : c = '-'
    · subst hc
      by_cases hstops : StopsRange ignoring s
      · have hpeek := hstops
        rw [StopsRange] at hpeek
        simp [hpeek, hstops, classItem_bind_eq_ok_iff]
      · have hpeek := hstops
        rw [StopsRange] at hpeek
        cases hread : skip ignoring s with
        | nil => simp [hpeek, hstops, hread]
        | cons d r => simp [hpeek, hstops, hread]
    · simp [hc, classItem_bind_eq_ok_iff]

/-- Whether a range ends is settled by the character behind the hyphen, if there is one. -/
theorem stopsRange_append_iff {s : List Char} (h : ∃ y, peek? ignoring s = some y) (k : List Char) :
    StopsRange ignoring (s ++ k) ↔ StopsRange ignoring s := by
  rcases h with ⟨y, hy⟩
  rw [StopsRange, StopsRange, hy, peek?_append hy]

/-- An operand that is the bound of a range is no boundary of a word. -/
theorem localIf_asRange (first : Expr) (c : Char) :
    Local m (fun r => asRange ignoring first (c :: r)) (fun r => asRange ignoring first (c :: r)) := by
  refine (localIf_readClassItem ignoring c m).bind (fun b => ?_) ?_
  · refine .const_bind (classBound first) fun low => .const_bind (classBound b.1) fun high => ?_
    split
    · exact .pure (ClassExpr.range low high, ([] : List Char))
    · exact .fails nofun
  · intro b _ k hread _ hplace
    rcases Except.bind_eq_ok_iff.1 hread with ⟨low, -, hread⟩
    rcases Except.bind_eq_ok_iff.1 hread with ⟨high, hhigh, -⟩
    have hbound : classBound b.1 = .ok high := hhigh
    rw [hplace] at hbound
    cases hbound

theorem exists_peek?_of_stopsRange {s : List Char} (h : StopsRange ignoring s) : ∃ y, peek? ignoring s = some y := by
  rcases h with h | h
  · exact ⟨']', h⟩
  · exact ⟨'-', h⟩

theorem localIf_endOperand (first : Expr) :
    LocalIf (fun b => ']' ∈ b.2) m (fun r => endOperand ignoring (first, r)) (fun r => endOperand ignoring (first, r)) where
  suffix {t b} h := by
    rcases endOperand_eq_ok_iff.1 h with ⟨c, s, hs, -, -, hb⟩ | ⟨s, c, r, hs, -, hr, hread⟩
    · show b.2 <:+ t
      rw [hb, ← hs]
      exact skip_suffix ignoring t
    · have hfirst : s <:+ t := (List.suffix_cons '-' s).trans (hs ▸ skip_suffix ignoring t)
      have hsecond : r <:+ s := (List.suffix_cons c r).trans (hr ▸ skip_suffix ignoring s)
      exact ((localIf_asRange (m := 0) first c).suffix hread).trans (hsecond.trans hfirst)
  extend {t k b} h hapart hlen := by
    rw [endOperand_eq_ok_iff] at h ⊢
    rcases h with ⟨c, s, hs, hstops, hitem, hb⟩ | ⟨s, c, r, hs, hstops, hr, hread⟩
    · refine .inl ⟨c, s ++ k, skip_append_of_cons hs k, fun hc => ?_, hitem, congrArg (· ++ k) hb⟩
      rw [stopsRange_append_iff (exists_peek?_of_stopsRange (hstops hc))]
      exact hstops hc
    · refine .inr ⟨s ++ k, c, r ++ k, skip_append_of_cons hs k, ?_, skip_append_of_cons hr k, ?_⟩
      · rwa [stopsRange_append_iff (exists_peek?_of_skip hr)]
      · have hfirst : s <:+ t := (List.suffix_cons '-' s).trans (hs ▸ skip_suffix ignoring t)
        have hsecond : r <:+ s := (List.suffix_cons c r).trans (hr ▸ skip_suffix ignoring s)
        exact (localIf_asRange first c).extend hread (hapart.of_suffix (hsecond.trans hfirst)) (Nat.lt_succ_self _)
  restrict {t k b} h hclosed hlen := by
    rw [endOperand_eq_ok_iff] at h ⊢
    rcases h with ⟨c, s, hs, hstops, hitem, hb⟩ | ⟨s, c, r, hs, hstops, hr, hread⟩
    · have hleft : b.2 ++ k = c :: s := hb
      have hskip : skip ignoring t = b.2 := skip_eq_of_append (hs.trans hleft.symm)
      cases hrest : b.2 with
      | nil =>
        rw [hrest] at hclosed
        cases hclosed
      | cons d r =>
        rw [hrest, List.cons_append] at hleft
        cases hleft
        refine .inl ⟨c, r, hskip.trans hrest, fun hc => ?_, hitem, hrest⟩
        rw [hrest, hc] at hclosed
        have hmem := List.mem_of_ne_of_mem (by decide) hclosed
        exact (stopsRange_append_iff (exists_peek?_of_mem hmem (by decide) (by decide)) k).1 (hstops hc)
    · have hfirst : s <:+ t ++ k := (List.suffix_cons '-' s).trans (hs ▸ skip_suffix ignoring (t ++ k))
      have hsecond : r <:+ s := (List.suffix_cons c r).trans (hr ▸ skip_suffix ignoring s)
      have hthird : b.2 ++ k <:+ r := (localIf_asRange (m := 0) first c).suffix hread
      rcases exists_append_of_suffix (hthird.trans hsecond) hfirst with ⟨s, rfl, -, -⟩
      rcases exists_append_of_suffix hthird hsecond with ⟨r, rfl, -, -⟩
      have hr : skip ignoring s = c :: r := skip_eq_of_append hr
      refine .inr ⟨s, c, r, skip_eq_of_append hs, ?_, hr, ?_⟩
      · rwa [stopsRange_append_iff (exists_peek?_of_skip hr)] at hstops
      · exact (localIf_asRange first c).restrict hread trivial (Nat.lt_succ_self _)

theorem localIf_readClassRange (c : Char) :
    LocalIf (fun b => ']' ∈ b.2) m (fun r => readClassRange ignoring (c :: r))
      (fun r => readClassRange ignoring (c :: r)) := by
  simp only [readClassRange_eq]
  refine (localIf_readClassItem ignoring c m).bind (fun b => localIf_endOperand b.1) ?_
  intro b d k hread _ hplace
  have hnone : ¬ ∃ item, classItem b.1 = .ok item := by
    rintro ⟨item, hitem⟩
    rw [hplace] at hitem
    cases hitem
  rcases endOperand_eq_ok_iff.1 hread with ⟨_, _, -, -, hitem, -⟩ | ⟨_, _, _, -, -, -, hrange⟩
  · exact absurd ⟨_, hitem⟩ hnone
  · rcases Except.bind_eq_ok_iff.1 hrange with ⟨last, -, hbounds⟩
    rcases Except.bind_eq_ok_iff.1 hbounds with ⟨low, hlow, -⟩
    rw [hplace] at hlow
    cases hlow

/-- What the inside of a bracket is read from when it is a named class. -/
def NamesClass (p : List Char) (b : ClassExpr × List Char) : Prop :=
  ∃ negated name c, CharClass.posix? name = some c ∧ b.1 = .posix c negated ∧
    p = ':' :: (if negated then '^' :: name else name) ++ [':', ']']

theorem isLower_of_posix? {name : List Char} {c : CharClass} (h : CharClass.posix? name = some c) :
    ∀ d ∈ name, d.isLower := by
  rw [CharClass.posix?, Option.map_eq_some_iff] at h
  rcases h with ⟨e, he, -⟩
  have hname : e.1.toList = name := by simpa using List.find?_some he
  have hmem := List.mem_of_find?_eq_some he
  rw [← hname, ← List.all_eq_true]
  simp only [List.mem_cons, List.not_mem_nil, or_false] at hmem
  rcases hmem with rfl | rfl | rfl | rfl | rfl | rfl | rfl | rfl | rfl | rfl | rfl | rfl | rfl | rfl
  all_goals rfl

def posixName? (negated : Bool) (text : List Char) : Option (ClassExpr × List Char) :=
  match (cutAt ':' text).2 with
  | some (']' :: after) => (CharClass.posix? (cutAt ':' text).1).map fun c => (.posix c negated, after)
  | _ => none

theorem posixName?_eq_some_iff {negated : Bool} {t : List Char} {b : ClassExpr × List Char} :
    posixName? negated t = some b ↔
      ∃ name c, CharClass.posix? name = some c ∧ b.1 = .posix c negated ∧ t = name ++ ':' :: ']' :: b.2 := by
  unfold posixName?
  constructor
  · intro h
    split at h
    · rename_i after hafter
      rcases Option.map_eq_some_iff.1 h with ⟨c, hc, rfl⟩
      have hcut := (cutAt_eq_some_iff.1 (Prod.ext rfl hafter : cutAt ':' t = (_, some (']' :: after)))).2
      exact ⟨_, c, hc, rfl, hcut⟩
    · cases h
  · rintro ⟨name, c, hc, hitem, rfl⟩
    have hfree : ':' ∉ name := fun hmem => absurd (isLower_of_posix? hc ':' hmem) (by decide)
    simp only [cutAt_append hfree, hc, Option.map_some, ← hitem]

theorem readPosix?_caret (r : List Char) : readPosix? (':' :: '^' :: r) = posixName? true r := rfl

theorem readPosix?_of_ne {r : List Char} (h : ∀ s, r ≠ '^' :: s) : readPosix? (':' :: r) = posixName? false r := by
  rw [readPosix?]
  · rfl
  · exact h

theorem readPosix?_eq_some_iff {t : List Char} {b : ClassExpr × List Char} :
    readPosix? t = some b ↔ ∃ p, NamesClass p b ∧ t = p ++ b.2 := by
  constructor
  · intro h
    cases t with
    | nil => cases h
    | cons c r =>
      by_cases hc : c = ':'
      · subst hc
        by_cases hr : ∃ s, r = '^' :: s
        · rcases hr with ⟨s, rfl⟩
          rw [readPosix?_caret] at h
          rcases posixName?_eq_some_iff.1 h with ⟨name, c, hc, hitem, rfl⟩
          exact ⟨_, ⟨true, name, c, hc, hitem, rfl⟩, by simp⟩
        · rw [readPosix?_of_ne fun s hs => hr ⟨s, hs⟩] at h
          rcases posixName?_eq_some_iff.1 h with ⟨name, c, hc, hitem, rfl⟩
          exact ⟨_, ⟨false, name, c, hc, hitem, rfl⟩, by simp⟩
      · simp [readPosix?, hc] at h
  · rintro ⟨_, ⟨negated, name, c, hc, hitem, rfl⟩, rfl⟩
    have hname := posixName?_eq_some_iff.2 ⟨name, c, hc, hitem, rfl⟩
    cases negated with
    | true =>
      rw [← hname, ← readPosix?_caret]
      simp
    | false =>
      rw [← hname, ← readPosix?_of_ne]
      · simp
      · intro s hs
        cases name with
        | nil => cases hs
        | cons d name =>
          cases (List.cons.inj hs).1
          exact absurd (isLower_of_posix? hc '^' List.mem_cons_self) (by decide)

theorem local_readPosix? (m : Nat) :
    Local m (fun t => ofOption (readPosix? t)) (fun t => ofOption (readPosix? t)) :=
  .of_start NamesClass (fun _ _ _ => Iff.rfl) fun _ _ => ofOption_eq_ok_iff.trans readPosix?_eq_some_iff

/-- Before a closing bracket it is settled whether a named class begins. -/
theorem readPosix?_append_eq_none_iff {t : List Char} (hclosed : ']' ∈ t) (k : List Char) :
    readPosix? (t ++ k) = none ↔ readPosix? t = none := by
  have hsome (s : List Char) : readPosix? s ≠ none ↔ ∃ p b, NamesClass p b ∧ p <+: s := by
    rw [Option.ne_none_iff_exists']
    constructor
    · rintro ⟨b, hb⟩
      rcases readPosix?_eq_some_iff.1 hb with ⟨p, hp, rfl⟩
      exact ⟨p, b, hp, List.prefix_append p b.2⟩
    · rintro ⟨p, b, hp, r, rfl⟩
      exact ⟨(b.1, r), readPosix?_eq_some_iff.2 ⟨p, hp, rfl⟩⟩
  rw [← not_iff_not, ← ne_eq, ← ne_eq, hsome, hsome]
  refine exists_congr fun p => exists_congr fun b => and_congr_right fun hp => ?_
  constructor
  · intro hprefix
    rcases List.prefix_or_prefix_of_prefix hprefix (List.prefix_append t k) with h | h
    · exact h
    · rcases hp with ⟨negated, name, c, hc, -, rfl⟩
      have hname : ']' ∉ ':' :: (if negated then '^' :: name else name) ++ [':'] := by
        have hfree : ']' ∉ name := fun hmem => absurd (isLower_of_posix? hc ']' hmem) (by decide)
        cases negated <;> simp [hfree]
      have hsplit : ':' :: (if negated then '^' :: name else name) ++ [':', ']'] =
          (':' :: (if negated then '^' :: name else name) ++ [':']) ++ [']'] := by simp
      rw [hsplit] at h ⊢
      rcases List.prefix_concat_iff.1 h with h | h
      · exact h ▸ List.prefix_rfl
      · exact absurd (h.subset hclosed) hname
  · intro h
    exact h.trans (List.prefix_append t k)

def afterCaret (ignoring : Bool) : List Char → Bool × List Char
  | '^' :: rest => (true, skip ignoring rest)
  | text => (false, text)

theorem afterCaret_of_ne {c : Char} (hc : c ≠ '^') (r : List Char) : afterCaret ignoring (c :: r) = (false, c :: r) := by
  rw [afterCaret]
  rintro _ ⟨⟩
  exact hc rfl

/-- The members before those that are read as such: some hyphens, or a closing bracket. -/
def firstMembers (ignoring : Bool) : Nat × List Char → List ClassExpr × List Char
  | (0, ']' :: rest) => ([.char ']'], skip ignoring rest)
  | (n, text) => (List.replicate n (.char '-'), text)

theorem isWhile_leadingHyphens (ignoring : Bool) :
    IsWhile ignoring (· = '-') 0 (fun _ n => n + 1) (leadingHyphens ignoring) where
  zero _ := rfl
  nil _ := rfl
  cons n c r := by
    by_cases hc : c = '-'
    · simp [leadingHyphens, hc]
    · simp [leadingHyphens, hc]

theorem openClass_eq (t : List Char) : openClass ignoring t =
    ((afterCaret ignoring (skip ignoring t)).1, firstMembers ignoring
      (leadingHyphens ignoring (afterCaret ignoring (skip ignoring t)).2.length
        (afterCaret ignoring (skip ignoring t)).2)) := by
  have hmembers (negated : Bool) (b : Nat × List Char) : (match b with
      | (0, ']' :: rest) => (negated, [ClassExpr.char ']'], skip ignoring rest)
      | (n, text) => (negated, List.replicate n (ClassExpr.char '-'), text)) = (negated, firstMembers ignoring b) := by
    unfold firstMembers
    split <;> rfl
  unfold openClass
  cases skip ignoring t with
  | nil => rfl
  | cons c r =>
    by_cases hc : c = '^'
    · subst hc
      exact hmembers true _
    · rw [afterCaret_of_ne hc]
      have hne : ∀ rest, c :: r = '^' :: rest → False := by
        rintro _ ⟨⟩
        exact hc rfl
      simp only
      exact hmembers false _

theorem local_afterCaret (m : Nat) : Local m (fun t => .ok (afterCaret ignoring t)) (fun t => .ok (afterCaret ignoring t)) := by
  refine LocalIf.lower (.of_cons ?_ fun c => ?_)
  · rintro _ ⟨⟩
    exact ⟨rfl, rfl, fun k => rfl⟩
  · by_cases hc : c = '^'
    · subst hc
      exact .inl (local_answer_skip true ignoring m)
    · right
      refine ⟨(false, []), fun r => ?_, fun _ => rfl⟩
      rw [afterCaret_of_ne hc]
      exact ⟨rfl, rfl⟩

theorem local_firstMembers (n : Nat) (m : Nat) :
    Local m (fun t => .ok (firstMembers ignoring (n, t))) (fun t => .ok (firstMembers ignoring (n, t))) := by
  refine LocalIf.lower (.of_cons ?_ fun c => ?_)
  · rintro _ ⟨⟩
    cases n with
    | zero => exact ⟨rfl, rfl, fun k => rfl⟩
    | succ n => exact ⟨rfl, rfl, fun k => rfl⟩
  · by_cases hc : n = 0 ∧ c = ']'
    · rcases hc with ⟨rfl, rfl⟩
      exact .inl (local_answer_skip [ClassExpr.char ']'] ignoring m)
    · right
      have hstop (r : List Char) : firstMembers ignoring (n, c :: r) = (List.replicate n (.char '-'), c :: r) := by
        rw [firstMembers]
        intro rest hn heq
        exact hc ⟨hn, (List.cons.inj heq).1⟩
      refine ⟨(List.replicate n (.char '-'), []), fun r => ?_, fun _ => ?_⟩
      · rw [hstop]
        exact ⟨rfl, rfl⟩
      · cases n <;> rfl

theorem local_openClass (m : Nat) :
    Local m (fun t => .ok (openClass ignoring t)) (fun t => .ok (openClass ignoring t)) := by
  simp only [openClass_eq]
  have hmembers : Local m (fun t => .ok (firstMembers ignoring (leadingHyphens ignoring t.length t)))
      (fun t => .ok (firstMembers ignoring (leadingHyphens ignoring t.length t))) :=
    .comp (fun b => .ok (firstMembers ignoring b)) (fun b => .ok (firstMembers ignoring b))
      ((isWhile_leadingHyphens ignoring).isLocal rfl m) fun b => local_firstMembers b.1 m
  let inside (b : Bool × List Char) : Except Fault (Bool × List ClassExpr × List Char) :=
    .ok (b.1, firstMembers ignoring (leadingHyphens ignoring b.2.length b.2))
  have hinside (b : Bool × List Char) : Local m (fun r => inside (put b r)) (fun r => inside (put b r)) :=
    .comp (fun c => .ok (b.1, c)) (fun c => .ok (b.1, c)) hmembers fun c => .pure (b.1, c)
  exact .comp (fun t => inside (afterCaret ignoring t)) (fun t => inside (afterCaret ignoring t)) (.skip ignoring)
    fun _ => .comp inside inside (local_afterCaret m) hinside

section Inside

variable {pending : Option (ClassOp × ClassExpr)} {items : List ClassExpr} {n : Nat}

/-- The inside of a class is read up to a closing bracket. -/
theorem suffix_of_readClass {t : List Char} {b : ClassExpr × List Char}
    (h : readClass ignoring n pending items t = .ok b) : ']' :: b.2 <:+ t := by
  induction n generalizing pending items t b with
  | zero => cases h
  | succ n ih =>
    refine List.IsSuffix.trans ?_ (skip_suffix ignoring t)
    rw [readClass] at h
    split at h
    case h_1 => cases h
    case h_2 rest hs =>
      rw [hs]
      refine List.IsSuffix.trans ?_ (List.suffix_cons '[' rest)
      split at h
      · rename_i hposix
        exact (ih h).trans ((local_readPosix? 0).suffix (ofOption_eq_ok_iff.2 hposix))
      · rcases Except.bind_eq_ok_iff.1 h with ⟨b', hbody, h⟩
        have hinside := (@local_openClass ignoring 0).suffix (t := rest) rfl
        exact (ih h).trans ((List.suffix_cons ']' b'.2).trans ((ih hbody).trans hinside))
    case h_3 rest hs =>
      cases h
      rw [hs]
    case h_7 hs _ _ _ _ _ =>
      rcases Except.bind_eq_ok_iff.1 h with ⟨b', hitem, h⟩
      cases hskip : skip ignoring t with
      | nil =>
        rw [hskip] at hitem
        cases hitem
      | cons c r =>
        rw [hskip] at hitem
        exact (ih h).trans (((localIf_readClassRange (m := 0) c).suffix hitem).trans (List.suffix_cons c r))
    all_goals
      rename_i rest hs
      rw [hs]
      exact (ih h).trans ((List.suffix_cons _ rest).trans (List.suffix_cons _ _))

/-- The operator that a character stands for when it is doubled. -/
def operator? : Char → Option ClassOp
  | '&' => some .intersection
  | '-' => some .difference
  | '~' => some .symmetricDifference
  | _ => none

variable {c : Char} (hc : ∀ r, skip ignoring (c :: r) = c :: r)

include hc

theorem readClass_operator {op : ClassOp} (hop : operator? c = some op) (r : List Char) :
    readClass ignoring (n + 1) pending items (c :: c :: r) =
      readClass ignoring n (some (op, closeOperand pending items)) [] r := by
  rw [readClass, hc]
  unfold operator? at hop
  split at hop
  case h_4 => cases hop
  all_goals
    cases hop
    rfl

theorem readClass_operand (hopen : c ≠ '[') (hclose : c ≠ ']') {r : List Char}
    (hop : operator? c = none ∨ ∀ s, r ≠ c :: s) :
    readClass ignoring (n + 1) pending items (c :: r) =
      readClassRange ignoring (c :: r) >>= fun b => readClass ignoring n pending (b.1 :: items) b.2 := by
  rw [readClass, hc]
  split
  case h_1 heq => cases heq
  case h_2 heq => exact absurd (List.cons.inj heq).1 hopen
  case h_3 heq => exact absurd (List.cons.inj heq).1 hclose
  case h_7 => rfl
  all_goals
    rename_i heq
    cases heq
    rcases hop with hop | hop
    · cases hop
    · exact absurd rfl (hop _)

end Inside

def readNested (ignoring : Bool) (n : Nat) (pending : Option (ClassOp × ClassExpr)) (items : List ClassExpr)
    (b : Bool × List ClassExpr × List Char) : Except Fault (ClassExpr × List Char) :=
  readClass ignoring n none b.2.1 b.2.2 >>= fun body =>
    readClass ignoring n pending (.bracket b.1 body.1 :: items) body.2

theorem suffix_of_readNested {n : Nat} {pending : Option (ClassOp × ClassExpr)} {items : List ClassExpr}
    {t : List Char} {b : ClassExpr × List Char} (h : readNested ignoring n pending items (openClass ignoring t) = .ok b) :
    ']' :: b.2 <:+ t := by
  rcases Except.bind_eq_ok_iff.1 h with ⟨body, hbody, h⟩
  have hinside := (@local_openClass ignoring 0).suffix (t := t) rfl
  exact (suffix_of_readClass h).trans ((List.suffix_cons ']' body.2).trans ((suffix_of_readClass hbody).trans hinside))

theorem mem_of_cons_suffix {c : Char} {r t k : List Char} (h : c :: (r ++ k) <:+ t ++ k) : c ∈ t := by
  rw [← List.cons_append, List.suffix_append_self_iff] at h
  exact h.subset List.mem_cons_self

theorem local_readClass (n m : Nat) (pending : Option (ClassOp × ClassExpr)) (items : List ClassExpr) :
    Local m (readClass ignoring n pending items) (readClass ignoring m pending items) := by
  induction n generalizing m pending items with
  | zero => exact .fails nofun
  | succ n ih =>
    have main (m : Nat) : Local (m + 1) (readClass ignoring (n + 1) pending items)
        (readClass ignoring (m + 1) pending items) := by
      refine .of_head ignoring ?_ ?_ ?_ fun c hc => .inl ?_
      · intro t
        simp only [readClass, skip_skip]
      · intro t
        simp only [readClass, skip_skip]
      · intro b h
        cases ignoring <;> cases h
      · by_cases hopen : c = '['
        · subst hopen
          have hbracket (n : Nat) (r : List Char) : readClass ignoring (n + 1) pending items ('[' :: r) =
              (readPosix? r).elim (readNested ignoring n pending items (openClass ignoring r))
                fun b => readClass ignoring n pending (b.1 :: items) b.2 := by
            rw [readClass, hc]
            cases hposix : readPosix? r with
            | none =>
              simp only [hposix]
              rfl
            | some b =>
              simp only [hposix]
              rfl
          simp only [hbracket]
          refine .orElse (local_readPosix? m) (fun b => ih m pending (b.1 :: items)) ?_ fun h => ?_
          · refine .comp (readNested ignoring n pending items) (readNested ignoring m pending items) (local_openClass m)
              fun b => ?_
            change Local m (fun r => readClass ignoring n none b.2.1 r >>= fun body =>
              readClass ignoring n pending (.bracket b.1 body.1 :: items) body.2) (fun r =>
              readClass ignoring m none b.2.1 r >>= fun body =>
                readClass ignoring m pending (.bracket b.1 body.1 :: items) body.2)
            exact (ih m none b.2.1).andThen fun body => ih m pending (.bracket b.1 body.1 :: items)
          · apply readPosix?_append_eq_none_iff
            rcases h with h | h
            · exact (suffix_of_readNested h).subset List.mem_cons_self
            · exact mem_of_cons_suffix (suffix_of_readNested h)
        by_cases hclose : c = ']'
        · subst hclose
          simp only [readClass, hc]
          exact .pure (closeOperand pending items, ([] : List Char))
        have hoperand : Local m
            (fun r => readClassRange ignoring (c :: r) >>= fun b => readClass ignoring n pending (b.1 :: items) b.2)
            (fun r => readClassRange ignoring (c :: r) >>= fun b => readClass ignoring m pending (b.1 :: items) b.2) :=
          (localIf_readClassRange c).bind (fun b => ih m pending (b.1 :: items))
            fun hread _ => mem_of_cons_suffix (suffix_of_readClass hread)
        by_cases hop : ∃ op, operator? c = some op
        · rcases hop with ⟨op, hop⟩
          have hdouble {d : Char} (hd : d ≠ c) (r s : List Char) : d :: r ≠ c :: s := fun h => hd (List.cons.inj h).1
          have hnil (n : Nat) (b : ClassExpr × List Char) : readClass ignoring (n + 1) pending items [c] ≠ .ok b :=
            fun h => hclose (List.mem_singleton.1 ((suffix_of_readClass h).subset List.mem_cons_self)).symm
          refine .or_head c (ih m (some (op, closeOperand pending items)) []) hoperand
            (readClass_operator hc hop) (readClass_operator hc hop) ?_ ?_ (hnil n) ?_
          · exact fun d r hd => readClass_operand hc hopen hclose (.inr (hdouble hd r))
          · exact fun d r hd => readClass_operand hc hopen hclose (.inr (hdouble hd r))
          · rw [← readClass_operand hc hopen hclose (r := []) (.inr nofun)]
            exact hnil m
        · rw [← Option.ne_none_iff_exists', not_not] at hop
          simp only [readClass_operand hc hopen hclose (.inl hop)]
          exact hoperand
    cases m with
    | zero => exact (main 0).zero
    | succ m => exact main m

end SeriesQuery.Pattern
