import SeriesQuery.Proofs.Pattern.LocalClasses

/-! # The readers of openings and of counts are local

What an opening parenthesis begins is read up to a name, a colon or a parenthesis, and the counts of a repetition
up to a brace.
-/

namespace SeriesQuery.Pattern

open Text Leaves

variable {ignoring : Bool} {m : Nat}

/-- A name that a group can have beside others. -/
def AdmitsName (names : List (List Char)) : List Char → Prop
  | [] => False
  | first :: others => (isNameStart first && others.all isNameRest) = true ∧ names.contains (first :: others) = false

theorem readGroupName_eq_ok_iff {names : List (List Char)} {t : List Char} {b : List Char × List Char} :
    readGroupName names t = .ok b ↔ cutAt '>' t = (b.1, some b.2) ∧ AdmitsName names b.1 := by
  rw [readGroupName]
  rcases hcut : cutAt '>' t with ⟨name, _ | after⟩
  · simp
  · rcases b with ⟨read, left⟩
    cases name with
    | nil =>
      simp only [reduceCtorEq, false_iff, not_and]
      rintro ⟨⟩
      exact id
    | cons first others =>
      by_cases hname : (isNameStart first && others.all isNameRest) = true
      · by_cases hrepeated : names.contains (first :: others)
        · simp only [hname, hrepeated, if_true, reduceCtorEq, false_iff, not_and]
          rintro ⟨⟩ ⟨-, hfresh⟩
          exact Bool.noConfusion (hfresh.symm.trans hrepeated)
        · simp only [hname, hrepeated, if_true, if_false, Bool.false_eq_true]
          constructor
          · rintro ⟨⟩
            exact ⟨rfl, hname, Bool.eq_false_iff.2 hrepeated⟩
          · rintro ⟨⟨⟩, -⟩
            rfl
      · simp only [hname, if_false, Bool.false_eq_true, reduceCtorEq, false_iff, not_and]
        rintro ⟨⟩ ⟨hadmits, -⟩
        exact hname hadmits

theorem local_readGroupName (names : List (List Char)) (m : Nat) :
    Local m (readGroupName names) (readGroupName names) := by
  refine .of_start (fun p b => AdmitsName names b.1 ∧ '>' ∉ b.1 ∧ p = b.1 ++ ['>']) (fun _ _ _ => Iff.rfl)
    fun t b => ?_
  rw [readGroupName_eq_ok_iff, cutAt_eq_some_iff]
  constructor
  · rintro ⟨⟨hfree, rfl⟩, hname⟩
    exact ⟨_, ⟨hname, hfree, rfl⟩, (List.append_assoc b.1 ['>'] b.2).symm⟩
  · rintro ⟨_, ⟨hname, hfree, rfl⟩, rfl⟩
    exact ⟨⟨hfree, List.append_assoc b.1 ['>'] b.2⟩, hname⟩

/-- What a character among flags makes of the sign, of whether it was the last one, and of the flags before it. -/
def flagStep? (on : Bool) (read : FlagChange) (c : Char) : Option (Bool × Bool × FlagChange) :=
  if c = '-' then if on then some (false, true, read) else none
  else
    match flag? c with
    | none => none
    | some f => if read.any fun r => r.1 == f then none else some (on, false, read ++ [(f, on)])

theorem readFlags_end {c : Char} (hc : c = ':' ∨ c = ')') (on dangling : Bool) (read : FlagChange) (r : List Char) :
    readFlags on dangling read (c :: r) = if dangling then .error .danglingNegation else .ok (read, c, r) := by
  rw [readFlags, if_pos hc]

theorem readFlags_cons_eq_ok_iff {c : Char} (hc : ¬ (c = ':' ∨ c = ')')) {on dangling : Bool} {read : FlagChange}
    {r : List Char} {b : FlagChange × Char × List Char} : readFlags on dangling read (c :: r) = .ok b ↔
      (ofOption (flagStep? on read c) >>= fun s => readFlags s.1 s.2.1 s.2.2 r) = .ok b := by
  have hempty (on dangling : Bool) (read : FlagChange) :
      (if r.isEmpty then .error .unclosedFlags else readFlags on dangling read r) = .ok b ↔
        readFlags on dangling read r = .ok b := by
    cases r with
    | nil => exact iff_of_false nofun nofun
    | cons d r => exact Iff.rfl
  rw [readFlags, if_neg hc, flagStep?]
  by_cases hminus : c = '-'
  · rw [if_pos hminus, if_pos hminus]
    cases on with
    | true => exact hempty false true read
    | false => exact iff_of_false nofun nofun
  · rw [if_neg hminus, if_neg hminus]
    cases flag? c with
    | none => exact iff_of_false nofun nofun
    | some f =>
      dsimp only
      by_cases hrepeated : read.any fun r => r.1 == f
      · rw [if_pos hrepeated, if_pos hrepeated]
        exact iff_of_false nofun nofun
      · rw [if_neg hrepeated, if_neg hrepeated]
        exact hempty on false (read ++ [(f, on)])

theorem suffix_of_readFlags {on dangling : Bool} {read : FlagChange} {t : List Char} {b : FlagChange × Char × List Char}
    (h : readFlags on dangling read t = .ok b) : b.2.2 <:+ t := by
  induction t generalizing on dangling read with
  | nil => cases h
  | cons c r ih =>
    refine List.IsSuffix.trans ?_ (List.suffix_cons c r)
    by_cases hc : c = ':' ∨ c = ')'
    · rw [readFlags_end hc] at h
      split at h
      · cases h
      · cases h
        exact List.suffix_rfl
    · rcases Except.bind_eq_ok_iff.1 ((readFlags_cons_eq_ok_iff hc).1 h) with ⟨s, -, hread⟩
      exact ih hread

theorem local_readFlags (on dangling : Bool) (read : FlagChange) (m : Nat) :
    Local m (readFlags on dangling read) (readFlags on dangling read) := by
  induction m generalizing on dangling read with
  | zero =>
    constructor
    case suffix => exact suffix_of_readFlags
    all_goals
      intro t k b _ _ hlen
      exact absurd hlen (Nat.not_lt_zero _)
  | succ m ih =>
    refine .of_cons nofun fun c => .inl ?_
    by_cases hc : c = ':' ∨ c = ')'
    · simp only [readFlags_end hc]
      split
      · exact .fails nofun
      · exact .pure (read, c, ([] : List Char))
    · have hstep (t : List Char) (b : FlagChange × Char × List Char) := @readFlags_cons_eq_ok_iff c hc on dangling read t b
      exact (LocalIf.const_bind (ofOption (flagStep? on read c)) fun s => ih s.1 s.2.1 s.2.2).congr hstep hstep

section Openings

variable {names : List (List Char)}

def namedGroup (names : List (List Char)) (t : List Char) : Except Fault (Opening × List Char) :=
  readGroupName names t >>= fun b => .ok (.group true [] (b.1 :: names), b.2)

def letteredGroup (names : List (List Char)) : List Char → Except Fault (Opening × List Char)
  | '<' :: rest => namedGroup names rest
  | _ => .error .unknownFlag

/-- What flags begin that a colon or a parenthesis ends. -/
def openingOf (names : List (List Char)) (change : FlagChange) (stop : Char) : Except Fault Opening :=
  if stop = ':' then .ok (.group false change names)
  else if change.isEmpty then .error .nothingToRepeat
  else .ok (.flags change)

def flagOpening (names : List (List Char)) (t : List Char) : Except Fault (Opening × List Char) :=
  readFlags true false [] t >>= fun b => openingOf names b.1 b.2.1 >>= fun o => .ok (o, b.2.2)

/-- The start of a group behind a question mark that has no angle bracket there. -/
def plainOpening (names : List (List Char)) : List Char → Except Fault (Opening × List Char)
  | 'P' :: rest => letteredGroup names rest
  | text => flagOpening names text

theorem local_namedGroup (m : Nat) : Local m (namedGroup names) (namedGroup names) :=
  (local_readGroupName names m).andThen fun b => .pure (Opening.group true [] (b.1 :: names), ([] : List Char))

theorem local_flagOpening (m : Nat) : Local m (flagOpening names) (flagOpening names) :=
  (local_readFlags true false [] m).andThen fun b =>
    .const_bind (openingOf names b.1 b.2.1) fun o => .pure (o, ([] : List Char))

theorem local_letteredGroup (m : Nat) : Local m (letteredGroup names) (letteredGroup names) := by
  have hother {c : Char} {r : List Char} (hc : c ≠ '<') : letteredGroup names (c :: r) = .error .unknownFlag := by
    rw [letteredGroup]
    rintro _ ⟨⟩
    exact hc rfl
  have hfails : Local (β := Opening × List Char) m (fun _ => .error .unknownFlag) (fun _ => .error .unknownFlag) :=
    .fails nofun
  exact .or_head '<' (local_namedGroup m) hfails (fun _ => rfl) (fun _ => rfl)
    (fun _ _ hc => hother hc) (fun _ _ hc => hother hc) nofun nofun

theorem plainOpening_of_ne {c : Char} (hc : c ≠ 'P') (r : List Char) :
    plainOpening names (c :: r) = flagOpening names (c :: r) := by
  rw [plainOpening]
  rintro _ ⟨⟩
  exact hc rfl

theorem local_plainOpening (m : Nat) : Local m (plainOpening names) (plainOpening names) := by
  exact .or_head 'P' (local_letteredGroup m) (local_flagOpening m) (fun _ => rfl) (fun _ => rfl)
    (fun _ r hc => plainOpening_of_ne hc r) (fun _ r hc => plainOpening_of_ne hc r) nofun nofun

theorem flagOpening_ne_ok {c : Char} (hflag : flag? c = none) (hminus : c ≠ '-') (hend : ¬ (c = ':' ∨ c = ')'))
    (r : List Char) (b : Opening × List Char) : flagOpening names (c :: r) ≠ .ok b := by
  intro h
  rcases Except.bind_eq_ok_iff.1 h with ⟨b', hread, -⟩
  rcases Except.bind_eq_ok_iff.1 ((readFlags_cons_eq_ok_iff hend).1 hread) with ⟨s, hs, -⟩
  rw [flagStep?, if_neg hminus, hflag] at hs
  cases hs

theorem isNameStart_of_namedGroup {c : Char} {r : List Char} {b : Opening × List Char}
    (h : namedGroup names (c :: r) = .ok b) : isNameStart c := by
  rcases Except.bind_eq_ok_iff.1 h with ⟨⟨name, left⟩, hread, -⟩
  rcases readGroupName_eq_ok_iff.1 hread with ⟨hcut, hadmits⟩
  cases name with
  | nil => cases hadmits
  | cons first others =>
    cases (List.cons.inj (cutAt_eq_some_iff.1 hcut).2).1
    exact (Bool.and_eq_true_iff.1 hadmits.1).1

theorem skip_question (ignoring : Bool) (r : List Char) : skip ignoring ('?' :: r) = '?' :: r := by
  cases ignoring <;> rfl

/-- Behind an angle bracket only a name can follow. -/
theorem readOpening_angle_eq_ok_iff {r : List Char} {b : Opening × List Char} :
    readOpening ignoring names ('?' :: '<' :: r) = .ok b ↔ namedGroup names r = .ok b := by
  rw [readOpening, skip_question]
  by_cases hlook : ∃ s, r = '=' :: s ∨ r = '!' :: s
  · rcases hlook with ⟨s, rfl | rfl⟩
    all_goals
      refine iff_of_false nofun fun h => ?_
      cases isNameStart_of_namedGroup h
  · split
    case h_3 heq =>
      cases heq
      exact absurd ⟨_, .inl rfl⟩ hlook
    case h_4 heq =>
      cases heq
      exact absurd ⟨_, .inr rfl⟩ hlook
    case h_6 heq =>
      cases heq
      exact Iff.rfl
    case h_7 hangle heq =>
      cases heq
      exact absurd rfl (hangle r)
    case h_8 hquestion => exact absurd rfl (hquestion ('<' :: r))
    all_goals
      rename_i heq
      cases heq

theorem flagOpening_eq (t : List Char) : flagOpening names t = readFlags true false [] t >>= fun b =>
    if b.2.1 = ':' then .ok (.group false b.1 names, b.2.2)
    else if b.1.isEmpty then .error .nothingToRepeat
    else .ok (.flags b.1, b.2.2) := by
  refine congrArg (readFlags true false [] t >>= ·) (funext fun b => ?_)
  rw [openingOf]
  split
  · rfl
  · split
    · rfl
    · rfl

theorem letteredGroup_ne_ok {r : List Char} (hr : ∀ s, r ≠ '<' :: s) (b : Opening × List Char) :
    letteredGroup names r ≠ .ok b := by
  rw [letteredGroup]
  · nofun
  · exact hr

theorem readOpening_plain_eq_ok_iff {t : List Char} (ht : ∀ s, t ≠ '<' :: s) {b : Opening × List Char} :
    readOpening ignoring names ('?' :: t) = .ok b ↔ plainOpening names t = .ok b := by
  rw [readOpening, skip_question]
  split
  case h_1 heq =>
    cases heq
    rw [plainOpening_of_ne (by decide)]
    exact iff_of_false nofun (flagOpening_ne_ok rfl (by decide) (by decide) _ b)
  case h_2 heq =>
    cases heq
    rw [plainOpening_of_ne (by decide)]
    exact iff_of_false nofun (flagOpening_ne_ok rfl (by decide) (by decide) _ b)
  case h_5 heq =>
    cases heq
    exact Iff.rfl
  case h_7 rest _ _ _ _ hlettered _ heq =>
    cases heq
    cases t with
    | nil => exact iff_of_false nofun nofun
    | cons c r =>
      rw [List.isEmpty_cons, if_neg Bool.false_ne_true, ← flagOpening_eq]
      by_cases hc : c = 'P'
      · subst hc
        refine iff_of_false (flagOpening_ne_ok rfl (by decide) (by decide) r b) (letteredGroup_ne_ok ?_ b)
        rintro s rfl
        exact hlettered s rfl
      · rw [plainOpening_of_ne hc]
  case h_8 hquestion => exact absurd rfl (hquestion t)
  all_goals
    rename_i heq
    cases heq
    exact absurd rfl (ht _)

def questionOpening (names : List (List Char)) : List Char → Except Fault (Opening × List Char)
  | '<' :: rest => namedGroup names rest
  | text => plainOpening names text

theorem questionOpening_of_ne {t : List Char} (ht : ∀ s, t ≠ '<' :: s) :
    questionOpening names t = plainOpening names t := by
  rw [questionOpening]
  exact ht

theorem readOpening_question_eq_ok_iff (t : List Char) (b : Opening × List Char) :
    readOpening ignoring names ('?' :: t) = .ok b ↔ questionOpening names t = .ok b := by
  by_cases hangle : ∃ s, t = '<' :: s
  · rcases hangle with ⟨s, rfl⟩
    exact readOpening_angle_eq_ok_iff
  · rw [not_exists] at hangle
    rw [questionOpening_of_ne hangle]
    exact readOpening_plain_eq_ok_iff hangle

theorem local_questionOpening (m : Nat) : Local m (questionOpening names) (questionOpening names) := by
  have hother (c : Char) (r : List Char) (hc : c ≠ '<') :
      questionOpening names (c :: r) = plainOpening names (c :: r) :=
    questionOpening_of_ne fun s h => hc (List.cons.inj h).1
  exact .or_head '<' (local_namedGroup m) (local_plainOpening m) (fun _ => rfl) (fun _ => rfl) hother hother nofun nofun

theorem local_readOpening (ignoring : Bool) (names : List (List Char)) (m : Nat) :
    Local m (readOpening ignoring names) (readOpening ignoring names) := by
  refine LocalIf.lower (.of_head ignoring ?_ ?_ ?_ fun c hc => ?_)
  · intro t
    simp only [readOpening, skip_skip]
  · intro t
    simp only [readOpening, skip_skip]
  · intro b h
    cases ignoring <;> cases h <;> exact ⟨rfl, rfl, fun k => rfl⟩
  · by_cases hquestion : c = '?'
    · subst hquestion
      exact .inl ((local_questionOpening m).congr readOpening_question_eq_ok_iff readOpening_question_eq_ok_iff)
    · right
      have hstop (r : List Char) : readOpening ignoring names (c :: r) = .ok (.group true [] names, c :: r) := by
        rw [readOpening, hc]
        split
        case h_8 => rfl
        all_goals
          rename_i heq
          exact absurd (List.cons.inj heq).1 hquestion
      refine ⟨(.group true [] names, []), fun r => ⟨hstop r, hstop r⟩, fun _ => ?_⟩
      cases ignoring <;> rfl

end Openings

section Counts

theorem local_dropBlanks (m : Nat) :
    Local m (fun t => .ok (t.dropWhile isBlank)) (fun t => .ok (t.dropWhile isBlank)) where
  suffix h := by
    cases h
    exact List.dropWhile_suffix isBlank
  extend {t k b} h hapart _ := by
    cases h
    rw [List.dropWhile_append]
    cases hs : t.dropWhile isBlank with
    | nil =>
      rw [hs] at hapart
      rcases hapart with hne | ⟨-, k, rfl⟩
      · exact absurd rfl hne
      · rfl
    | cons c r => rfl
  restrict {t k b} h _ _ := by
    have hdrop : (t ++ k).dropWhile isBlank = b ++ k := Except.ok.inj h
    rw [List.dropWhile_append] at hdrop
    cases hs : t.dropWhile isBlank with
    | nil =>
      rw [hs, List.isEmpty_nil, if_pos rfl] at hdrop
      have hsuffix := List.dropWhile_suffix (l := k) isBlank
      rw [hdrop] at hsuffix
      rw [eq_nil_of_append_suffix hsuffix]
    | cons c r =>
      rw [hs, List.isEmpty_cons, if_neg Bool.false_ne_true] at hdrop
      rw [List.append_cancel_right hdrop]

theorem isWhile_digits (ignoring : Bool) :
    IsWhile ignoring Char.isDigit [] (· :: ·) (readCount.digits ignoring) where
  zero _ := rfl
  nil _ := rfl
  cons _ _ _ := rfl

def countOf (read : List Char) : Except Fault (Option Nat) :=
  if read.isEmpty then .ok none
  else
    let n := read.foldl (fun n c => 10 * n + (c.toNat - 48)) 0
    if n < Nat.pow 2 32 then .ok (some n) else .error .countNumber

def readDigits (ignoring : Bool) (t : List Char) : Except Fault (Option Nat × List Char) :=
  let b := readCount.digits ignoring t.length t
  countOf b.1 >>= fun n => .ok (n, skip ignoring (b.2.dropWhile isBlank))

theorem readCount_eq (t : List Char) : readCount ignoring t = readDigits ignoring (t.dropWhile isBlank) := by
  rw [readCount, readDigits, countOf]
  dsimp only
  split
  · rfl
  · split
    · rfl
    · rfl

theorem local_readCount (ignoring : Bool) (m : Nat) : Local m (readCount ignoring) (readCount ignoring) := by
  let behind (b : List Char × List Char) : Except Fault (Option Nat × List Char) :=
    countOf b.1 >>= fun n => .ok (n, skip ignoring (b.2.dropWhile isBlank))
  have hskip (n : Option Nat) : Local m (fun r => .ok (n, skip ignoring (r.dropWhile isBlank)))
      (fun r => .ok (n, skip ignoring (r.dropWhile isBlank))) :=
    .comp (fun r => .ok (n, skip ignoring r)) (fun r => .ok (n, skip ignoring r)) (local_dropBlanks m)
      fun _ => local_answer_skip n ignoring m
  have hbehind (b : List Char × List Char) : Local m (fun r => behind (put b r)) (fun r => behind (put b r)) :=
    .const_bind (countOf b.1) hskip
  have hdigits : Local m (readDigits ignoring) (readDigits ignoring) :=
    .comp behind behind ((isWhile_digits ignoring).isLocal rfl m) hbehind
  simp only [funext (@readCount_eq ignoring)]
  exact .comp (readDigits ignoring) (readDigits ignoring) (local_dropBlanks m) fun _ => hdigits

def mostCount (ignoring : Bool) (least : Option Nat) (t : List Char) : Except Fault (Nat × Option Nat × List Char) :=
  readCount ignoring t >>= fun b =>
    match least, b.1 with
    | some n, some m =>
      match b.2 with
      | '\x7d' :: rest => if n ≤ m then .ok (n, some m, rest) else .error .countOrder
      | _ => .error .unclosedCount
    | _, _ => .error .countNumber

/-- The counts of a repetition, from behind the comma and what is ignored there. -/
def behindComma (ignoring : Bool) (least : Option Nat) : List Char → Except Fault (Nat × Option Nat × List Char)
  | [] => .error .unclosedCount
  | '\x7d' :: rest =>
    match least with
    | some n => .ok (n, none, rest)
    | none => .error .countNumber
  | text => mostCount ignoring least text

def behindLeast (ignoring : Bool) (least : Option Nat) : List Char → Except Fault (Nat × Option Nat × List Char)
  | [] => .error .unclosedCount
  | ',' :: rest => behindComma ignoring least (skip ignoring rest)
  | '\x7d' :: rest =>
    match least with
    | some n => .ok (n, some n, rest)
    | none => .error .countNumber
  | _ => .error .unclosedCount

theorem readCounts_eq_ok_iff (t : List Char) (b : Nat × Option Nat × List Char) : readCounts ignoring t = .ok b ↔
    (readCount ignoring (skip ignoring t) >>= fun c => behindLeast ignoring c.1 c.2) = .ok b := by
  rw [readCounts]
  cases hs : skip ignoring t with
  | nil =>
    refine iff_of_false (error_ne_ok _ b) ?_
    cases ignoring <;> exact error_ne_ok _ b
  | cons c r =>
    simp only [List.isEmpty_cons, Bool.false_eq_true, if_false]
    rw [Except.bind_eq_ok_iff, Except.bind_eq_ok_iff]
    refine exists_congr fun a => and_congr_right fun _ => ?_
    rcases a with ⟨least, after⟩
    dsimp only
    split
    · exact iff_of_false (error_ne_ok _ b) (error_ne_ok _ b)
    · rename_i rest _
      change _ ↔ behindComma ignoring least (skip ignoring rest) = .ok b
      split
      · rename_i hrest
        rw [hrest]
        exact Iff.rfl
      · rename_i hrest
        rw [hrest]
        exact Iff.rfl
      · rename_i hnil hbrace
        rw [behindComma]
        · exact Iff.rfl
        · exact hnil
        · exact hbrace
    · exact Iff.rfl
    · rename_i hnil hcomma hbrace
      rw [behindLeast]
      · cases least with
        | none => exact iff_of_false (error_ne_ok _ b) (error_ne_ok _ b)
        | some n => exact iff_of_false (error_ne_ok _ b) (error_ne_ok _ b)
      · exact hnil
      · exact hcomma
      · exact hbrace

theorem local_mostCount (least : Option Nat) (m : Nat) :
    Local m (mostCount ignoring least) (mostCount ignoring least) := by
  refine (local_readCount ignoring m).andThen fun b => ?_
  cases least with
  | none => exact .fails nofun
  | some n =>
    rcases b with ⟨_ | most, left⟩
    · exact .fails nofun
    · have hrange : Local m (fun r => if n ≤ most then .ok (n, some most, r) else .error .countOrder)
          (fun r => if n ≤ most then .ok (n, some most, r) else .error .countOrder) := by
        split
        · exact .pure ((n, some most, []) : Nat × Option Nat × List Char)
        · exact .fails nofun
      refine .closing '\x7d' hrange (fun _ => rfl) (fun _ => rfl) fun t b ht h => ?_
      dsimp only [put] at h
      split at h
      · exact absurd rfl (ht _)
      · cases h

theorem local_closeCounts (least most : Option Nat) (m : Nat) :
    Local m
      (fun r => match least with
        | some n => .ok (n, most, r)
        | none => .error .countNumber)
      (fun r => match least with
        | some n => .ok (n, most, r)
        | none => .error .countNumber) := by
  cases least with
  | none => exact .fails nofun
  | some n => exact .pure ((n, most, []) : Nat × Option Nat × List Char)

theorem local_behindComma (least : Option Nat) (m : Nat) :
    Local m (behindComma ignoring least) (behindComma ignoring least) := by
  have hother (c : Char) (r : List Char) (hc : c ≠ '\x7d') :
      behindComma ignoring least (c :: r) = mostCount ignoring least (c :: r) := by
    rw [behindComma]
    · nofun
    · rintro _ ⟨⟩
      exact hc rfl
  refine .or_head '\x7d' (local_closeCounts least none m) (local_mostCount least m) (fun _ => rfl) (fun _ => rfl)
    hother hother nofun fun b => ?_
  have hcount : readCount ignoring [] = .ok (none, []) := by
    cases ignoring <;> rfl
  intro h
  rcases Except.bind_eq_ok_iff.1 h with ⟨c, hread, h⟩
  cases hread.symm.trans hcount
  cases least <;> cases h

theorem local_behindLeast (least : Option Nat) (m : Nat) :
    Local m (behindLeast ignoring least) (behindLeast ignoring least) := by
  refine LocalIf.lower (.of_cons nofun fun c => .inl ?_)
  by_cases hcomma : c = ','
  · subst hcomma
    exact .comp (behindComma ignoring least) (behindComma ignoring least) (.skip ignoring)
      fun _ => local_behindComma least m
  by_cases hbrace : c = '\x7d'
  · subst hbrace
    cases least with
    | none => exact .fails nofun
    | some n => exact .pure ((n, some n, []) : Nat × Option Nat × List Char)
  · refine .fails fun r b => ?_
    rw [behindLeast]
    · nofun
    · nofun
    · rintro _ ⟨⟩
      exact hcomma rfl
    · rintro _ ⟨⟩
      exact hbrace rfl

theorem local_readCounts (ignoring : Bool) (m : Nat) : Local m (readCounts ignoring) (readCounts ignoring) := by
  have hcounts : Local m (fun t => readCount ignoring t >>= fun c => behindLeast ignoring c.1 c.2)
      (fun t => readCount ignoring t >>= fun c => behindLeast ignoring c.1 c.2) :=
    (local_readCount ignoring m).andThen fun c => local_behindLeast c.1 m
  have hskip := LocalIf.comp (fun t => readCount ignoring t >>= fun c => behindLeast ignoring c.1 c.2)
    (fun t => readCount ignoring t >>= fun c => behindLeast ignoring c.1 c.2) (.skip ignoring) fun _ => hcounts
  exact hskip.congr readCounts_eq_ok_iff readCounts_eq_ok_iff

end Counts

theorem local_readLazyMark (m : Nat) : Local m (fun t => .ok (readLazyMark t)) (fun t => .ok (readLazyMark t)) := by
  refine LocalIf.lower (.of_cons ?_ fun c => ?_)
  · rintro _ ⟨⟩
    exact ⟨rfl, rfl, fun k => rfl⟩
  · by_cases hc : c = '?'
    · subst hc
      exact .inl (.pure ((true, []) : Bool × List Char))
    · right
      have hstop (r : List Char) : readLazyMark (c :: r) = (false, c :: r) := by
        rw [readLazyMark]
        rintro _ ⟨⟩
        exact hc rfl
      refine ⟨(false, []), fun r => ?_, fun _ => rfl⟩
      rw [hstop]
      exact ⟨rfl, rfl⟩

end SeriesQuery.Pattern
