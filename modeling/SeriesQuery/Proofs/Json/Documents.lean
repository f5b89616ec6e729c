import Mathlib.Data.List.DropRight
import Mathlib.Data.List.Forall2
import SeriesQuery.Proofs.Json.Numbers

/-! # Written documents

Which texts write a value is said without a reader: by what stands between which brackets, with blanks where they are
allowed. Every such text is read as the value that it writes, whatever follows it, and both layouts of a document give
such texts.
-/

namespace SeriesQuery.Json

open Utf8 (bytesOf)

/-- What is written: a value, the items of a list with its closing bracket, or the members of an object with its
closing brace. -/
inductive Part where
  | value (t : Tree)
  | items (ts : List Tree)
  | members (ms : List (Option String × Tree))

/-- The blanks that the layouts use. -/
def IsBlank (text : List Char) : Prop := ∀ c ∈ text, c = ' ' ∨ c = '\n'

/-- Characters that write a value or the rest of a list or object. -/
inductive Writes : List Char → Part → Prop where
  | null : Writes ['n', 'u', 'l', 'l'] (.value .null)
  | number (w : WrittenNumber) : Writes w.text (.value (.number w.number))
  | text (s : String) : Writes (quoteText s).toList (.value (.text (some s)))
  | emptyList : Writes ['[', ']'] (.value (.list []))
  | list {text : List Char} {ts : List Tree} (h : Writes text (.items ts)) : Writes ('[' :: text) (.value (.list ts))
  | emptyObject : Writes ['\x7b', '\x7d'] (.value (.object []))
  | object {text : List Char} {ms : List (Option String × Tree)} (h : Writes text (.members ms)) :
      Writes ('\x7b' :: text) (.value (.object ms))
  | lastItem {before text after : List Char} {t : Tree} (hbefore : IsBlank before) (hafter : IsBlank after)
      (h : Writes text (.value t)) : Writes (before ++ text ++ after ++ [']']) (.items [t])
  | item {before text more : List Char} {t : Tree} {ts : List Tree} (hbefore : IsBlank before)
      (h : Writes text (.value t)) (hmore : Writes more (.items ts)) :
      Writes (before ++ text ++ ',' :: more) (.items (t :: ts))
  | lastMember {before between text after : List Char} {key : String} {t : Tree} (hbefore : IsBlank before)
      (hbetween : IsBlank between) (hafter : IsBlank after) (h : Writes text (.value t)) :
      Writes (before ++ (quoteText key).toList ++ ':' :: (between ++ text) ++ after ++ ['\x7d'])
        (.members [(some key, t)])
  | member {before between text more : List Char} {key : String} {t : Tree} {ms : List (Option String × Tree)}
      (hbefore : IsBlank before) (hbetween : IsBlank between) (h : Writes text (.value t))
      (hmore : Writes more (.members ms)) :
      Writes (before ++ (quoteText key).toList ++ ':' :: (between ++ text) ++ ',' :: more)
        (.members ((some key, t) :: ms))

/-- The part is read off the bytes, and the rest is left. -/
def Part.ReadFrom (fuel : Nat) (bytes rest : List UInt8) : Part → Prop
  | .value t => readValue fuel bytes = some (t, rest)
  | .items ts => readItems fuel bytes = some (ts, rest)
  | .members ms => readMembers fuel bytes = some (ms, rest)

/-! ## Blanks -/

theorem skipBlanks_append {blanks : List Char} (h : IsBlank blanks) (rest : List UInt8) :
    skipBlanks (bytesOf blanks ++ rest) = skipBlanks rest := by
  induction blanks with
  | nil => rfl
  | cons c blanks ih =>
    have htail := ih fun d hd => h d (List.mem_cons_of_mem c hd)
    rcases h c List.mem_cons_self with rfl | rfl
    · rw [Utf8.bytesOf_cons_of_lt (by decide), List.cons_append, skipBlanks, List.dropWhile_cons_of_pos rfl]
      exact htail
    · rw [Utf8.bytesOf_cons_of_lt (by decide), List.cons_append, skipBlanks, List.dropWhile_cons_of_pos rfl]
      exact htail

theorem skipBlanks_cons {b : UInt8} (h : isBlankByte b = false) (rest : List UInt8) :
    skipBlanks (b :: rest) = b :: rest := by
  rw [skipBlanks, List.dropWhile_cons_of_neg (by simp [h])]

theorem skipBlanks_skipBlanks (bytes : List UInt8) : skipBlanks (skipBlanks bytes) = skipBlanks bytes :=
  List.dropWhile_idempotent _ _

theorem readValue_skipBlanks (fuel : Nat) (bytes : List UInt8) :
    readValue fuel (skipBlanks bytes) = readValue fuel bytes := by
  cases fuel with
  | zero => rfl
  | succ fuel => rw [readValue, readValue, skipBlanks_skipBlanks]

theorem readItems_skipBlanks (fuel : Nat) (bytes : List UInt8) :
    readItems fuel (skipBlanks bytes) = readItems fuel bytes := by
  cases fuel with
  | zero => rfl
  | succ fuel => rw [readItems, readItems, readValue_skipBlanks]

theorem readMembers_skipBlanks (fuel : Nat) (bytes : List UInt8) :
    readMembers fuel (skipBlanks bytes) = readMembers fuel bytes := by
  cases fuel with
  | zero => rfl
  | succ fuel => rw [readMembers, readMembers, skipBlanks_skipBlanks]

/-- A value is read behind blanks. -/
theorem readValue_blanks {blanks : List Char} (h : IsBlank blanks) (fuel : Nat) (bytes : List UInt8) :
    readValue fuel (bytesOf blanks ++ bytes) = readValue fuel bytes := by
  rw [← readValue_skipBlanks, skipBlanks_append h, readValue_skipBlanks]

/-- Blanks end a number if what follows them does. -/
theorem endsNumber_blanks {blanks : List Char} (h : IsBlank blanks) {rest : List UInt8} (hrest : EndsNumber rest) :
    EndsNumber (bytesOf blanks ++ rest) := by
  cases blanks with
  | nil => exact hrest
  | cons c blanks =>
    intro b hb
    rcases h c List.mem_cons_self with rfl | rfl
    · rw [Utf8.bytesOf_cons_of_lt (by decide)] at hb
      cases hb
      decide
    · rw [Utf8.bytesOf_cons_of_lt (by decide)] at hb
      cases hb
      decide

/-! ## Reading one part -/

variable {fuel : Nat} {bytes after rest : List UInt8}

theorem readValue_null (fuel : Nat) (rest : List UInt8) :
    readValue (fuel + 1) (bytesOf ['n', 'u', 'l', 'l'] ++ rest) = some (.null, rest) := by
  simp [Utf8.bytesOf_cons_of_lt, readValue, skipBlanks_cons, isBlankByte, isAt, readWord]

/-- A number starts with none of the characters that other values start with. -/
theorem readValue_number (w : WrittenNumber) (fuel : Nat) (h : EndsNumber rest) :
    readValue (fuel + 1) (bytesOf w.text ++ rest) = some (.number w.number, rest) := by
  have hread := w.readNumber_text h
  obtain ⟨c, more, htext, hlow, hhigh⟩ := w.exists_first
  have hascii : c.toNat < 0x80 := Nat.lt_of_le_of_lt hhigh (by decide)
  have hother (d : Char) (hd : d.toNat < '-'.toNat ∨ '9'.toNat < d.toNat) :
      isAt (UInt8.ofNat c.toNat) d = false := by
    rw [isAt_ofNat hascii, decide_eq_false_iff_not]
    rintro rfl
    omega
  have hblank : ∀ n ≤ '9'.toNat, '-'.toNat ≤ n → isBlankByte (UInt8.ofNat n) = false := by decide
  rw [htext, Utf8.bytesOf_cons_of_lt hascii, List.cons_append] at hread ⊢
  rw [readValue, skipBlanks_cons (hblank _ hhigh hlow)]
  simp only [hother '"' (by decide), hother '[' (by decide), hother '\x7b' (by decide), hother 'n' (by decide),
    hother 't' (by decide), hother 'f' (by decide), Bool.false_eq_true, if_false, hread, Option.map_some]

theorem quoteText_eq (s : String) :
    (quoteText s).toList = '"' :: (s.toList.flatMap escapeChar ++ ['"']) := by
  rw [quoteText, String.toList_ofList, List.cons_append]

theorem readString_quoteText {s : String} (h : (bytesOf (quoteText s).toList).length < fuel + 1) (rest : List UInt8) :
    ∃ more, bytesOf (quoteText s).toList ++ rest = UInt8.ofNat '"'.toNat :: more ∧
      readString fuel more = some (some s, rest) := by
  rw [quoteText_eq, Utf8.bytesOf_cons_of_lt (by decide)] at h ⊢
  refine ⟨_, rfl, readString_quoted ?_ rest⟩
  rw [Utf8.bytesOf_append] at h
  simp only [List.length_cons, List.length_append] at h
  omega

/-- A key is read behind blanks. -/
theorem exists_quoted {before : List Char} (hbefore : IsBlank before) {key : String}
    (h : (bytesOf (quoteText key).toList).length < fuel + 1) (rest : List UInt8) :
    ∃ quoted,
      skipBlanks (bytesOf before ++ (bytesOf (quoteText key).toList ++ rest)) = UInt8.ofNat '"'.toNat :: quoted ∧
      readString fuel quoted = some (some key, rest) := by
  obtain ⟨quoted, hbytes, hread⟩ := readString_quoteText h rest
  refine ⟨quoted, ?_, hread⟩
  rw [skipBlanks_append hbefore, hbytes, skipBlanks_cons rfl]

theorem readValue_text {s : String} (h : (bytesOf (quoteText s).toList).length < fuel + 1) (rest : List UInt8) :
    readValue (fuel + 1) (bytesOf (quoteText s).toList ++ rest) = some (.text (some s), rest) := by
  obtain ⟨more, hbytes, hread⟩ := readString_quoteText h rest
  rw [hbytes, readValue, skipBlanks_cons rfl]
  simp [isAt, hread]

theorem readValue_emptyList (fuel : Nat) (rest : List UInt8) :
    readValue (fuel + 1) (bytesOf ['[', ']'] ++ rest) = some (.list [], rest) := by
  simp [Utf8.bytesOf_cons_of_lt, readValue, skipBlanks_cons, isBlankByte, isAt]

theorem readValue_emptyObject (fuel : Nat) (rest : List UInt8) :
    readValue (fuel + 1) (bytesOf ['\x7b', '\x7d'] ++ rest) = some (.object [], rest) := by
  simp [Utf8.bytesOf_cons_of_lt, readValue, skipBlanks_cons, isBlankByte, isAt]

theorem eq_of_isAt {b : UInt8} {c : Char} (hc : c.toNat < 0x80) (h : isAt b c = true) : b = UInt8.ofNat c.toNat := by
  rw [← UInt8.toNat_inj, Utf8.toNat_ofNat_of_lt hc]
  exact beq_iff_eq.1 h

theorem readItems_nil (fuel : Nat) : readItems fuel [] = none := by
  cases fuel with
  | zero => rfl
  | succ fuel => cases fuel <;> rfl

theorem readMembers_nil (fuel : Nat) : readMembers fuel [] = none := by
  cases fuel <;> rfl

/-- No item starts with a closing bracket. -/
theorem readItems_closing {c : UInt8} (h : isAt c ']' = true) (fuel : Nat) (more : List UInt8) :
    readItems fuel (c :: more) = none := by
  rw [eq_of_isAt (by decide) h]
  cases fuel with
  | zero => rfl
  | succ fuel =>
    cases fuel with
    | zero => rfl
    | succ fuel =>
      simp [readItems, readValue, skipBlanks_cons, isBlankByte, isAt, readNumber, readDigits, digit?]

/-- No member starts with a closing brace. -/
theorem readMembers_closing {c : UInt8} (h : isAt c '\x7d' = true) (fuel : Nat) (more : List UInt8) :
    readMembers fuel (c :: more) = none := by
  rw [eq_of_isAt (by decide) h]
  cases fuel with
  | zero => rfl
  | succ fuel => simp [readMembers, skipBlanks_cons, isBlankByte, isAt]

/-- Where something is read that neither nothing nor a closing mark starts, there is a byte, and it is not the mark. -/
theorem exists_not_closing {α : Type} {read : List UInt8 → Option α} {closing : Char} (hnil : read [] = none)
    (hclosing : ∀ {c}, isAt c closing = true → ∀ more, read (c :: more) = none) {r : α} (h : read bytes = some r) :
    ∃ c more, bytes = c :: more ∧ isAt c closing = false := by
  cases bytes with
  | nil => cases hnil.symm.trans h
  | cons c more =>
    refine ⟨c, more, rfl, ?_⟩
    rw [Bool.eq_false_iff]
    intro hc
    cases (hclosing hc more).symm.trans h

theorem readValue_list {ts : List Tree} (h : readItems fuel bytes = some (ts, rest)) :
    readValue (fuel + 1) (UInt8.ofNat '['.toNat :: bytes) = some (.list ts, rest) := by
  rw [← readItems_skipBlanks] at h
  obtain ⟨c, more, hbytes, hc⟩ := exists_not_closing (readItems_nil fuel) (readItems_closing · fuel) h
  rw [hbytes] at h
  rw [readValue, skipBlanks_cons rfl]
  have hquote : isAt (UInt8.ofNat '['.toNat) '"' = false := rfl
  have hopening : isAt (UInt8.ofNat '['.toNat) '[' = true := rfl
  simp only [hquote, hopening, hbytes, hc, h, Bool.false_eq_true, if_false, if_true, Option.map_some]

theorem readValue_object {ms : List (Option String × Tree)} (h : readMembers fuel bytes = some (ms, rest)) :
    readValue (fuel + 1) (UInt8.ofNat '\x7b'.toNat :: bytes) = some (.object ms, rest) := by
  rw [← readMembers_skipBlanks] at h
  obtain ⟨c, more, hbytes, hc⟩ := exists_not_closing (readMembers_nil fuel) (readMembers_closing · fuel) h
  rw [hbytes] at h
  rw [readValue, skipBlanks_cons rfl]
  have hquote : isAt (UInt8.ofNat '\x7b'.toNat) '"' = false := rfl
  have hbracket : isAt (UInt8.ofNat '\x7b'.toNat) '[' = false := rfl
  have hopening : isAt (UInt8.ofNat '\x7b'.toNat) '\x7b' = true := rfl
  simp only [hquote, hbracket, hopening, hbytes, hc, h, Bool.false_eq_true, if_false, if_true, Option.map_some]

theorem readItems_last {t : Tree} (hvalue : readValue fuel bytes = some (t, after))
    (hclose : skipBlanks after = UInt8.ofNat ']'.toNat :: rest) :
    readItems (fuel + 1) bytes = some ([t], rest) := by
  simp [readItems, hvalue, hclose, isAt]

theorem readItems_more {t : Tree} {ts : List Tree} {more : List UInt8} (hvalue : readValue fuel bytes = some (t, after))
    (hcomma : skipBlanks after = UInt8.ofNat ','.toNat :: more) (hmore : readItems fuel more = some (ts, rest)) :
    readItems (fuel + 1) bytes = some (t :: ts, rest) := by
  simp [readItems, hvalue, hcomma, hmore, isAt]

variable {quoted afterKey value : List UInt8} {key : Option String} {t : Tree}

theorem readMembers_last (hquote : skipBlanks bytes = UInt8.ofNat '"'.toNat :: quoted)
    (hkey : readString fuel quoted = some (key, afterKey))
    (hcolon : skipBlanks afterKey = UInt8.ofNat ':'.toNat :: value) (hvalue : readValue fuel value = some (t, after))
    (hclose : skipBlanks after = UInt8.ofNat '\x7d'.toNat :: rest) :
    readMembers (fuel + 1) bytes = some ([(key, t)], rest) := by
  simp [readMembers, hquote, hkey, hcolon, hvalue, hclose, isAt]

theorem readMembers_more {more : List UInt8} {ms : List (Option String × Tree)}
    (hquote : skipBlanks bytes = UInt8.ofNat '"'.toNat :: quoted) (hkey : readString fuel quoted = some (key, afterKey))
    (hcolon : skipBlanks afterKey = UInt8.ofNat ':'.toNat :: value) (hvalue : readValue fuel value = some (t, after))
    (hcomma : skipBlanks after = UInt8.ofNat ','.toNat :: more) (hmore : readMembers fuel more = some (ms, rest)) :
    readMembers (fuel + 1) bytes = some ((key, t) :: ms, rest) := by
  simp [readMembers, hquote, hkey, hcolon, hvalue, hcomma, hmore, isAt]

/-! ## Reading a whole text -/

theorem endsNumber_cons (c : Char) (hc : c = ']' ∨ c = '\x7d' ∨ c = ',') (rest : List UInt8) :
    EndsNumber (UInt8.ofNat c.toNat :: rest) := by
  intro b hb
  cases hb
  rcases hc with rfl | rfl | rfl <;> decide

/-- What writes a part is read as that part, up to the end of what writes it. -/
theorem Writes.readFrom {text : List Char} {part : Part} (h : Writes text part) {fuel : Nat} {rest : List UInt8}
    (hrest : EndsNumber rest) (hfuel : (bytesOf text).length ≤ fuel) :
    part.ReadFrom (fuel + 1) (bytesOf text ++ rest) rest := by
  -- One level of reading is one unit of fuel and at least one byte.
  induction h generalizing fuel rest with
  | null => exact readValue_null fuel rest
  | number w => exact readValue_number w fuel hrest
  | text s => exact readValue_text (Nat.lt_succ_of_le hfuel) rest
  | emptyList => exact readValue_emptyList fuel rest
  | emptyObject => exact readValue_emptyObject fuel rest
  | list h ih =>
    rw [Utf8.bytesOf_cons_of_lt (by decide)] at hfuel ⊢
    obtain ⟨fuel, rfl⟩ := Nat.exists_eq_add_of_le' (Nat.le_trans (Nat.le_add_left 1 _) hfuel)
    exact readValue_list (ih hrest (Nat.le_of_succ_le_succ hfuel))
  | object h ih =>
    rw [Utf8.bytesOf_cons_of_lt (by decide)] at hfuel ⊢
    obtain ⟨fuel, rfl⟩ := Nat.exists_eq_add_of_le' (Nat.le_trans (Nat.le_add_left 1 _) hfuel)
    exact readValue_object (ih hrest (Nat.le_of_succ_le_succ hfuel))
  | lastItem hbefore hafter h ih =>
    simp (disch := decide) only [Utf8.bytesOf_append, Utf8.bytesOf_cons_of_lt, Utf8.bytesOf_nil, List.length_append,
      List.length_cons, List.append_assoc, List.cons_append, List.nil_append] at hfuel ⊢
    obtain ⟨fuel, rfl⟩ : ∃ k, fuel = k + 1 := ⟨fuel - 1, by omega⟩
    have hends := endsNumber_blanks hafter (endsNumber_cons ']' (by decide) rest)
    have hvalue := @ih fuel _ hends (by omega)
    rw [Part.ReadFrom, ← readValue_blanks hbefore] at hvalue
    exact readItems_last hvalue (skipBlanks_append hafter _)
  | @item before text more t ts hbefore h hmore ih ihmore =>
    simp (disch := decide) only [Utf8.bytesOf_append, Utf8.bytesOf_cons_of_lt, List.length_append, List.length_cons,
      List.append_assoc, List.cons_append] at hfuel ⊢
    obtain ⟨fuel, rfl⟩ : ∃ k, fuel = k + 1 := ⟨fuel - 1, by omega⟩
    have hends := endsNumber_cons ',' (by decide) (bytesOf more ++ rest)
    have hvalue := @ih fuel _ hends (by omega)
    rw [Part.ReadFrom, ← readValue_blanks hbefore] at hvalue
    exact readItems_more hvalue (skipBlanks_cons rfl _) (ihmore hrest (by omega))
  | @lastMember before between text after key t hbefore hbetween hafter h ih =>
    simp (disch := decide) only [Utf8.bytesOf_append, Utf8.bytesOf_cons_of_lt, Utf8.bytesOf_nil, List.length_append,
      List.length_cons, List.append_assoc, List.cons_append, List.nil_append] at hfuel ⊢
    obtain ⟨fuel, rfl⟩ : ∃ k, fuel = k + 1 := ⟨fuel - 1, by omega⟩
    have hends := endsNumber_blanks hafter (endsNumber_cons '\x7d' (by decide) rest)
    have hvalue := @ih fuel _ hends (by omega)
    rw [Part.ReadFrom, ← readValue_blanks hbetween] at hvalue
    have hlength : (bytesOf (quoteText key).toList).length < fuel + 1 + 1 := by omega
    obtain ⟨quoted, hquote, hkey⟩ := exists_quoted hbefore hlength _
    exact readMembers_last hquote hkey (skipBlanks_cons rfl _) hvalue (skipBlanks_append hafter _)
  | @member before between text more key t ms hbefore hbetween h hmore ih ihmore =>
    simp (disch := decide) only [Utf8.bytesOf_append, Utf8.bytesOf_cons_of_lt, List.length_append, List.length_cons,
      List.append_assoc, List.cons_append] at hfuel ⊢
    obtain ⟨fuel, rfl⟩ : ∃ k, fuel = k + 1 := ⟨fuel - 1, by omega⟩
    have hends := endsNumber_cons ',' (by decide) (bytesOf more ++ rest)
    have hvalue := @ih fuel _ hends (by omega)
    rw [Part.ReadFrom, ← readValue_blanks hbetween] at hvalue
    have hlength : (bytesOf (quoteText key).toList).length < fuel + 1 + 1 := by omega
    obtain ⟨quoted, hquote, hkey⟩ := exists_quoted hbefore hlength _
    exact readMembers_more hquote hkey (skipBlanks_cons rfl _) hvalue (skipBlanks_cons rfl _)
      (ihmore hrest (by omega))

theorem Writes.ofText? {s : String} {t : Tree} (h : Writes s.toList (.value t)) : Tree.ofText? s = some t := by
  have hfuel : (bytesOf s.toList).length ≤ 2 * (bytesOf s.toList).length + 1 := by omega
  have hends : EndsNumber [] := nofun
  have hread := h.readFrom hends hfuel
  rw [Part.ReadFrom, List.append_nil] at hread
  rw [Tree.ofText?, Utf8.encode_eq_bytesOf, Tree.ofBytes?, hread]
  rfl

/-! ## Layouts -/

/-- Parts in a row, with commas between them and a closing mark behind the last, are written if a last part and a part
that more follow are. -/
theorem writes_row {α : Type} {one : List Char → α → Prop} {row : List α → Part} {before after : List Char}
    {closing : Char} (last : ∀ {text a}, one text a → Writes (before ++ text ++ after ++ [closing]) (row [a]))
    (followed : ∀ {text a more as}, one text a → Writes more (row as) →
      Writes (before ++ text ++ ',' :: more) (row (a :: as)))
    {texts : List (List Char)} {as : List α} (h : List.Forall₂ one texts as) (hne : texts ≠ []) :
    Writes ([','].intercalate (texts.map (before ++ ·)) ++ after ++ [closing]) (row as) := by
  induction h with
  | nil => exact absurd rfl hne
  | @cons text a texts as hfirst hmore ih =>
    cases hmore with
    | nil => simpa using last hfirst
    | cons hsecond hmore => simpa using followed hfirst (ih (List.cons_ne_nil _ _))

theorem writes_items {before after : List Char} (hbefore : IsBlank before) (hafter : IsBlank after)
    {texts : List (List Char)} {ts : List Tree} (h : List.Forall₂ (fun text t => Writes text (.value t)) texts ts)
    (hne : texts ≠ []) :
    Writes ([','].intercalate (texts.map (before ++ ·)) ++ after ++ [']']) (.items ts) :=
  writes_row (.lastItem hbefore hafter) (.item hbefore) h hne

/-- A key, a colon and a value behind blanks. -/
inductive WritesMember : List Char → Option String × Tree → Prop where
  | intro (key : String) {between text : List Char} {t : Tree} (hbetween : IsBlank between)
      (h : Writes text (.value t)) : WritesMember ((quoteText key).toList ++ ':' :: (between ++ text)) (some key, t)

theorem writes_members {before after : List Char} (hbefore : IsBlank before) (hafter : IsBlank after)
    {texts : List (List Char)} {ms : List (Option String × Tree)} (h : List.Forall₂ WritesMember texts ms)
    (hne : texts ≠ []) :
    Writes ([','].intercalate (texts.map (before ++ ·)) ++ after ++ ['\x7d']) (.members ms) := by
  refine writes_row ?_ ?_ h hne
  · rintro _ _ ⟨key, hbetween, hvalue⟩
    simpa using Writes.lastMember hbefore hbetween hafter hvalue
  · rintro _ _ more ms ⟨key, hbetween, hvalue⟩ hmore
    simpa using Writes.member hbefore hbetween hvalue hmore

theorem isBlank_nil : IsBlank [] := nofun

theorem isBlank_margin (level : Nat) : IsBlank ('\n' :: (Doc.margin level).toList) := by
  intro c hc
  rcases List.mem_cons.1 hc with rfl | hc
  · exact .inr rfl
  · rw [Doc.margin, String.toList_ofList] at hc
    exact .inl (List.mem_replicate.1 hc).2

/-- A line end that every item starts with instead of every item but the first. -/
theorem intercalate_lines {items : List (List Char)} (h : items ≠ []) :
    '\n' :: [',', '\n'].intercalate items = [','].intercalate (items.map ('\n' :: ·)) := by
  induction items with
  | nil => exact absurd rfl h
  | cons item items ih =>
    cases items with
    | nil => simp
    | cons next items =>
      rw [List.intercalate_cons_cons, List.map_cons, List.map_cons, List.intercalate_cons_cons, ← List.map_cons,
        ← ih (List.cons_ne_nil _ _)]
      simp

theorem toList_between (first last : String) (items : List String) : (Doc.between first last items).toList =
    first.toList ++ [','].intercalate (items.map String.toList) ++ last.toList := by
  simp [Doc.between]

theorem toList_stacked (first last : String) (level : Nat) {items : List String} (h : items ≠ []) :
    (Doc.stacked first last level items).toList =
      first.toList ++
        ([','].intercalate ((items.map String.toList).map (('\n' :: (Doc.margin (level + 1)).toList) ++ ·)) ++
          ('\n' :: (Doc.margin level).toList)) ++ last.toList := by
  have hitems : (items.map fun s => (Doc.margin (level + 1)).toList ++ s.toList) ≠ [] := by simpa using h
  have hlines := intercalate_lines hitems
  rw [Doc.stacked, if_neg (by simpa using h)]
  simp only [List.map_map, Function.comp_def] at hlines
  simp [← hlines, Function.comp_def]

namespace Doc

theorem compactItems_eq_map (items : List Doc) : compactItems items = items.map compact := by
  induction items with
  | nil => rfl
  | cons d items ih => rw [compactItems, ih, List.map_cons]

theorem prettyItems_eq_map (level : Nat) (items : List Doc) : prettyItems level items = items.map (prettyAt level) := by
  induction items with
  | nil => rfl
  | cons d items ih => rw [prettyItems, ih, List.map_cons]

theorem compactMembers_eq_map (members : List (String × Doc)) :
    compactMembers members = members.map fun m => quoteText m.1 ++ ":" ++ m.2.compact := by
  induction members with
  | nil => rfl
  | cons m members ih => rw [compactMembers, ih, List.map_cons]

theorem prettyMembers_eq_map (level : Nat) (members : List (String × Doc)) :
    prettyMembers level members = members.map fun m => quoteText m.1 ++ ": " ++ m.2.prettyAt level := by
  induction members with
  | nil => rfl
  | cons m members ih => rw [prettyMembers, ih, List.map_cons]

/-- Both layouts of a document write a value. -/
structure Written (d : Doc) (t : Tree) : Prop where
  compact : Writes d.compact.toList (.value t)
  pretty (level : Nat) : Writes (d.prettyAt level).toList (.value t)

/-- A document is read back as the value that its layouts write. -/
theorem Written.ofText? {d : Doc} {t : Tree} (h : d.Written t) :
    Tree.ofText? d.compact = some t ∧ Tree.ofText? d.pretty = some t :=
  ⟨h.compact.ofText?, (h.pretty 0).ofText?⟩

theorem written_plain {s : String} {t : Tree} (h : Writes s.toList (.value t)) : (plain s).Written t where
  compact := by simpa only [Doc.compact] using h
  pretty level := by simpa only [Doc.prettyAt] using h

theorem written_text (s : String) : (text s).Written (.text (some s)) where
  compact := by simpa only [Doc.compact] using .text s
  pretty level := by simpa only [Doc.prettyAt] using .text s

theorem written_list {items : List Doc} {ts : List Tree} (h : List.Forall₂ Written items ts) :
    (list items).Written (.list ts) := by
  by_cases hne : items = []
  · subst hne
    cases h
    exact ⟨.emptyList, fun _ => by simpa [prettyAt, prettyItems, stacked] using .emptyList⟩
  · constructor
    · have htexts : List.Forall₂ (fun text t => Writes text (.value t))
          ((items.map Doc.compact).map String.toList) ts := by
        simp only [List.forall₂_map_left_iff]
        exact h.imp fun _ _ hd => hd.compact
      have hitems := writes_items isBlank_nil isBlank_nil htexts (by simpa using hne)
      rw [Doc.compact, compactItems_eq_map, toList_between]
      simpa [Function.comp_def] using Writes.list hitems
    · intro level
      have htexts : List.Forall₂ (fun text t => Writes text (.value t))
          ((items.map (prettyAt (level + 1))).map String.toList) ts := by
        simp only [List.forall₂_map_left_iff]
        exact h.imp fun _ _ hd => hd.pretty (level + 1)
      have hitems := writes_items (isBlank_margin (level + 1)) (isBlank_margin level) htexts (by simpa using hne)
      rw [prettyAt, prettyItems_eq_map, toList_stacked _ _ _ (by simpa using hne)]
      simpa using Writes.list hitems

def WrittenMember (m : String × Doc) (n : Option String × Tree) : Prop := n.1 = some m.1 ∧ m.2.Written n.2

theorem written_object {members : List (String × Doc)} {ms : List (Option String × Tree)}
    (h : List.Forall₂ WrittenMember members ms) : (object members).Written (.object ms) := by
  by_cases hne : members = []
  · subst hne
    cases h
    exact ⟨.emptyObject, fun _ => by simpa [prettyAt, prettyMembers, stacked] using .emptyObject⟩
  · constructor
    · have htexts : List.Forall₂ WritesMember
          ((members.map fun m => quoteText m.1 ++ ":" ++ m.2.compact).map String.toList) ms := by
        simp only [List.forall₂_map_left_iff]
        refine h.imp fun m n hm => ?_
        obtain ⟨key, t⟩ := n
        obtain ⟨rfl, hd⟩ := hm
        simpa using WritesMember.intro m.1 isBlank_nil hd.compact
      have hmembers := writes_members isBlank_nil isBlank_nil htexts (by simpa using hne)
      rw [Doc.compact, compactMembers_eq_map, toList_between]
      simpa [Function.comp_def] using Writes.object hmembers
    · intro level
      have htexts : List.Forall₂ WritesMember
          ((members.map fun m => quoteText m.1 ++ ": " ++ m.2.prettyAt (level + 1)).map String.toList) ms := by
        simp only [List.forall₂_map_left_iff]
        refine h.imp fun m n hm => ?_
        obtain ⟨key, t⟩ := n
        obtain ⟨rfl, hd⟩ := hm
        have hbetween : IsBlank [' '] := by simp [IsBlank]
        simpa using WritesMember.intro m.1 hbetween (hd.pretty (level + 1))
      have hmembers := writes_members (isBlank_margin (level + 1)) (isBlank_margin level) htexts (by simpa using hne)
      rw [prettyAt, prettyMembers_eq_map, toList_stacked _ _ _ (by simpa using hne)]
      simpa using Writes.object hmembers

end Doc

end SeriesQuery.Json
