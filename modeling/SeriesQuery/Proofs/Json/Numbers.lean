import SeriesQuery.Double.Text
import SeriesQuery.Proofs.Double.Shortest
import SeriesQuery.Proofs.Json.Strings
import SeriesQuery.Proofs.Stage.ArgumentForms

/-! # Written numbers

A number that is written in digits is read back as those digits, whatever follows it that is no part of a number.
The texts of 64-bit integers are such numbers without fraction and exponent, and are worth the integer again. The
texts of finite doubles are such numbers as well, but always with a fraction or an exponent: none of them is taken
for an integer.
-/

namespace SeriesQuery.Json

open Argument (IsDigits isDigits_iff)
open Utf8 (bytesOf)

/-- A number as characters: digits without needless zeros in front, and perhaps a sign, a fraction, an exponent. -/
structure WrittenNumber where
  negative : Bool
  whole : List Char
  fraction : Option (List Char)
  exponent : Option (Bool × List Char)
  whole_digits : IsDigits whole
  whole_head : whole.head? = some '0' → whole = ['0']
  fraction_digits : ∀ digits ∈ fraction, IsDigits digits
  exponent_digits : ∀ e ∈ exponent, IsDigits e.2

def digitValues (digits : List Char) : List Nat := digits.map fun c => c.toNat - '0'.toNat

namespace WrittenNumber

def fractionText (w : WrittenNumber) : List Char :=
  match w.fraction with
  | none => []
  | some digits => '.' :: digits

def exponentText (w : WrittenNumber) : List Char :=
  match w.exponent with
  | none => []
  | some (negative, digits) => 'e' :: (if negative then '-' else '+') :: digits

def body (w : WrittenNumber) : List Char := w.whole ++ w.fractionText ++ w.exponentText

def text (w : WrittenNumber) : List Char := if w.negative then '-' :: w.body else w.body

def number (w : WrittenNumber) : Number where
  negative := w.negative
  whole := digitValues w.whole
  fraction := w.fraction.map digitValues
  exponent := w.exponent.map fun e => (e.1, digitValues e.2)

end WrittenNumber

/-! ## Reading -/

/-- What stands behind a number and is no part of it. -/
def EndsNumber (rest : List UInt8) : Prop :=
  ∀ b ∈ rest.head?, digit? b = none ∧ isAt b '.' = false ∧ isAt b 'e' = false ∧ isAt b 'E' = false

theorem toNat_of_isDigit {c : Char} (h : c.isDigit = true) : 48 ≤ c.toNat ∧ c.toNat ≤ 57 := by
  rw [Argument.isDigit_iff] at h
  exact h

theorem digit?_ofNat {c : Char} (h : c.isDigit = true) :
    digit? (UInt8.ofNat c.toNat) = some (c.toNat - '0'.toNat) := by
  obtain ⟨hlow, hhigh⟩ := toNat_of_isDigit h
  have hmod : (UInt8.ofNat c.toNat).toNat = c.toNat := Utf8.toNat_ofNat_of_lt (by omega)
  have hrange : 0x30 ≤ UInt8.ofNat c.toNat ∧ UInt8.ofNat c.toNat ≤ 0x39 := by
    rw [UInt8.le_iff_toNat_le, UInt8.le_iff_toNat_le, hmod]
    exact ⟨hlow, hhigh⟩
  rw [digit?, if_pos hrange, hmod]
  rfl

theorem readDigits_of_head {rest : List UInt8} (h : ∀ b ∈ rest.head?, digit? b = none) :
    readDigits rest = ([], rest) := by
  cases rest with
  | nil => rfl
  | cons b rest => simp [readDigits, h b rfl]

theorem readDigits_append {digits : List Char} (hdigits : ∀ c ∈ digits, c.isDigit = true) {rest : List UInt8}
    (hrest : ∀ b ∈ rest.head?, digit? b = none) :
    readDigits (bytesOf digits ++ rest) = (digitValues digits, rest) := by
  induction digits with
  | nil => exact readDigits_of_head hrest
  | cons c digits ih =>
    rw [List.forall_mem_cons] at hdigits
    have hascii : c.toNat < 0x80 := Nat.lt_of_le_of_lt (toNat_of_isDigit hdigits.1).2 (by decide)
    rw [Utf8.bytesOf_cons_of_lt hascii, List.cons_append]
    simp only [readDigits, digit?_ofNat hdigits.1, ih hdigits.2, digitValues, List.map_cons]

/-- A row of digits is read as more than nothing. -/
theorem readDigits_isDigits {digits : List Char} (h : IsDigits digits) {rest : List UInt8}
    (hrest : ∀ b ∈ rest.head?, digit? b = none) :
    ∃ d ds, digitValues digits = d :: ds ∧ readDigits (bytesOf digits ++ rest) = (d :: ds, rest) := by
  rw [isDigits_iff] at h
  obtain ⟨c, digits, rfl⟩ := List.exists_cons_of_ne_nil h.1
  exact ⟨_, _, rfl, readDigits_append h.2 hrest⟩

namespace WrittenNumber

variable (w : WrittenNumber) {rest : List UInt8}

theorem readExponent_text (h : EndsNumber rest) :
    readExponent (bytesOf w.exponentText ++ rest) = some (w.number.exponent, rest) := by
  unfold exponentText number
  cases he : w.exponent with
  | none =>
    cases rest with
    | nil => rfl
    | cons b rest =>
      obtain ⟨-, -, hlower, hupper⟩ := h b rfl
      simp [readExponent, hlower, hupper]
  | some e =>
    obtain ⟨negative, digits⟩ := e
    have hdigits : IsDigits digits := w.exponent_digits _ he
    obtain ⟨d, ds, hvalues, hread⟩ := readDigits_isDigits hdigits fun b hb => (h b hb).1
    cases negative <;> simp [readExponent, Utf8.bytesOf_cons_of_lt, isAt, hread, hvalues]

/-- Behind the integer part and behind the fraction stands no digit and no point. -/
theorem head_exponentText (h : EndsNumber rest) :
    ∀ b ∈ (bytesOf w.exponentText ++ rest).head?, digit? b = none ∧ isAt b '.' = false := by
  unfold exponentText
  cases w.exponent with
  | none => exact fun b hb => ⟨(h b hb).1, (h b hb).2.1⟩
  | some e =>
    intro b hb
    simp [Utf8.bytesOf_cons_of_lt] at hb
    subst hb
    exact ⟨rfl, rfl⟩

theorem readFraction_text (h : EndsNumber rest) :
    readFraction (bytesOf (w.fractionText ++ w.exponentText) ++ rest) =
      some (w.number.fraction, bytesOf w.exponentText ++ rest) := by
  have hhead := w.head_exponentText h
  rw [Utf8.bytesOf_append, List.append_assoc]
  generalize bytesOf w.exponentText ++ rest = after at hhead ⊢
  unfold fractionText number
  cases hf : w.fraction with
  | none =>
    cases after with
    | nil => rfl
    | cons b after => simp [readFraction, (hhead b rfl).2]
  | some digits =>
    obtain ⟨d, ds, hvalues, hread⟩ := readDigits_isDigits (w.fraction_digits _ hf) fun b hb => (hhead b hb).1
    simp [readFraction, Utf8.bytesOf_cons_of_lt, isAt, hread, hvalues]

theorem head_afterWhole (h : EndsNumber rest) :
    ∀ b ∈ (bytesOf (w.fractionText ++ w.exponentText) ++ rest).head?, digit? b = none := by
  have hhead := w.head_exponentText h
  rw [Utf8.bytesOf_append, List.append_assoc]
  unfold fractionText
  cases w.fraction with
  | none => exact fun b hb => (hhead b hb).1
  | some digits =>
    intro b hb
    simp [Utf8.bytesOf_cons_of_lt] at hb
    subst hb
    rfl

/-- The digits of the integer part do not start with a zero that more digits follow. -/
theorem digitValues_whole_ne (d : Nat) (ds : List Nat) : digitValues w.whole ≠ 0 :: d :: ds := by
  intro hvalues
  obtain ⟨hne, hdigits⟩ := isDigits_iff.1 w.whole_digits
  have hhead := w.whole_head
  obtain ⟨c, more, hwhole⟩ := List.exists_cons_of_ne_nil hne
  rw [hwhole, digitValues, List.map_cons, List.cons.injEq] at hvalues
  have hc := toNat_of_isDigit (hdigits c (by simp [hwhole]))
  have hzero : c = '0' := Char.toNat_inj.1 (Nat.le_antisymm (Nat.sub_eq_zero_iff_le.1 hvalues.1) hc.1)
  rw [hwhole, hzero, List.head?_cons] at hhead
  have hmore : more = [] := by simpa using hhead rfl
  rw [hmore] at hvalues
  exact absurd hvalues.2 (by simp)

/-- A number starts with a sign or a digit, which stand close together in ASCII. -/
theorem exists_first : ∃ c more, w.text = c :: more ∧ '-'.toNat ≤ c.toNat ∧ c.toNat ≤ '9'.toNat := by
  obtain ⟨hne, hdigits⟩ := isDigits_iff.1 w.whole_digits
  obtain ⟨c, more, hwhole⟩ := List.exists_cons_of_ne_nil hne
  have hc := toNat_of_isDigit (hdigits c (by simp [hwhole]))
  cases hn : w.negative with
  | true => exact ⟨'-', w.body, by simp [text, hn], by decide, by decide⟩
  | false =>
    refine ⟨c, more ++ w.fractionText ++ w.exponentText, ?_, Nat.le_trans (by decide) hc.1, hc.2⟩
    simp [text, body, hn, hwhole]

/-- A number behind its sign. -/
theorem readNumber_text (h : EndsNumber rest) : readNumber (bytesOf w.text ++ rest) = some (w.number, rest) := by
  have hfraction := w.readFraction_text h
  have hexponent := w.readExponent_text h
  have hne := w.digitValues_whole_ne
  obtain ⟨c, more, hwhole⟩ := List.exists_cons_of_ne_nil w.whole_digits.1
  obtain ⟨d, ds, hvalues, hread⟩ := readDigits_isDigits w.whole_digits (w.head_afterWhole h)
  have hc := toNat_of_isDigit ((isDigits_iff.1 w.whole_digits).2 c (by simp [hwhole]))
  have hminus : isAt (UInt8.ofNat c.toNat) '-' = false := by
    rw [isAt_ofNat (by omega)]
    exact decide_eq_false (by rintro rfl; exact absurd hc.1 (by decide))
  have hbody : bytesOf w.body ++ rest =
      bytesOf w.whole ++ (bytesOf (w.fractionText ++ w.exponentText) ++ rest) := by simp [body]
  have hfirst : bytesOf w.whole = UInt8.ofNat c.toNat :: bytesOf more := by
    rw [hwhole, Utf8.bytesOf_cons_of_lt (by omega)]
  have hnumber : w.number = ⟨w.negative, d :: ds, w.number.fraction, w.number.exponent⟩ := by
    rw [← hvalues]
    rfl
  rw [hvalues] at hne
  unfold readNumber text
  cases hn : w.negative with
  | true =>
    rw [if_pos rfl, Utf8.bytesOf_cons_of_lt (by decide), List.cons_append, hbody]
    simp only [show isAt (UInt8.ofNat '-'.toNat) '-' = true from rfl, if_true, hread, hfraction, hexponent,
      Option.bind_eq_bind, Option.bind_some]
    rw [hnumber, hn]
  | false =>
    rw [if_neg Bool.false_ne_true, hbody, hfirst, List.cons_append]
    simp only [hminus, Bool.false_eq_true, if_false]
    rw [← List.cons_append, ← hfirst, hread]
    simp only [hfraction, hexponent, Option.bind_eq_bind, Option.bind_some]
    rw [hnumber, hn]

end WrittenNumber

/-! ## Integers -/

theorem isDigits_toDigits (n : Nat) : IsDigits (Nat.toDigits 10 n) :=
  isDigits_iff.2 ⟨Nat.toDigits_ne_nil, fun _ hc => Nat.isDigit_of_mem_toDigits (by decide) (by decide) hc⟩

theorem head?_toDigits {n : Nat} (h : n ≠ 0) : (Nat.toDigits 10 n).head? ≠ some '0' := by
  induction n using Nat.strongRecOn with
  | ind n ih =>
    by_cases hn : n < 10
    · rw [Nat.toDigits_of_lt_base hn]
      have hdigit : ∀ k < 10, k ≠ 0 → Nat.digitChar k ≠ '0' := by decide
      simpa using hdigit n hn h
    · rw [Nat.toDigits_of_base_le (by decide) (Nat.not_lt.1 hn), List.head?_append_of_ne_nil _ Nat.toDigits_ne_nil]
      exact ih (n / 10) (by omega) (by omega)

theorem toDigits_eq_zero_of_head? {n : Nat} (h : (Nat.toDigits 10 n).head? = some '0') : Nat.toDigits 10 n = ['0'] := by
  by_cases hn : n = 0
  · rw [hn, Nat.toDigits_zero]
  · exact absurd h (head?_toDigits hn)

def WrittenNumber.ofInt (n : Int) : WrittenNumber where
  negative := decide (n < 0)
  whole := Nat.toDigits 10 n.natAbs
  fraction := none
  exponent := none
  whole_digits := isDigits_toDigits _
  whole_head := toDigits_eq_zero_of_head?
  fraction_digits := nofun
  exponent_digits := nofun

theorem WrittenNumber.text_ofInt (n : Int) : (ofInt n).text = (toString n).toList := by
  rw [Int.toString_eq_repr, Int.repr_eq_if, text]
  by_cases hn : n < 0
  · have habs : (-n).toNat = n.natAbs := by omega
    rw [if_pos (by simpa [ofInt] using hn), if_neg (Int.not_le.2 hn), String.toList_append, Nat.toList_repr, habs]
    simp [body, fractionText, exponentText, ofInt]
  · have habs : n.toNat = n.natAbs := by omega
    rw [if_neg (by simpa [ofInt] using hn), if_pos (Int.not_lt.1 hn), Nat.toList_repr, habs]
    simp [body, fractionText, exponentText, ofInt]

theorem digitsValue_digitValues (digits : List Char) :
    Number.digitsValue (digitValues digits) = Nat.ofDigitChars 10 digits 0 := by
  rw [Nat.ofDigitChars_eq_foldl, Number.digitsValue, digitValues, List.foldl_map]

/-- The digits of a 64-bit integer are worth the integer. -/
theorem toInt64?_ofInt (n : Int64) : (WrittenNumber.ofInt n.toInt).number.toInt64? = some n := by
  have hvalue : Number.digitsValue (digitValues (Nat.toDigits 10 n.toInt.natAbs)) = n.toInt.natAbs := by
    rw [digitsValue_digitValues, Nat.ofDigitChars_ten_toDigits]
  have hlow := n.le_toInt
  have hhigh := n.toInt_lt
  unfold Number.toInt64? WrittenNumber.number WrittenNumber.ofInt
  simp only [hvalue, Number.isWhole, Option.map_none, Option.isNone_none, Bool.and_true, Bool.not_true, Bool.false_eq_true,
    if_false, decide_eq_true_eq, show Nat.pow 2 63 = 2 ^ 63 from rfl]
  by_cases hn : n.toInt < 0
  · have hback : -(n.toInt.natAbs : Int) = n.toInt := by omega
    rw [if_pos hn, if_pos (by omega), hback, Int64.ofInt_toInt]
  · have hback : (n.toInt.natAbs : Int) = n.toInt := by omega
    rw [if_neg hn, if_pos (by omega), ← Int64.ofInt_eq_ofNat, hback, Int64.ofInt_toInt]

/-! ## Doubles -/

open Double (Layout zeros)

theorem isDigit_of_mem_zeros {count : Nat} {c : Char} (h : c ∈ zeros count) : c.isDigit = true := by
  rw [(List.mem_replicate.1 h).2]
  rfl

theorem isDigits_zero : IsDigits ['0'] := isDigits_iff.2 ⟨List.cons_ne_nil _ _, List.forall_mem_singleton.2 rfl⟩

def WrittenNumber.ofFraction (negative : Bool) {whole fraction : List Char} (hwhole : IsDigits whole)
    (hhead : whole.head? = some '0' → whole = ['0']) (hfraction : IsDigits fraction) : WrittenNumber where
  negative := negative
  whole := whole
  fraction := some fraction
  exponent := none
  whole_digits := hwhole
  whole_head := hhead
  fraction_digits := fun _ h => Option.some.inj h ▸ hfraction
  exponent_digits := nofun

theorem WrittenNumber.body_ofFraction (negative : Bool) {whole fraction : List Char} (hwhole : IsDigits whole)
    (hhead : whole.head? = some '0' → whole = ['0']) (hfraction : IsDigits fraction) :
    (ofFraction negative hwhole hhead hfraction).body = whole ++ '.' :: fraction := by
  simp [body, fractionText, exponentText, ofFraction]

def WrittenNumber.ofWhole (n : Int) : WrittenNumber :=
  .ofFraction (decide (n < 0)) (isDigits_toDigits n.natAbs) toDigits_eq_zero_of_head? isDigits_zero

/-- The positional layout writes a fraction. -/
theorem exists_place (negative : Bool) {digits : List Char} (hdigits : IsDigits digits)
    (hhead : digits.head? ≠ some '0') (point : Int) : ∃ w : WrittenNumber,
      w.negative = negative ∧ w.body = Layout.json.place digits point ∧ w.number.isWhole = false := by
  obtain ⟨hne, hall⟩ := isDigits_iff.1 hdigits
  unfold Layout.place
  by_cases hpoint : point ≤ 0
  · have hfraction : IsDigits (zeros (-point).toNat ++ digits) := by
      refine isDigits_iff.2 ⟨by simp [hne], fun c hc => ?_⟩
      exact (List.mem_append.1 hc).elim isDigit_of_mem_zeros (hall c)
    refine ⟨.ofFraction negative isDigits_zero (fun _ => rfl) hfraction, rfl, ?_, rfl⟩
    rw [WrittenNumber.body_ofFraction, if_pos hpoint]
    rfl
  · rw [if_neg hpoint]
    by_cases hlength : digits.length ≤ point.toNat
    · have hwhole : IsDigits (digits ++ zeros (point.toNat - digits.length)) := by
        refine isDigits_iff.2 ⟨by simp [hne], fun c hc => ?_⟩
        exact (List.mem_append.1 hc).elim (hall c) isDigit_of_mem_zeros
      have hfirst : (digits ++ zeros (point.toNat - digits.length)).head? ≠ some '0' := by
        rwa [List.head?_append_of_ne_nil _ hne]
      refine ⟨.ofFraction negative hwhole (fun h => absurd h hfirst) isDigits_zero, rfl, ?_, rfl⟩
      rw [WrittenNumber.body_ofFraction, if_pos hlength]
      rfl
    · have hwhole : IsDigits (digits.take point.toNat) := by
        refine isDigits_iff.2 ⟨?_, fun c hc => hall c (List.mem_of_mem_take hc)⟩
        simp [hne]
        omega
      have hfirst : (digits.take point.toNat).head? ≠ some '0' := by
        rwa [List.head?_take, if_neg (by omega)]
      have hfraction : IsDigits (digits.drop point.toNat) := by
        refine isDigits_iff.2 ⟨?_, fun c hc => hall c (List.mem_of_mem_drop hc)⟩
        simpa using hlength
      refine ⟨.ofFraction negative hwhole (fun h => absurd h hfirst) hfraction, rfl, ?_, rfl⟩
      rw [WrittenNumber.body_ofFraction, if_neg hlength]

def WrittenNumber.ofScale (negative : Bool) {c : Char} {more : List Char} (h : IsDigits (c :: more)) (exponent : Int) :
    WrittenNumber where
  negative := negative
  whole := [c]
  fraction := if more = [] then none else some more
  exponent := some (decide (exponent < 0), Nat.toDigits 10 exponent.natAbs)
  whole_digits := isDigits_iff.2 (by simpa using (isDigits_iff.1 h).2 c)
  whole_head := fun hc => by simpa using hc
  fraction_digits := fun digits hd => by
    split at hd
    · cases hd
    · rename_i hmore
      cases hd
      exact isDigits_iff.2 ⟨hmore, fun d hd => (isDigits_iff.1 h).2 d (List.mem_cons_of_mem c hd)⟩
  exponent_digits := fun _ he => Option.some.inj he ▸ isDigits_toDigits _

/-- The other layout writes an exponent. -/
theorem WrittenNumber.body_ofScale (negative : Bool) {c : Char} {more : List Char} (h : IsDigits (c :: more))
    (exponent : Int) : (ofScale negative h exponent).body = Layout.json.scale (c :: more) exponent := by
  have hexponent : (toString exponent.natAbs).toList = Nat.toDigits 10 exponent.natAbs := Nat.toList_repr
  have hmark : (if 0 ≤ exponent then Layout.json.exponentMark else Layout.json.negativeExponentMark).toList =
      'e' :: if exponent < 0 then ['-'] else ['+'] := by
    by_cases he : exponent < 0
    · rw [if_neg (Int.not_le.2 he), if_pos he]
      rfl
    · rw [if_pos (Int.not_lt.1 he), if_neg he]
      rfl
  simp only [Layout.scale, hexponent, hmark]
  by_cases he : exponent < 0
  · cases more <;> simp [body, fractionText, exponentText, ofScale, he]
  · cases more <;> simp [body, fractionText, exponentText, ofScale, he]

theorem WrittenNumber.text_eq {w : WrittenNumber} {negative : Bool} {body : List Char} (hsign : w.negative = negative)
    (hbody : w.body = body) : w.text = if negative then '-' :: body else body := by
  rw [text, hsign, hbody]

/-- A finite double is written with a fraction or an exponent. -/
theorem exists_chars (d : Double) :
    ∃ w : WrittenNumber, w.text = Layout.json.chars d ∧ w.number.isWhole = false := by
  unfold Layout.chars
  by_cases hzero : d.isZero = true
  · refine ⟨.ofFraction d.isNegative isDigits_zero (fun _ => rfl) isDigits_zero, ?_, rfl⟩
    simp only [hzero, if_true]
    exact WrittenNumber.text_eq rfl (WrittenNumber.body_ofFraction ..)
  · have hne := Double.digits_shortest_ne_zero (Bool.eq_false_iff.2 hzero) Layout.json.tie
    have hdigits := isDigits_toDigits (d.shortest Layout.json.tie).digits
    have hhead := head?_toDigits hne
    have htext : (toString (d.shortest Layout.json.tie).digits).toList =
        Nat.toDigits 10 (d.shortest Layout.json.tie).digits := Nat.toList_repr
    simp only [hzero, Bool.false_eq_true, if_false, htext]
    generalize Nat.toDigits 10 (d.shortest Layout.json.tie).digits = digits at hdigits hhead ⊢
    by_cases hposition : Layout.json.positional (digits.length + (d.shortest Layout.json.tie).exponent) = true
    · obtain ⟨w, hsign, hbody, hw⟩ := exists_place d.isNegative hdigits hhead _
      simp only [hposition, if_true]
      exact ⟨w, WrittenNumber.text_eq hsign hbody, hw⟩
    · obtain ⟨c, more, rfl⟩ := List.exists_cons_of_ne_nil hdigits.1
      simp only [hposition, Bool.false_eq_true, if_false]
      refine ⟨.ofScale d.isNegative hdigits _, WrittenNumber.text_eq rfl (WrittenNumber.body_ofScale ..), ?_⟩
      simp [WrittenNumber.number, WrittenNumber.ofScale, Number.isWhole]

theorem toInt64?_of_isWhole {n : Number} (h : n.isWhole = false) : n.toInt64? = none := by
  simp [Number.toInt64?, h]

end SeriesQuery.Json
