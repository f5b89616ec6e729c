import SeriesQuery.Output
import SeriesQuery.Proofs.Double.Extremes
import SeriesQuery.Proofs.Json.Documents
import SeriesQuery.Proofs.Json.Wholes

/-! # Series in JSON and back

What is written of series is read back value by value. Targets, times and integers always survive, and whether a value
is an integer or a double does too, though nothing but the text of the number tells the two apart. A double becomes
the one that its own text is worth to the reader of numbers: where that is the same double, everything is as it was.
Both zeros are such doubles, and so are the whole numbers below `2 ^ 53` of which ten times fits the significand.
-/

namespace SeriesQuery

open Json

/-- The double that a double becomes when its JSON text is read as a number. -/
def Double.reread? (x : Double) : Option Double :=
  match Tree.ofText? x.jsonText with
  | some (.number n) => n.toDouble?
  | _ => none

theorem writes_double {x : Double} (hx : x.isFinite = true) {w : WrittenNumber}
    (htext : w.text = Double.Layout.json.chars x) : Writes x.jsonText.toList (.value (.number w.number)) := by
  rw [Double.jsonText, if_pos hx, String.toList_ofList, ← htext]
  exact .number w

/-- The text of a finite double is worth what its digits are. -/
theorem Double.reread?_of_text {x : Double} (hx : x.isFinite = true) {w : WrittenNumber}
    (htext : w.text = Layout.json.chars x) : x.reread? = w.number.toDouble? := by
  rw [reread?, (writes_double hx htext).ofText?]

/-- What becomes of a whole number: it is a tenth of what ten times the number has been rounded to. -/
theorem Double.reread?_ofInt {n : Int} (small : n.natAbs < 2 ^ 53) :
    (ofInt n).reread? = some (ofRatio (decide (n < 0)) (nearestWhole (10 * n.natAbs)) 10) := by
  have hlog : n.natAbs.log2 ≤ 63 := log2_le_of_lt (by omega)
  rw [reread?_of_text (parts_ofInt hlog).1 (WrittenNumber.text_ofWhole small), WrittenNumber.toDouble?_ofWhole small]

/-- All whole numbers below `2 ^ 53 / 10` are read back as they were, and those of the others of which ten times ends
with enough zeros in binary. -/
theorem Double.reread?_ofInt_of_fits {n : Int} (small : n.natAbs < 2 ^ 53) (hfits : FitsSignificand (10 * n)) :
    (ofInt n).reread? = some (ofInt n) := by
  rw [fitsSignificand_iff, Int.natAbs_mul] at hfits
  have hnearest : nearestWhole (10 * n.natAbs) = n.natAbs * 10 := hfits.trans (Nat.mul_comm _ _)
  have hquotient := nearestMagnitude_mul_mul n.natAbs Nat.one_pos (show 0 < 10 by decide)
  rw [reread?_ofInt small, hnearest, ofInt, ofRatio, ofRatio, ← hquotient]

/-- Ten times this number is rounded up, so far that the number comes back with a half added. -/
example : (Double.ofInt 3700000000000014).reread? ≠ some (Double.ofInt 3700000000000014) := by decide +kernel

theorem Double.reread?_of_isZero {x : Double} (h : x.isZero = true) : x.reread? = some x := by
  rw [isZero, beq_iff_eq] at h
  have hself : ofParts x.isNegative 0 = x :=
    eq_of_isNegative_of_magnitude (isNegative_ofParts _ (by decide)) ((magnitude_ofParts _ (by decide)).trans h.symm)
  rw [← hself]
  cases x.isNegative <;> decide +kernel

/-- What a value becomes: integers stay integers, and doubles stay doubles. -/
def Value.reread? : Value → Option Value
  | .int n => some (.int n)
  | .float x => x.reread?.map .float

theorem writes_int (n : Int64) :
    Writes (toString n.toInt).toList (.value (.number (WrittenNumber.ofInt n.toInt).number)) := by
  rw [← WrittenNumber.text_ofInt]
  exact .number _

/-- The text of a value is read as what the value becomes. -/
theorem Value.exists_writes (v : Value) : ∃ t, Writes v.jsonText.toList (.value t) ∧ t.value? = v.reread? := by
  cases v with
  | int n =>
    refine ⟨_, writes_int n, ?_⟩
    simp [Tree.value?, Number.toValue?, toInt64?_ofInt, reread?]
  | float x =>
    by_cases hx : x.isFinite = true
    · obtain ⟨w, htext, hw⟩ := exists_chars x
      refine ⟨_, writes_double hx htext, ?_⟩
      rw [reread?, Double.reread?_of_text hx htext, Tree.value?, Number.toValue?, toInt64?_of_isWhole hw]
    · have hwrites : Writes (Value.float x).jsonText.toList (.value .null) := by
        rw [Value.jsonText, Double.jsonText, if_neg hx]
        exact .null
      have hreread : x.reread? = none := by
        rw [Double.reread?, show x.jsonText = (Value.float x).jsonText from rfl, hwrites.ofText?]
      exact ⟨_, hwrites, by rw [reread?, hreread]; rfl⟩

/-- Where each element has a counterpart that is read in the same way, so has a whole list. -/
theorem exists_forall₂_mapM {α β γ : Type} {r : α → β → Prop} {f : β → Option γ} {g : α → Option γ} {as : List α}
    (h : ∀ a ∈ as, ∃ b, r a b ∧ f b = g a) : ∃ bs, List.Forall₂ r as bs ∧ bs.mapM f = as.mapM g := by
  induction as with
  | nil => exact ⟨[], .nil, rfl⟩
  | cons a as ih =>
    rw [List.forall_mem_cons] at h
    obtain ⟨b, hb, hfb⟩ := h.1
    obtain ⟨bs, hbs, hmap⟩ := ih h.2
    exact ⟨b :: bs, .cons hb hbs, by rw [List.mapM_cons, List.mapM_cons, hfb, hmap]⟩

namespace OutputSeries

def rereadDatapoint? (d : Value × Int64) : Option (Value × Int64) := d.1.reread?.map (·, d.2)

def reread? (s : OutputSeries) : Option OutputSeries :=
  (s.datapoints.mapM rereadDatapoint?).map fun ds => ⟨s.target, ds⟩

theorem exists_written_datapoint (d : Value × Int64) :
    ∃ t, (Doc.list [.plain d.1.jsonText, .plain (toString d.2.toInt)]).Written t ∧
      datapoint? t = rereadDatapoint? d := by
  obtain ⟨t, hvalue, ht⟩ := d.1.exists_writes
  have htime := Doc.written_plain (writes_int d.2)
  refine ⟨_, Doc.written_list (.cons (Doc.written_plain hvalue) (.cons htime .nil)), ?_⟩
  simp only [datapoint?, ht, Tree.int64?, toInt64?_ofInt, rereadDatapoint?]
  cases d.1.reread? <;> rfl

theorem fields?_object (target datapoints : Tree) :
    (Tree.object [(some "target", target), (some "datapoints", datapoints)]).fields? ["target", "datapoints"] =
      some [some target, some datapoints] := by
  simp [Tree.fields?]

theorem exists_written (s : OutputSeries) : ∃ t, s.toDoc.Written t ∧ ofTree? t = s.reread? := by
  obtain ⟨ts, hdocs, hread⟩ := exists_forall₂_mapM fun d (_ : d ∈ s.datapoints) => exists_written_datapoint d
  have hdatapoints := Doc.written_list (List.forall₂_map_left_iff.2 hdocs)
  have hseries : s.toDoc.Written (.object [(some "target", .text (some s.target)), (some "datapoints", .list ts)]) :=
    Doc.written_object (.cons ⟨rfl, Doc.written_text s.target⟩ (.cons ⟨rfl, hdatapoints⟩ .nil))
  refine ⟨_, hseries, ?_⟩
  simp only [ofTree?, fields?_object, Tree.required?, Option.bind_some, Tree.text?, Tree.listOf?, hread, reread?]
  cases s.datapoints.mapM rereadDatapoint? <;> rfl

/-- In both layouts, series are read as what becomes of each of them. -/
theorem ofJson?_listDoc (series : List OutputSeries) :
    ofJson? (listDoc series).compact = series.mapM reread? ∧ ofJson? (listDoc series).pretty = series.mapM reread? := by
  obtain ⟨ts, hdocs, hread⟩ := exists_forall₂_mapM fun s (_ : s ∈ series) => s.exists_written
  have hlist : (listDoc series).Written (.list ts) := Doc.written_list (List.forall₂_map_left_iff.2 hdocs)
  rw [ofJson?, ofJson?, hlist.ofText?.1, hlist.ofText?.2]
  exact ⟨hread, hread⟩

theorem mapM_eq_some_self_iff {α : Type} {f : α → Option α} {as : List α} :
    as.mapM f = some as ↔ ∀ a ∈ as, f a = some a := by
  induction as with
  | nil => simp
  | cons a as ih =>
    rw [List.forall_mem_cons, ← ih, List.mapM_cons]
    cases f a with
    | none => simp
    | some b => cases as.mapM f <;> simp

theorem reread?_eq_some_self_iff (s : OutputSeries) :
    s.reread? = some s ↔ ∀ d ∈ s.datapoints, ∀ x, d.1 = .float x → x.reread? = some x := by
  have hpoint (d : Value × Int64) : rereadDatapoint? d = some d ↔ ∀ x, d.1 = .float x → x.reread? = some x := by
    obtain ⟨v, time⟩ := d
    cases v with
    | int n => simp [rereadDatapoint?, Value.reread?]
    | float x => cases hx : x.reread? <;> simp [rereadDatapoint?, Value.reread?, hx]
  have hseries : s.reread? = some s ↔ s.datapoints.mapM rereadDatapoint? = some s.datapoints := by
    obtain ⟨target, datapoints⟩ := s
    rw [reread?]
    cases datapoints.mapM rereadDatapoint? <;> simp
  rw [hseries, mapM_eq_some_self_iff]
  exact forall₂_congr fun d _ => hpoint d

/-- In both layouts, series are read back as they were just when the text of each of their doubles is worth that
double again. Nothing is asked of targets, times and integers. -/
theorem reads_back_iff (series : List OutputSeries) :
    (ofJson? (listDoc series).compact = some series ↔
      ∀ s ∈ series, ∀ d ∈ s.datapoints, ∀ x, d.1 = .float x → x.reread? = some x) ∧
    (ofJson? (listDoc series).pretty = some series ↔
      ∀ s ∈ series, ∀ d ∈ s.datapoints, ∀ x, d.1 = .float x → x.reread? = some x) := by
  obtain ⟨hcompact, hpretty⟩ := ofJson?_listDoc series
  rw [hcompact, hpretty, mapM_eq_some_self_iff]
  simp only [reread?_eq_some_self_iff, and_self]

/-- Escapes, the ends of the range, a whole number, the negative zero and a number beyond the integers. -/
theorem reads_back_escapes_and_ends :
    let series : List OutputSeries := [⟨"\"\\\n\x01é", [(.int Int64.minValue, Int64.maxValue), (.float (.ofInt 61), -1),
      (.float .negativeZero, 0), (.float ⟨0x4415AF1D78B58C40⟩, Int64.minValue)]⟩]
    ofJson? (listDoc series).compact = some series ∧ ofJson? (listDoc series).pretty = some series := by
  intro series
  have hreread : ∀ s ∈ series, ∀ d ∈ s.datapoints, ∀ x, d.1 = .float x → x.reread? = some x := by
    simp only [series, List.forall_mem_cons, List.not_mem_nil, false_imp_iff, implies_true, and_true, reduceCtorEq,
      Value.float.injEq, forall_eq', true_and]
    exact ⟨Double.reread?_ofInt_of_fits (by decide) ⟨610, 0, by decide, by decide⟩, Double.reread?_of_isZero rfl,
      by decide +kernel⟩
  exact ⟨(reads_back_iff series).1.2 hreread, (reads_back_iff series).2.2 hreread⟩

/-- The text of this double is worth the next one: `9452706955539223` takes more than 53 bits, and what it is rounded
to is rounded again when it is divided by `10 ^ 16`. -/
example : (⟨0x3FEE3FA85468AE3C⟩ : Double).reread? = some ⟨0x3FEE3FA85468AE3D⟩ := by decide +kernel

end OutputSeries
end SeriesQuery
