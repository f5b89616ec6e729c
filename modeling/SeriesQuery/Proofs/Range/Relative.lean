import SeriesQuery.Proofs.Query.Rendering
import SeriesQuery.Proofs.Range.Lengths
import SeriesQuery.RangeRequest

/-! # Ranges that end now

A duration asks for the range of its length that ends now. Without a length above zero, or with one that leads
below the first time that can be written, there is no such range. The lookback of a query is a duration with a
marker behind it, and asks for the same range, or is refused in the same words, as the duration by itself.
-/

namespace SeriesQuery

open Text (FitsInt64)

namespace RangeRequest

def ofLast (text : String) : RangeRequest := ⟨none, some text⟩

/-- The request that leaves the range to the query. -/
def unbounded : RangeRequest := ⟨none, none⟩

theorem resolve_ofLast (text : String) (lookback : Option String) (now : Int64) :
    (ofLast text).resolve lookback now = relative now text := rfl

theorem resolve_unbounded (lookback : String) (now : Int64) :
    unbounded.resolve (some lookback) now = relative now (lookbackText lookback) := rfl

theorem endingNow?_eq_some_iff {now : Int64} {length : Int} {range : TimeRange} :
    endingNow? now length = some range ↔ 0 < length ∧ Int64.minValue.toInt ≤ now.toInt - length ∧
      range.start.toInt = now.toInt - length ∧ now = range.stop := by
  have hnow := Int64.toInt_le now
  obtain ⟨start, stop⟩ := range
  rw [endingNow?]
  simp only
  constructor
  · intro h
    split at h
    · rename_i hfits
      obtain ⟨hlt, hrange⟩ := TimeRange.ofBounds?_eq_some_iff.1 h
      cases hrange
      have hstart : (Int64.ofInt (now.toInt - length)).toInt = now.toInt - length :=
        Int64.toInt_ofInt_of_le hfits.1 (Int.lt_add_one_iff.2 hfits.2)
      rw [Int64.lt_iff_toInt_lt, hstart] at hlt
      exact ⟨by omega, hfits.1, hstart, rfl⟩
    · cases h
  · rintro ⟨hpos, hlow, hstart, rfl⟩
    have hfits : now.toInt - length ≤ Int64.maxValue.toInt := by omega
    rw [if_pos ⟨hlow, hfits⟩, TimeRange.ofBounds?_eq_some_iff, ← hstart, Int64.ofInt_toInt]
    refine ⟨?_, rfl⟩
    rw [Int64.lt_iff_toInt_lt]
    omega

theorem relative_eq_ok_iff {now : Int64} {text : String} {range : TimeRange} :
    relative now text = .ok range ↔ ∃ length, Duration.parse text = .ok length ∧ 0 < length ∧
      Int64.minValue.toInt ≤ now.toInt - length ∧ range.start.toInt = now.toInt - length ∧ now = range.stop := by
  simp only [← endingNow?_eq_some_iff]
  rw [relative]
  cases hparse : Duration.parse text with
  | error cause => simp
  | ok length => cases hnow : endingNow? now length <;> simp [hnow, eq_comm]

/-- The ranges of counts of units. -/
theorem relative_eq_ok_iff_isCountOf {now : Int64} {text : String} {range : TimeRange} :
    relative now text = .ok range ↔ ∃ count unit,
      Duration.IsCountOf (Duration.normalize text.toList) count unit ∧ FitsInt64 count ∧ 0 < count ∧
        count * unit ≤ Int64.maxValue.toInt ∧ Int64.minValue.toInt ≤ now.toInt - count * unit ∧
        range.start.toInt = now.toInt - count * unit ∧ now = range.stop := by
  have hmax : Int64.maxValue.toInt = 9223372036854775807 := rfl
  rw [relative_eq_ok_iff]
  constructor
  · rintro ⟨length, hparse, hpos, hrange⟩
    obtain ⟨count, unit, hcount, hfits, hlimit, rfl⟩ := Duration.parse_eq_ok_iff.1 hparse
    have hunit : 0 < unit := hcount.unit_pos
    have hle : count * unit ≤ Int64.maxValue.toInt := by
      rw [Duration.limit_eq] at hlimit
      omega
    exact ⟨count, unit, hcount, hfits, (mul_pos_iff_of_pos_right hunit).1 hpos, hle, hrange⟩
  · rintro ⟨count, unit, hcount, hfits, hpos, hle, hrange⟩
    have hlength : 0 < count * unit := (mul_pos_iff_of_pos_right hcount.unit_pos).2 hpos
    have hlimit : (count * unit).natAbs ≤ Duration.limit.natAbs := by
      rw [Duration.limit_eq]
      omega
    exact ⟨_, Duration.parse_eq_ok_iff.2 ⟨count, unit, hcount, hfits, hlimit, rfl⟩, hlength, hrange⟩

theorem dropEnd_concat_self (c : Char) (text : List Char) : dropEnd c (text ++ [c]) = dropEnd c text := by
  simp [dropEnd]

theorem dropEnd_concat_of_ne {c d : Char} (h : d ≠ c) (text : List Char) :
    dropEnd c (text ++ [d]) = text ++ [d] := by
  simp [dropEnd, h]

theorem dropEnd_of_not_mem {c : Char} {text : List Char} (h : c ∉ text) : dropEnd c text = text := by
  rcases List.eq_nil_or_concat text with rfl | ⟨front, d, rfl⟩
  · rfl
  · rw [List.concat_eq_append] at h ⊢
    exact dropEnd_concat_of_ne (by rintro rfl; simp at h) front

/-- The marker of a lookback is taken off, and nothing else. -/
theorem lookbackText_append_symbol {text : String} (h : '<' ∉ text.toList) (marker : LookbackMarker) :
    lookbackText (text ++ marker.symbol) = text := by
  have hbelow : dropEnd '<' (text.toList ++ ['<']) = text.toList := by
    rw [dropEnd_concat_self, dropEnd_of_not_mem h]
  cases marker with
  | below =>
    rw [lookbackText, LookbackMarker.symbol, String.toList_append]
    rw [show "<".toList = ['<'] from rfl, dropEnd_concat_of_ne (by decide), hbelow, String.ofList_toList]
  | upTo =>
    rw [lookbackText, LookbackMarker.symbol, String.toList_append]
    rw [show "<=".toList = ['<'] ++ ['='] from rfl, ← List.append_assoc, dropEnd_concat_self,
      dropEnd_concat_of_ne (by decide), hbelow, String.ofList_toList]

end RangeRequest

/-- What stands before the first `<` of a query is its lookback, unless there is a dot in it. -/
theorem Query.lookback_of_compile {text rest : String} {marker : LookbackMarker} {target : Target}
    (hlt : '<' ∉ text.toList) (hdot : '.' ∉ text.toList)
    (hrest : marker = .below → rest.toList.head? ≠ some '=')
    (h : compile (text ++ marker.symbol ++ rest) = .ok target) :
    target.lookback = some (text ++ marker.symbol) := by
  have hcut : cutLookback (text ++ marker.symbol ++ rest).toList =
      (some (text.toList ++ marker.symbol.toList), rest.toList) := by
    cases marker with
    | below =>
      rw [String.toList_append, String.toList_append, List.append_assoc]
      exact cutLookback_append_below hlt hdot (hrest rfl)
    | upTo =>
      rw [String.toList_append, String.toList_append, List.append_assoc]
      exact cutLookback_append_upTo hlt hdot rest.toList
  rw [compile] at h
  split at h
  · cases h
  · simp only [hcut] at h
    split at h
    · cases h
    · split at h
      · cases h
      · cases h
        simp

namespace RangeRequest

/-- A duration gives a range exactly if it is a count above zero of a unit and neither its length nor the time at
which it starts leaves the integers of 64 bits, and then it is the range of this length that ends now. Products of
64 bits on the way do not wrap around, and the lookback of a query means the same. -/
theorem resolves_counts_and_lookbacks (now : Int64) (text : String) :
    (∀ lookback range, (ofLast text).resolve lookback now = .ok range ↔
      ∃ count unit, Duration.IsCountOf (Duration.normalize text.toList) count unit ∧ FitsInt64 count ∧
        0 < count ∧ count * unit ≤ Int64.maxValue.toInt ∧ Int64.minValue.toInt ≤ now.toInt - count * unit ∧
        range.start.toInt = now.toInt - count * unit ∧ now = range.stop) ∧
    (∀ length, Duration.parse text = .ok length ↔
      ∃ number letter count product, Duration.normalize text.toList = number ++ [letter] ∧
        Text.readInteger number = .ok count.toInt ∧ Duration.lengthByParts? letter count = some product ∧
        product.toInt = length) ∧
    ∀ marker : LookbackMarker, '<' ∉ text.toList → '.' ∉ text.toList →
      (∀ lookback, unbounded.resolve (some (text ++ marker.symbol)) now = (ofLast text).resolve lookback now) ∧
      ∀ rest target, (marker = .below → rest.toList.head? ≠ some '=') →
        Query.compile (text ++ marker.symbol ++ rest) = .ok target →
        target.lookback = some (text ++ marker.symbol) := by
  refine ⟨fun lookback range => ?_, fun length => Duration.parse_eq_ok_iff_lengthByParts, fun marker hlt hdot => ?_⟩
  · rw [resolve_ofLast, relative_eq_ok_iff_isCountOf]
  · refine ⟨fun lookback => ?_, fun rest target hrest h => Query.lookback_of_compile hlt hdot hrest h⟩
    rw [resolve_unbounded, resolve_ofLast, lookbackText_append_symbol hlt]

/-- A week from now on is asked for in capitals and between blanks, or by a query. -/
theorem resolves_sevenDays :
    (ofLast " 007D\t").resolve none 1700000000000 = .ok ⟨1699395200000, 1700000000000⟩ ∧
      '<' ∉ "7d".toList ∧ '.' ∉ "7d".toList ∧ "cpu.usage".toList.head? ≠ some '=' ∧
      ∃ target, Query.compile "7d<cpu.usage" = .ok target ∧
        unbounded.resolve target.lookback 1700000000000 = (ofLast "7d").resolve none 1700000000000 := by
  obtain ⟨hlast, -, -⟩ := resolves_counts_and_lookbacks 1700000000000 " 007D\t"
  obtain ⟨-, -, hlookback⟩ := resolves_counts_and_lookbacks 1700000000000 "7d"
  have hlt : '<' ∉ "7d".toList := by decide
  have hdot : '.' ∉ "7d".toList := by decide
  have hhead : "cpu.usage".toList.head? ≠ some '=' := by decide
  have hcompile : ∃ target, Query.compile ("7d" ++ LookbackMarker.below.symbol ++ "cpu.usage") = .ok target :=
    ⟨_, rfl⟩
  obtain ⟨target, htarget⟩ := hcompile
  obtain ⟨hresolve, hkept⟩ := hlookback .below hlt hdot
  refine ⟨(hlast none _).2 ⟨7, 86400000, ?_, by decide, by decide, by decide, by decide, by decide, rfl⟩, hlt, hdot,
    hhead, target, htarget, ?_⟩
  · have hdigits : Argument.IsDigits ['0', '0', '7'] := Argument.isDigits_iff.2 (by simp)
    exact ⟨['0', '0', '7'], 'd', by decide, by decide, .unsigned hdigits⟩
  · rw [hkept "cpu.usage" target (fun _ => hhead) htarget]
    exact hresolve none

end RangeRequest
end SeriesQuery
