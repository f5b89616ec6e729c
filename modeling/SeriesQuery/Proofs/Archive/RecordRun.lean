import SeriesQuery.Archive.File
import SeriesQuery.Proofs.Archive.Canonical

/-! # Runs of a record stream

A stream over bytes is asked again and again. Each answer that is a record takes the bytes of its layout
off the front, so that the run ends, and a refusal ends it at once. The invariant of a run is that the
records so far and the bytes still to come make up the input.
-/

namespace SeriesQuery
open FieldPiece ArchiveRecord

namespace RecordStream

/-- The items that come out of a stream that is asked until it has no more, and the stream after them. -/
inductive Yields : RecordStream → List (Except ArchiveError ArchiveRecord) → RecordStream → Prop where
  | done {s last : RecordStream} (h : s.next = (none, last)) : Yields s [] last
  | more {s rest last : RecordStream} {item : Except ArchiveError ArchiveRecord}
      {items : List (Except ArchiveError ArchiveRecord)} (h : s.next = (some item, rest))
      (later : Yields rest items last) : Yields s (item :: items) last

/-- What a stream answers when it is asked for the `n`-th time, the first time being the zeroth. -/
def answer : RecordStream → Nat → Option (Except ArchiveError ArchiveRecord)
  | s, 0 => s.next.1
  | s, n + 1 => s.next.2.answer n

def after : RecordStream → Nat → RecordStream
  | s, 0 => s
  | s, n + 1 => s.next.2.after n

theorem answer_of_stays {s : RecordStream} (h : s.next = (none, s)) (n : Nat) : s.answer n = none := by
  induction n with
  | zero => rw [answer, h]
  | succ n ih => rw [answer, h, ih]

/-- A stream that has once ended answers with its items and then with nothing for ever. -/
theorem answer_of_yields {s last : RecordStream} {items : List (Except ArchiveError ArchiveRecord)}
    (h : Yields s items last) (stays : last.next = (none, last)) (n : Nat) :
    s.answer n = items[n]? := by
  induction h generalizing n with
  | done hn =>
    cases n with
    | zero => rw [answer, hn, List.getElem?_nil]
    | succ n => rw [answer, hn, answer_of_stays stays, List.getElem?_nil]
  | more hn _ ih =>
    cases n with
    | zero => rw [answer, hn, List.getElem?_cons_zero]
    | succ n => rw [answer, hn, ih stays, List.getElem?_cons_succ]

theorem Yields.unique {s la lb : RecordStream} {a b : List (Except ArchiveError ArchiveRecord)}
    (ha : Yields s a la) (hb : Yields s b lb) : a = b ∧ la = lb := by
  induction ha generalizing b with
  | done h =>
    cases hb with
    | done h' =>
      cases h.symm.trans h'
      exact ⟨rfl, rfl⟩
    | more h' _ => cases h.symm.trans h'
  | more h _ ih =>
    cases hb with
    | done h' => cases h.symm.trans h'
    | more h' later =>
      cases h.symm.trans h'
      obtain ⟨rfl, rfl⟩ := ih later
      exact ⟨rfl, rfl⟩

theorem itemsWithin_of_yields {s last : RecordStream}
    {items : List (Except ArchiveError ArchiveRecord)} (h : Yields s items last) {fuel : Nat}
    (enough : items.length < fuel) : itemsWithin fuel s = (items, last) := by
  induction h generalizing fuel with
  | done hn =>
    cases fuel with
    | zero => simp at enough
    | succ fuel => rw [itemsWithin, hn]
  | more hn _ ih =>
    cases fuel with
    | zero => simp at enough
    | succ fuel =>
      have hrest := ih (Nat.lt_of_succ_lt_succ enough)
      simp only [itemsWithin, hn, hrest]

theorem next_of_failed (s : Source) : (⟨s, true⟩ : RecordStream).next = (none, ⟨s, true⟩) := rfl

theorem next_of_record {s rest : Source} {r : ArchiveRecord}
    (h : RecordReader.record? s = (.ok (some r), rest)) :
    (ofSource s).next = (some (.ok r), ofSource rest) := by
  simp [next, ofSource, h]

theorem next_of_refusal {s rest : Source} {e : ArchiveError}
    (h : RecordReader.record? s = (.error e, rest)) :
    (ofSource s).next = (some (.error e), ⟨rest, true⟩) := by
  simp [next, ofSource, h]

theorem next_of_no_input : (ofSource (.ofBytes [])).next = (none, ofSource (.ofBytes [])) := rfl

/-- Everything that asking a stream over bytes can do. -/
theorem next_cases (input : List UInt8) :
    (input = []) ∨
    (∃ r rest, r.Fits ∧ input = r.laidOut ++ rest ∧
      (ofSource (.ofBytes input)).next = (some (.ok r), ofSource (.ofBytes rest))) ∨
    (input ≠ [] ∧ ∃ e last, (ofSource (.ofBytes input)).next = (some (.error e), ⟨last, true⟩)) := by
  by_cases hne : input = []
  · exact .inl hne
  refine .inr ?_
  cases hr : RecordReader.record? (.ofBytes input) with
  | mk result last =>
    match result with
    | .error e => exact .inr ⟨hne, e, last, next_of_refusal hr⟩
    | .ok (some r) =>
      obtain ⟨hfits, rest, hinput, rfl⟩ := RecordReader.of_record?_ok hr
      exact .inl ⟨r, rest, hfits, hinput, next_of_record hr⟩
    | .ok none =>
      rw [RecordReader.record?_of_ne_nil hne] at hr
      obtain ⟨r, mid, -, hsome⟩ := RecordReader.ok_of_bind hr
      cases hsome

/-- Every run over bytes: records that make up a front part of the input, and behind them the end of the
input or one refusal. -/
theorem exists_run (input : List UInt8) :
    ∃ (records : List ArchiveRecord) (rest : List UInt8) (tail : List (Except ArchiveError ArchiveRecord))
      (last : RecordStream), (∀ r ∈ records, r.Fits) ∧ input = records.flatMap laidOut ++ rest ∧
      Yields (ofSource (.ofBytes input)) (records.map .ok ++ tail) last ∧ last.next = (none, last) ∧
      records.length ≤ input.length ∧
      (rest = [] ∧ tail = [] ∨ rest ≠ [] ∧ ∃ e, tail = [.error e]) := by
  -- Strong induction on the length of the input: a record takes at least one byte.
  induction hlen : input.length using Nat.strongRecOn generalizing input with
  | ind length ih =>
    obtain rfl | ⟨r, rest, hfits, rfl, hnext⟩ | ⟨hne, e, last, hnext⟩ := next_cases input
    · exact ⟨[], [], [], _, by simp, rfl, .done next_of_no_input, next_of_no_input, by simp,
        .inl ⟨rfl, rfl⟩⟩
    · have hpos : 0 < r.laidOut.length := List.length_pos_iff.2 (RecordReader.laidOut_ne_nil r)
      rw [List.length_append] at hlen
      obtain ⟨records, left, tail, last, hall, rfl, hyields, hstays, hcount, hend⟩ :=
        ih rest.length (by omega) rest rfl
      refine ⟨r :: records, left, tail, last, List.forall_mem_cons.2 ⟨hfits, hall⟩, ?_,
        .more hnext hyields, hstays, ?_, hend⟩
      · rw [List.flatMap_cons, List.append_assoc]
      · rw [List.length_cons]
        omega
    · exact ⟨[], input, [.error e], ⟨last, true⟩, by simp, rfl, .more hnext (.done (next_of_failed last)),
        next_of_failed last, by simp, .inr ⟨hne, e, rfl⟩⟩

theorem items_of_yields {input : List UInt8} {items : List (Except ArchiveError ArchiveRecord)}
    {last : RecordStream} (h : Yields (ofSource (.ofBytes input)) items last) :
    (ofSource (.ofBytes input)).items = (items, last) := by
  obtain ⟨records, rest, tail, last', -, -, hyields, -, hcount, hend⟩ := exists_run input
  have htail : tail.length ≤ 1 := by
    obtain ⟨-, rfl⟩ | ⟨-, e, rfl⟩ := hend <;> simp
  obtain ⟨rfl, rfl⟩ := h.unique hyields
  apply itemsWithin_of_yields h
  rw [List.length_append, List.length_map]
  change records.length + tail.length < input.length + 2
  omega

/-- Records in front are answered first. -/
theorem yields_laidOut_append {records : List ArchiveRecord} (h : ∀ r ∈ records, r.Fits)
    {rest : List UInt8} {items : List (Except ArchiveError ArchiveRecord)} {last : RecordStream}
    (later : Yields (ofSource (.ofBytes rest)) items last) :
    Yields (ofSource (.ofBytes (records.flatMap laidOut ++ rest))) (records.map .ok ++ items) last := by
  induction records with
  | nil => exact later
  | cons r records ih =>
    obtain ⟨hr, hrecords⟩ := List.forall_mem_cons.1 h
    rw [List.flatMap_cons, List.append_assoc]
    exact .more (next_of_record (RecordReader.record?_laidOut_append hr _)) (ih hrecords)

end RecordStream

theorem firstRefusal_map_ok (records : List ArchiveRecord) : firstRefusal (records.map .ok) = .ok records := by
  induction records with
  | nil => rfl
  | cons r records ih => rw [List.map_cons, firstRefusal, ih]

theorem firstRefusal_map_ok_append_error (records : List ArchiveRecord) (e : ArchiveError) :
    firstRefusal (records.map .ok ++ [.error e]) = .error e := by
  induction records with
  | nil => rfl
  | cons r records ih => rw [List.map_cons, List.cons_append, firstRefusal, ih]

namespace ArchiveFile

theorem recordsOf_of_yields {input : List UInt8} {items : List (Except ArchiveError ArchiveRecord)}
    {last : RecordStream} (h : (RecordStream.ofSource (.ofBytes input)).Yields items last) :
    recordsOf input = firstRefusal items := by
  rw [recordsOf, RecordStream.items_of_yields h]

/-- A file reads as records exactly when its bytes are those of their layouts, one behind the other. -/
theorem recordsOf_eq_ok_iff {input : List UInt8} {records : List ArchiveRecord} :
    recordsOf input = .ok records ↔ (∀ r ∈ records, r.Fits) ∧ input = records.flatMap laidOut := by
  constructor
  · intro h
    obtain ⟨read, rest, tail, last, hfits, hinput, hyields, -, -, hend⟩ := RecordStream.exists_run input
    rw [recordsOf_of_yields hyields] at h
    obtain ⟨rfl, rfl⟩ | ⟨-, e, rfl⟩ := hend
    · rw [List.append_nil, firstRefusal_map_ok] at h
      cases h
      exact ⟨hfits, by rw [hinput, List.append_nil]⟩
    · rw [firstRefusal_map_ok_append_error] at h
      cases h
  · rintro ⟨hfits, rfl⟩
    have hyields := RecordStream.yields_laidOut_append hfits (.done RecordStream.next_of_no_input)
    rw [List.append_nil, List.append_nil] at hyields
    rw [recordsOf_of_yields hyields, firstRefusal_map_ok]

end ArchiveFile
end SeriesQuery
