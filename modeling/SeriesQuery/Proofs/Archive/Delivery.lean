import SeriesQuery.Proofs.Archive.RecordRun

/-! # Bytes that arrive in portions

A source whose calls each deliver something, or are interrupted and made again, is read like the plain
bytes. The invariant is that what a reader answers, and how many bytes it leaves, does not depend on the
plan; readers with this property compose, so only the loop that fills a field looks at single calls.
-/

namespace SeriesQuery

/-- The call delivers at least one byte while there are any, or it is interrupted. -/
def Delivery.Delivers : Delivery → Prop
  | .upTo count => 0 < count
  | .interrupted => True
  | .failed => False

namespace Source

/-- No planned call fails, and none stops the reading while there are bytes. -/
def Delivers (s : Source) : Prop := ∀ call ∈ s.plan, call.Delivers

/-- A portion and what is asked for behind it are what is asked for at once. -/
theorem take_append_take_drop {portion want : Nat} (h : portion ≤ want) (bytes : List UInt8) :
    bytes.take portion ++ (bytes.drop (bytes.take portion).length).take
        (want - (bytes.take portion).length) = bytes.take want ∧
      (bytes.drop (bytes.take portion).length).drop (want - (bytes.take portion).length) =
        bytes.drop want := by
  rw [List.length_take]
  by_cases hlen : portion ≤ bytes.length
  · rw [Nat.min_eq_left hlen, ← List.take_add, List.drop_drop, Nat.add_sub_of_le h]
    exact ⟨rfl, rfl⟩
  · have hall : bytes.length ≤ portion := by omega
    rw [Nat.min_eq_right hall, List.take_of_length_le hall, List.drop_length, List.take_nil, List.drop_nil,
      List.append_nil, List.take_of_length_le (by omega), List.drop_eq_nil_of_le (by omega)]
    exact ⟨rfl, rfl⟩

theorem fill_of_delivers {plan : List Delivery} (h : ∀ call ∈ plan, call.Delivers) (want : Nat)
    (bytes : List UInt8) :
    ∃ later, (∀ call ∈ later, call.Delivers) ∧
      fill want bytes plan = (bytes.take want, ⟨bytes.drop want, later⟩, false) := by
  induction plan generalizing want bytes with
  | nil => exact ⟨[], nofun, rfl⟩
  | cons call plan ih =>
    obtain ⟨hcall, hplan⟩ := List.forall_mem_cons.1 h
    by_cases hwant : want = 0
    · refine ⟨call :: plan, h, ?_⟩
      rw [fill.eq_def]
      simp only [hwant, ↓reduceIte, List.take_zero, List.drop_zero]
    cases call with
    | failed => exact hcall.elim
    | interrupted =>
      obtain ⟨later, hlater, hfill⟩ := ih hplan want bytes
      refine ⟨later, hlater, ?_⟩
      rw [fill, if_neg hwant]
      exact hfill
    | upTo count =>
      have hcount : 0 < count := hcall
      obtain rfl | hne := eq_or_ne bytes []
      · refine ⟨plan, hplan, ?_⟩
        rw [fill, if_neg hwant]
        simp
      · -- The portion is not empty, so the calls behind it bring what is still missing.
        have hgot : (bytes.take (min count want)).isEmpty = false := by
          rw [List.isEmpty_eq_false_iff, Ne, List.take_eq_nil_iff, not_or]
          exact ⟨by omega, hne⟩
        obtain ⟨later, hlater, hfill⟩ := ih hplan (want - (bytes.take (min count want)).length)
          (bytes.drop (bytes.take (min count want)).length)
        obtain ⟨htake, hdrop⟩ := take_append_take_drop (Nat.min_le_right count want) bytes
        refine ⟨later, hlater, ?_⟩
        rw [fill, if_neg hwant]
        simp only [hgot, hfill, htake, hdrop]
        rfl

theorem read_of_delivers {s : Source} (h : s.Delivers) (want : Nat) :
    ∃ left : Source, left.Delivers ∧ left.bytes = s.bytes.drop want ∧
      s.read want = (.ok (s.bytes.take want), left) := by
  obtain ⟨later, hlater, hfill⟩ := fill_of_delivers h want s.bytes
  refine ⟨⟨s.bytes.drop want, later⟩, hlater, rfl, ?_⟩
  rw [read, hfill]

end Source

namespace RecordReader

variable {α β : Type}

/-- However the bytes are delivered, the reader answers the same and leaves the same bytes. -/
def Steady (m : RecordReader α) : Prop :=
  ∀ ⦃s : Source⦄, s.Delivers → ∃ answer, ∃ left : Source, left.Delivers ∧ m s = (answer, left) ∧
    m (.ofBytes s.bytes) = (answer, .ofBytes left.bytes)

theorem Steady.pure (a : α) : Steady (pure a) := fun s h => ⟨.ok a, s, h, rfl, rfl⟩

theorem Steady.throw (e : ArchiveError) : Steady (throw e : RecordReader α) :=
  fun s h => ⟨.error e, s, h, rfl, rfl⟩

theorem Steady.bind {m : RecordReader α} {f : α → RecordReader β} (hm : Steady m)
    (hf : ∀ a, Steady (f a)) : Steady (m >>= f) := by
  intro s h
  obtain ⟨answer, mid, hmid, hs, hplain⟩ := hm h
  cases answer with
  | error e => exact ⟨.error e, mid, hmid, bind_of_error hs f, bind_of_error hplain f⟩
  | ok a =>
    obtain ⟨last, left, hleft, hlast, hlastPlain⟩ := hf a hmid
    refine ⟨last, left, hleft, ?_, ?_⟩
    · rw [bind_of_ok hs, hlast]
    · rw [bind_of_ok hplain, hlastPlain]

theorem steady_bytesUpTo (size : Nat) : Steady (bytesUpTo size) := by
  intro s h
  obtain ⟨left, hleft, hbytes, hread⟩ := Source.read_of_delivers h size
  refine ⟨.ok (s.bytes.take size), left, hleft, ?_, ?_⟩
  · rw [bytesUpTo, hread]
  · rw [bytesUpTo, Source.read_ofBytes, hbytes]

theorem steady_bytes (field : RecordField) (size : Nat) : Steady (bytes field size) := by
  refine (steady_bytesUpTo size).bind fun got => ?_
  split
  · exact (Steady.throw _).bind fun _ => .pure got
  · exact .pure got

theorem steady_textOfSize (field : RecordField) (size : Nat) : Steady (textOfSize field size) := by
  refine (steady_bytes field size).bind fun got => ?_
  cases Utf8.decode got with
  | ok s => exact .pure s
  | error cause => exact .throw _

theorem steady_text (field : RecordField) : Steady (text field) :=
  (steady_bytes field 2).bind fun size => steady_textOfSize field (ofBigEndian size)

theorem steady_int32 (field : RecordField) : Steady (int32 field) :=
  (steady_bytes field 4).bind fun got => .pure (int32OfBytes got)

theorem steady_payload : Steady payload := by
  refine (steady_int32 .payloadLength).bind fun size => ?_
  split
  · exact (Steady.throw _).bind fun _ => steady_bytes .payload _
  · exact steady_bytes .payload _

theorem steady_recordOfSize (size : List UInt8) : Steady (recordOfSize size) := by
  refine (steady_textOfSize .database _).bind fun database => ?_
  refine (steady_text .measurement).bind fun measurement => ?_
  refine (steady_text .seriesKey).bind fun seriesKey => ?_
  refine (steady_int32 .bucket).bind fun bucket => ?_
  exact steady_payload.bind fun contents => .pure _

theorem steady_record? : Steady record? := by
  refine (steady_bytesUpTo 2).bind fun size => ?_
  split
  · exact .pure none
  · split
    · exact (Steady.throw _).bind fun _ => (steady_recordOfSize size).bind fun r => .pure (some r)
    · exact (steady_recordOfSize size).bind fun r => .pure (some r)

end RecordReader

namespace RecordStream

/-- The stream over the same bytes, which arrive as they are asked for. -/
def plain (s : RecordStream) : RecordStream := ⟨.ofBytes s.source.bytes, s.failed⟩

/-- Asking once: the same answer, and again the plain stream of what is left. -/
theorem next_plain {s : RecordStream} (h : s.source.Delivers) :
    s.next.2.source.Delivers ∧ s.plain.next = (s.next.1, s.next.2.plain) := by
  obtain ⟨source, failed⟩ := s
  cases failed with
  | true => exact ⟨h, rfl⟩
  | false =>
    obtain ⟨answer, left, hleft, hs, hplain⟩ := RecordReader.steady_record? h
    rw [plain, next, next]
    simp only [hs, hplain, Bool.false_eq_true, ↓reduceIte]
    cases answer with
    | error e => exact ⟨hleft, rfl⟩
    | ok record =>
      cases record with
      | none => exact ⟨hleft, rfl⟩
      | some r => exact ⟨hleft, rfl⟩

theorem after_plain {s : RecordStream} (h : s.source.Delivers) (n : Nat) :
    s.plain.after n = (s.after n).plain := by
  induction n generalizing s with
  | zero => rfl
  | succ n ih =>
    obtain ⟨hrest, hnext⟩ := next_plain h
    rw [after, after, hnext, ih hrest]

theorem answer_plain {s : RecordStream} (h : s.source.Delivers) (n : Nat) :
    s.plain.answer n = s.answer n := by
  induction n generalizing s with
  | zero => rw [answer, answer, (next_plain h).2]
  | succ n ih =>
    obtain ⟨hrest, hnext⟩ := next_plain h
    rw [answer, answer, hnext, ih hrest]

theorem itemsWithin_plain {s : RecordStream} (h : s.source.Delivers) (fuel : Nat) :
    (itemsWithin fuel s.plain).1 = (itemsWithin fuel s).1 := by
  induction fuel generalizing s with
  | zero => rfl
  | succ fuel ih =>
    obtain ⟨hrest, hnext⟩ := next_plain h
    rw [itemsWithin, itemsWithin, hnext]
    cases hs : s.next with
    | mk item rest =>
      rw [hs] at hrest
      cases item with
      | none => rfl
      | some item => simp only [ih hrest]

/-- However the bytes are delivered, a reader of records gives the same result and leaves the same bytes, and
a stream of records gives the same items and has the same bytes left after every call. That plans are finite
is no restriction: while there are bytes every delivery takes one, and interruptions come to an end. -/
theorem same_records_of_delivers {bytes : List UInt8} {plan : List Delivery}
    (delivers : ∀ call ∈ plan, call = .interrupted ∨ ∃ count, 1 ≤ count ∧ call = .upTo count) :
    (∃ result left, RecordReader.record? (.ofBytes bytes) = (result, .ofBytes left) ∧
      ∃ later, RecordReader.record? ⟨bytes, plan⟩ = (result, ⟨left, later⟩)) ∧
      (ofSource ⟨bytes, plan⟩).items.1 = (ofSource (.ofBytes bytes)).items.1 ∧
      ∀ n, (ofSource ⟨bytes, plan⟩).answer n = (ofSource (.ofBytes bytes)).answer n ∧
        ((ofSource ⟨bytes, plan⟩).after n).source.bytes =
          ((ofSource (.ofBytes bytes)).after n).source.bytes := by
  have h : (⟨bytes, plan⟩ : Source).Delivers := by
    intro call hcall
    obtain rfl | ⟨count, hcount, rfl⟩ := delivers call hcall
    · exact trivial
    · exact hcount
  have hplain : ofSource (.ofBytes bytes) = (ofSource ⟨bytes, plan⟩).plain := rfl
  refine ⟨?_, ?_, fun n => ⟨?_, ?_⟩⟩
  · obtain ⟨result, left, -, hread, hreadPlain⟩ := RecordReader.steady_record? h
    exact ⟨result, left.bytes, hreadPlain, left.plan, hread⟩
  · rw [hplain]
    exact (itemsWithin_plain h _).symm
  · rw [hplain, answer_plain h]
  · rw [hplain, after_plain h]
    rfl

def interruptedBytes : List UInt8 := RecordReader.sparseBytes ++ [0]

/-- Interruptions before, inside and behind fields, and portions that end inside a character and inside the
number of the bucket. -/
def interruptedPlan : List Delivery :=
  [.interrupted, .upTo 1, .interrupted, .interrupted, .upTo 5, .upTo 1, .upTo 1, .upTo 1, .upTo 9, .interrupted,
    .upTo 3, .interrupted, .upTo 1, .upTo 2, .upTo 1, .interrupted, .upTo 4, .upTo 1, .interrupted]

theorem items_interruptedPlan :
    (∀ call ∈ interruptedPlan, call = .interrupted ∨ ∃ count, 1 ≤ count ∧ call = .upTo count) ∧
      (ofSource ⟨interruptedBytes, interruptedPlan⟩).items.1 =
        [.ok RecordReader.sparseRecord, .error (.truncated .database 2 1)] := by
  have delivers : ∀ call ∈ interruptedPlan,
      call = .interrupted ∨ ∃ count, 1 ≤ count ∧ call = .upTo count := by
    simp [interruptedPlan]
  have plain : (ofSource (.ofBytes interruptedBytes)).items.1 =
      [.ok RecordReader.sparseRecord, .error (.truncated .database 2 1)] := by rfl
  exact ⟨delivers, (same_records_of_delivers delivers).2.1.trans plain⟩

end RecordStream
end SeriesQuery
