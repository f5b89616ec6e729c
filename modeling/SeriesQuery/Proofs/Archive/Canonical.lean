import SeriesQuery.Proofs.Archive.Reading

/-! # What is accepted was written

A reader that accepts bytes has read the layout of the value it gives and nothing more, and the lengths
that it has read are those that can be written. So an accepted record has one encoding: the bytes that
were read for it.
-/

namespace SeriesQuery.RecordReader
open FieldPiece ArchiveRecord

variable {α β : Type}

theorem ok_of_bind {m : RecordReader α} {f : α → RecordReader β} {s last : Source} {b : β}
    (h : (m >>= f) s = (.ok b, last)) : ∃ a mid, m s = (.ok a, mid) ∧ f a mid = (.ok b, last) := by
  rw [bind_apply] at h
  cases hm : m s with
  | mk result mid =>
    rw [hm] at h
    cases result with
    | ok a => exact ⟨a, mid, rfl, h⟩
    | error e => cases h

theorem of_bytes_ok {field : RecordField} {size : Nat} {input got : List UInt8} {last : Source}
    (h : bytes field size (.ofBytes input) = (.ok got, last)) :
    got.length = size ∧ ∃ rest, input = got ++ rest ∧ last = .ofBytes rest := by
  rw [bytes_ofBytes] at h
  split at h
  · rename_i hlen
    cases h
    exact ⟨List.length_take_of_le hlen, _, (List.take_append_drop size input).symm, rfl⟩
  · cases h

theorem of_textOfSize_ok {field : RecordField} {size : Nat} {input : List UInt8} {s : String}
    {last : Source} (h : textOfSize field size (.ofBytes input) = (.ok s, last)) :
    s.utf8ByteSize = size ∧ ∃ rest, input = Utf8.encode s ++ rest ∧ last = .ofBytes rest := by
  obtain ⟨got, mid, hgot, hs⟩ := ok_of_bind h
  obtain ⟨hsize, rest, rfl, rfl⟩ := of_bytes_ok hgot
  cases hd : Utf8.decode got with
  | error cause =>
    rw [hd] at hs
    cases hs
  | ok t =>
    rw [hd] at hs
    cases hs
    have hencode := Utf8.encode_of_decode hd
    rw [← Utf8.length_encode, hencode]
    exact ⟨hsize, rest, rfl, rfl⟩

/-- Two bytes before a text spell its length, which they could not do for one that is too long. -/
theorem bigEndian_length_of_text {s : String} {size : List UInt8} (htwo : size.length = 2)
    (hs : s.utf8ByteSize = ofBigEndian size) :
    s.utf8ByteSize ≤ textLimit ∧ bigEndian 2 (Utf8.encode s).length = size := by
  have hlt := ofBigEndian_lt size
  rw [htwo] at hlt
  constructor
  · rw [hs]
    exact Nat.le_of_lt_succ hlt
  · rw [Utf8.length_encode, hs, ← htwo, bigEndian_ofBigEndian]

theorem of_text_ok {field : RecordField} {input : List UInt8} {s : String} {last : Source}
    (h : text field (.ofBytes input) = (.ok s, last)) :
    s.utf8ByteSize ≤ textLimit ∧
      ∃ rest, input = joined (textLayout field s) ++ rest ∧ last = .ofBytes rest := by
  obtain ⟨size, mid, hsize, hs⟩ := ok_of_bind h
  obtain ⟨htwo, later, rfl, rfl⟩ := of_bytes_ok hsize
  obtain ⟨hlen, rest, rfl, rfl⟩ := of_textOfSize_ok hs
  obtain ⟨hlimit, hspelt⟩ := bigEndian_length_of_text htwo hlen
  exact ⟨hlimit, rest, by simp [textLayout, hspelt], rfl⟩

theorem of_int32_ok {field : RecordField} {input : List UInt8} {n : Int32} {last : Source}
    (h : int32 field (.ofBytes input) = (.ok n, last)) :
    ∃ rest, input = int32Bytes n ++ rest ∧ last = .ofBytes rest := by
  obtain ⟨four, mid, hfour, hn⟩ := ok_of_bind h
  obtain ⟨hlen, rest, rfl, rfl⟩ := of_bytes_ok hfour
  cases hn
  exact ⟨rest, by rw [int32Bytes_int32OfBytes hlen], rfl⟩

/-- Read back as a natural, a length that is not negative is the one that was written. -/
theorem int32Bytes_eq_bigEndian {n : Int32} (h : ¬ n < 0) :
    n.toInt.toNat ≤ payloadLimit ∧ int32Bytes n = bigEndian 4 n.toInt.toNat := by
  have hlen := length_int32Bytes n
  have hint := toInt_int32OfBytes hlen
  rw [int32OfBytes_int32Bytes] at hint
  have hlt := ofBigEndian_lt (int32Bytes n)
  rw [hlen] at hlt
  rw [Int32.lt_iff_toInt_lt, Int32.toInt_zero] at h
  split at hint
  · rename_i hsmall
    have hnat : n.toInt.toNat = ofBigEndian (int32Bytes n) := by omega
    refine ⟨hnat ▸ Nat.le_of_lt_succ hsmall, ?_⟩
    conv_lhs => rw [← bigEndian_ofBigEndian (int32Bytes n)]
    rw [hlen, hnat]
  · omega

theorem of_payload_ok {input contents : List UInt8} {last : Source}
    (h : payload (.ofBytes input) = (.ok contents, last)) :
    contents.length ≤ payloadLimit ∧
      ∃ rest, input = joined (payloadLayout contents) ++ rest ∧ last = .ofBytes rest := by
  obtain ⟨n, mid, hn, hc⟩ := ok_of_bind h
  obtain ⟨later, rfl, rfl⟩ := of_int32_ok hn
  by_cases hneg : n < 0
  · rw [if_pos hneg] at hc
    cases hc
  · rw [if_neg hneg] at hc
    obtain ⟨hlen, rest, rfl, rfl⟩ := of_bytes_ok hc
    obtain ⟨hlimit, hspelt⟩ := int32Bytes_eq_bigEndian hneg
    exact ⟨hlen ▸ hlimit, rest, by simp [payloadLayout, hlen, hspelt], rfl⟩

/-- A record that is read has been read from the bytes of its layout, and it could be written again. -/
theorem of_record?_ok {input : List UInt8} {r : ArchiveRecord} {last : Source}
    (h : record? (.ofBytes input) = (.ok (some r), last)) :
    r.Fits ∧ ∃ rest, input = r.laidOut ++ rest ∧ last = .ofBytes rest := by
  have hne : input ≠ [] := by
    rintro rfl
    cases h
  rw [record?_of_ne_nil hne] at h
  obtain ⟨r', _, hr, hsome⟩ := ok_of_bind h
  cases hsome
  obtain ⟨size, _, hsize, hr⟩ := ok_of_bind hr
  obtain ⟨htwo, _, rfl, rfl⟩ := of_bytes_ok hsize
  obtain ⟨database, _, hd, hr⟩ := ok_of_bind hr
  obtain ⟨hdlen, _, rfl, rfl⟩ := of_textOfSize_ok hd
  obtain ⟨hdlimit, hdspelt⟩ := bigEndian_length_of_text htwo hdlen
  obtain ⟨measurement, _, hm, hr⟩ := ok_of_bind hr
  obtain ⟨hmlimit, _, rfl, rfl⟩ := of_text_ok hm
  obtain ⟨seriesKey, _, hk, hr⟩ := ok_of_bind hr
  obtain ⟨hklimit, _, rfl, rfl⟩ := of_text_ok hk
  obtain ⟨bucket, _, hb, hr⟩ := ok_of_bind hr
  obtain ⟨_, rfl, rfl⟩ := of_int32_ok hb
  obtain ⟨contents, _, hp, hr⟩ := ok_of_bind hr
  obtain ⟨hplimit, rest, rfl, rfl⟩ := of_payload_ok hp
  cases hr
  refine ⟨⟨hdlimit, hmlimit, hklimit, hplimit⟩, rest, ?_, rfl⟩
  simp only [laidOut, layout, joined_append, joined_cons, joined_nil, List.append_assoc, List.append_nil]
  conv_rhs => rw [textLayout, joined_cons, joined_cons, hdspelt]
  simp

end SeriesQuery.RecordReader
