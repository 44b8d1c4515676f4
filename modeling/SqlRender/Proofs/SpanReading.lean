import SqlRender.Proofs.RoundTrip
import SqlRender.Span.Document

/-!
# Proofs/SpanReading — what a buffer answers to a span from elsewhere

A span need not come from the buffer that it is read in: it is a pair of words, and every pair of
words is read from a document (`Span.reads`). Its end is the sum of the two, and a machine word has
to hold that sum before it is compared with the size of the text. So a buffer answers a span exactly
if a word holds its end (`reading_completes_iff`). A span whose end no word holds reaches past every
text that a machine can store, but reading it fails instead of giving nothing.
-/

namespace SqlRender

/-! ## Spans from documents -/

/-- A word is read back from its numeral. -/
theorem reads_word {n : Nat} (h : n < wordSize) :
    ((Decoder.integer "usize" 0 (wordSize - 1)).map Int.toNat).Reads (.int n) n := by
  have hword : (Decoder.integer "usize" 0 (wordSize - 1)).Reads (.int n) n := fun depth _ => by
    rw [Json.readBack, Reading.ofInteger_word h, Decoder.integer, if_pos (by omega)]
  exact hword.map Int.toNat

/-- **Every pair of words is read from a document.** -/
theorem Span.reads {s : Span} (hoffset : s.offset < wordSize) (hlen : s.len < wordSize) :
    Span.decoder.Reads s.json s := by
  refine reads_record (.map (.and (fills_required rfl (reads_word hoffset))
    (fills_required rfl (reads_word hlen)) ?_) _) ?_ _
  · simp
  · simp

/-- A span of machine words is read back from its text. -/
theorem Span.fromText_compact {s : Span} (hoffset : s.offset < wordSize) (hlen : s.len < wordSize) :
    Span.decoder.fromText s.json.compact = .ok s := by
  have hdepth : s.json.reading.depth = 1 := rfl
  exact (Span.reads hoffset hlen).fromText (hdepth ▸ by decide)

namespace Buffer

/-! ## Reading -/

/-- The bytes that a span covers: as many as its length says, from its offset on. A span that the
text does not hold whole covers nothing. -/
def covered (b : Buffer) (s : Span) : List UInt8 :=
  if s.offset + s.len ≤ b.size then (b.bytes.data.toList.drop s.offset).take s.len else []

theorem toList_data_extract (bs : ByteArray) (start len : Nat) :
    (bs.extract start (start + len)).data.toList = (bs.data.toList.drop start).take len := by
  rw [ByteArray.data_extract, Array.toList_extract, List.extract_eq_take_drop,
    Nat.add_sub_cancel_left]

/-- A buffer answers a span whose end a word holds with the bytes that it covers. -/
theorem spanBytes_of_lt (b : Buffer) {s : Span} (h : s.offset + s.len < wordSize) :
    ∃ bs, b.spanBytes s = .ok bs ∧ bs.data.toList = b.covered s := by
  rw [spanBytes, Span.stop, if_pos h, covered]
  refine ⟨_, rfl, ?_⟩
  split
  · exact toList_data_extract ..
  · rfl

/-- A span whose end is no machine word stops the reading. -/
theorem spanBytes_of_le_sum (b : Buffer) {s : Span} (h : wordSize ≤ s.offset + s.len) :
    b.spanBytes s = .error .add := by
  rw [spanBytes, Span.stop, if_neg (by omega)]
  rfl

/-- **Reading a span succeeds exactly if a word holds its end**, and then it gives the bytes that
the span covers: those from its offset on if they are all there, none otherwise. For any other span
the addition overflows. -/
theorem reading_completes_iff (b : Buffer) (s : Span) :
    ((∃ bs, b.spanBytes s = .ok bs ∧ bs.data.toList = b.covered s) ↔
      s.offset + s.len < wordSize) ∧
    (b.spanBytes s = .error .add ↔ wordSize ≤ s.offset + s.len) := by
  rcases Nat.lt_or_ge (s.offset + s.len) wordSize with h | h
  · obtain ⟨bs, hread, hcovered⟩ := b.spanBytes_of_lt h
    refine ⟨iff_of_true ⟨bs, hread, hcovered⟩ h, iff_of_false ?_ (Nat.not_le.mpr h)⟩
    rw [hread]
    simp
  · have hread := b.spanBytes_of_le_sum h
    refine ⟨iff_of_false ?_ (Nat.not_lt.mpr h), iff_of_true hread h⟩
    rintro ⟨bs, hok, -⟩
    rw [hread] at hok
    cases hok

/-- One byte at the largest offset. -/
def farSpan : Span := ⟨wordSize - 1, 1⟩

/-- A span given as a document covers nothing of a text of two bytes, and reading it fails. -/
theorem farSpan_not_read :
    let b := ((new false).interpret "ab" []).buffer
    Span.decoder.fromText "\x7b\"offset\":18446744073709551615,\"len\":1\x7d" = .ok farSpan ∧
    farSpan.offset < wordSize ∧ farSpan.len < wordSize ∧ b.bytes = "ab".toUTF8 ∧
    b.covered farSpan = [] ∧ b.spanBytes farSpan = .error .add ∧
    ¬ ∃ bs, b.spanBytes farSpan = .ok bs := by
  intro b
  have htext : farSpan.json.compact = "\x7b\"offset\":18446744073709551615,\"len\":1\x7d" := by
    decide +kernel
  have hread : b.spanBytes farSpan = .error .add := b.spanBytes_of_le_sum (by decide)
  have hbytes : b.bytes = "ab".toUTF8 := by decide +kernel
  refine ⟨htext ▸ Span.fromText_compact (by decide) (by decide), by decide, by decide, hbytes, ?_,
    hread, ?_⟩
  · rw [covered, if_neg (by rw [size, hbytes]; decide)]
  · rintro ⟨bs, hok⟩
    rw [hread] at hok
    cases hok

end Buffer

end SqlRender
