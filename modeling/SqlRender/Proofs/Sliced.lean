import SqlRender.Command.Highlight
import SqlRender.Proofs.Frame
import SqlRender.Proofs.Tracked

/-!
# Proofs/Sliced — spans cut rendered text between characters

A span counts bytes and a string is sliced between characters, so a span is of use to a reader of
the text only if both its ends are good offsets. `slice?_eq_some_iff` says what that means: the text
falls into three texts, and the bytes in front are counted by the offset. Literals are appended as
whole texts behind whole texts, so the spans of a tree are all of this kind
(`Glyph.slice_spansFrom`).

* `tree_writes_text` — a tree is always written to the end and as text, and slicing the text by its
  spans gives its literals;
* `highlight_plain` — painting with no paint gives the text back, whatever the spans are.
-/

namespace SqlRender

open Glyph Lexeme

/-! ## Good offsets -/

/-- A text splits after `n` bytes exactly if a character ends there. -/
theorem splitBytes?_eq_some_iff {n : Nat} {cs front back : List Char} :
    splitBytes? n cs = some (front, back) ↔ cs = front ++ back ∧ n = (utf8 front).length := by
  refine ⟨fun h => ?_, ?_⟩
  · fun_induction splitBytes? n cs generalizing front with
    | case1 cs =>
      obtain ⟨rfl, rfl⟩ := Prod.mk.inj (Option.some.inj h)
      exact ⟨rfl, rfl⟩
    | case2 => cases h
    | case3 n c cs hsize ih =>
      obtain ⟨⟨front', back'⟩, hsplit, heq⟩ := Option.map_eq_some_iff.mp h
      obtain ⟨rfl, rfl⟩ := Prod.mk.inj heq
      obtain ⟨rfl, hlength⟩ := ih hsplit
      refine ⟨rfl, ?_⟩
      rw [utf8_cons, List.length_append, String.length_utf8EncodeChar]
      omega
    | case4 => cases h
  · rintro ⟨rfl, rfl⟩
    exact splitBytes?_append front back

/-- A good offset cuts a text in one way only. -/
theorem eq_of_append_eq {front front' back back' : List Char}
    (h : front ++ back = front' ++ back') (hlength : (utf8 front).length = (utf8 front').length) :
    front = front' ∧ back = back' := by
  have hsplit := splitBytes?_append front back
  rw [h, hlength, splitBytes?_append] at hsplit
  obtain ⟨hfront, hback⟩ := Prod.mk.inj (Option.some.inj hsplit)
  exact ⟨hfront.symm, hback.symm⟩

/-- The rest behind a front is found by the bytes of the front. -/
theorem sliceFrom?_append (front back : List Char) :
    sliceFrom? (front ++ back) (utf8 front).length = some back := by
  rw [sliceFrom?, splitBytes?_append]
  rfl

/-- **A slice exists exactly between good offsets.** -/
theorem slice?_eq_some_iff {cs inside : List Char} {start stop : Nat} :
    slice? cs start stop = some inside ↔
      ∃ before after, cs = before ++ (inside ++ after) ∧ start = (utf8 before).length ∧
        stop = start + (utf8 inside).length := by
  rw [slice?]
  split
  case isTrue hlt =>
    refine ⟨fun h => ?_, ?_⟩
    · cases h
    · rintro ⟨before, after, -, -, rfl⟩
      omega
  case isFalse hle =>
    constructor
    · intro h
      obtain ⟨⟨before, back⟩, hback, h⟩ := Option.bind_eq_some_iff.mp h
      obtain ⟨⟨inside', after⟩, hinside, heq⟩ := Option.bind_eq_some_iff.mp h
      obtain rfl : inside' = inside := Option.some.inj heq
      obtain ⟨rfl, rfl⟩ := splitBytes?_eq_some_iff.mp hback
      obtain ⟨rfl, hlength⟩ := splitBytes?_eq_some_iff.mp hinside
      exact ⟨before, after, rfl, rfl, by omega⟩
    · rintro ⟨before, after, rfl, rfl, rfl⟩
      rw [splitBytes?_append]
      change (splitBytes? (_ - _) (inside ++ after)).bind _ = _
      rw [Nat.add_sub_cancel_left, splitBytes?_append]
      rfl

/-- The text of a span between good offsets. -/
theorem spanText_of_slice? {text : String} {s : Span} {cs : List Char}
    (hword : s.offset + s.len < wordSize)
    (hslice : slice? text.toList s.offset (s.offset + s.len) = some cs) :
    spanText text s = .ok (String.ofList cs) := by
  rw [spanText, Span.stop, if_pos hword]
  change Except.ok (String.ofList ((slice? text.toList s.offset (s.offset + s.len)).getD [])) = _
  rw [hslice]
  rfl

/-- …and of a list of them. -/
theorem spanTexts_of_slices {text : String} : ∀ {spans : List Span} {texts : List String},
    (∀ s ∈ spans, s.offset + s.len < wordSize) →
    spans.map (fun s => slice? text.toList s.offset (s.offset + s.len))
      = texts.map (fun t => some t.toList) →
    spans.map (spanText text) = texts.map .ok
  | [], [], _, _ => rfl
  | [], _ :: _, _, h => nomatch h
  | _ :: _, [], _, h => nomatch h
  | s :: spans, t :: texts, hwords, h => by
      obtain ⟨hslice, hslices⟩ := List.cons.inj h
      rw [List.map_cons, List.map_cons, spanText_of_slice? (hwords s (by simp)) hslice,
        String.ofList_toList,
        spanTexts_of_slices (fun u hu => hwords u (List.mem_cons_of_mem s hu)) hslices]

/-! ## Painting -/

/-- One span: the text before it, then the painted text, as long as both can be sliced. -/
theorem highlightFrom_cons {s : Span} (h : s.offset + s.len < wordSize) (paint : Paint)
    (text : List Char) (cursor : Nat) (spans : List Span) :
    highlightFrom paint text cursor (s :: spans)
      = match slice? text cursor s.offset, slice? text s.offset (s.offset + s.len) with
        | some before, some inside =>
          (highlightFrom paint text (s.offset + s.len) spans).map (before ++ paint inside ++ ·)
        | _, _ => highlightFrom paint text cursor spans := by
  rw [highlightFrom, Span.stop, if_pos h]
  rfl

/-- Highlighting never fails if the ends of the spans fit a machine word. -/
theorem highlightFrom_completes (paint : Paint) (text : List Char) :
    ∀ (spans : List Span) (cursor : Nat), (∀ s ∈ spans, s.offset + s.len < wordSize) →
      ∃ out, highlightFrom paint text cursor spans = .ok out
  | [], _, _ => ⟨_, rfl⟩
  | s :: spans, cursor, hwords => by
      have ih := fun cursor => highlightFrom_completes paint text spans cursor fun t ht =>
        hwords t (List.mem_cons_of_mem s ht)
      rw [highlightFrom_cons (hwords s (by simp))]
      split
      case h_1 before inside _ _ =>
        obtain ⟨after, hafter⟩ := ih (s.offset + s.len)
        rw [hafter]
        exact ⟨_, rfl⟩
      case h_2 => exact ih cursor

/-- Painting comes to an end if the ends of all spans can be counted. -/
theorem highlight_completes (paint : Paint) (text : String) {spans : List Span}
    (hwords : ∀ s ∈ spans, s.offset + s.len < wordSize) :
    ∃ out, highlight paint text spans = .ok out := by
  obtain ⟨out, hout⟩ := highlightFrom_completes paint text.toList spans 0 hwords
  rw [highlight, hout]
  exact ⟨_, rfl⟩

/-- Behind a good offset, painting without paint copies what is there: spans that are painted are
copied with what stands in front of them, and all others are passed over. -/
theorem highlightFrom_plain : ∀ (spans : List Span) {cursor : Nat} {done rest : List Char},
    (∀ s ∈ spans, s.offset + s.len < wordSize) → cursor = (utf8 done).length →
      highlightFrom Paint.plain (done ++ rest) cursor spans = .ok rest
  | [], _, done, rest, _, hcursor => by
      rw [highlightFrom, hcursor, sliceFrom?_append]
      rfl
  | s :: spans, cursor, done, rest, hwords, hcursor => by
      have hspans : ∀ s ∈ spans, s.offset + s.len < wordSize := fun t ht =>
        hwords t (List.mem_cons_of_mem s ht)
      rw [highlightFrom_cons (hwords s (by simp))]
      split
      case h_1 before inside hbefore hinside =>
        -- the text in front of the cursor stays as it is: `rest` is what is cut into three
        obtain ⟨front, after, hfront, hstart, hoffset⟩ := slice?_eq_some_iff.mp hbefore
        obtain ⟨rfl, rfl⟩ := eq_of_append_eq hfront (hcursor.symm.trans hstart)
        obtain ⟨front', after', hfront', hstart', hstop⟩ := slice?_eq_some_iff.mp hinside
        rw [← List.append_assoc] at hfront'
        obtain ⟨rfl, rfl⟩ := eq_of_append_eq hfront' (by
          rw [utf8_append, List.length_append]
          omega)
        have hnext : s.offset + s.len = (utf8 (done ++ before ++ inside)).length := by
          rw [utf8_append, List.length_append]
          omega
        have ih : highlightFrom Paint.plain (done ++ before ++ inside ++ after')
            (s.offset + s.len) spans = .ok after' := highlightFrom_plain spans hspans hnext
        rw [List.append_assoc, List.append_assoc] at ih
        rw [ih, ← List.append_assoc]
        rfl
      case h_2 => exact highlightFrom_plain spans hspans hcursor

/-- **Painting without paint gives the text back**, whatever the spans are. -/
theorem highlight_plain (text : String) {spans : List Span}
    (hwords : ∀ s ∈ spans, s.offset + s.len < wordSize) :
    highlight Paint.plain text spans = .ok text := by
  have h : highlightFrom Paint.plain ([] ++ text.toList) 0 spans = .ok text.toList :=
    highlightFrom_plain spans hwords rfl
  rw [List.nil_append] at h
  rw [highlight, h]
  exact congrArg Except.ok String.ofList_toList

/-! ## Spans of glyphs -/

/-- **Slicing by the spans gives the literals.** -/
theorem Glyph.slice_spansFrom : ∀ (gs : List Glyph) (before : List Char),
    (spansFrom (utf8 before).length gs).map
        (fun s => slice? (before ++ (text gs).toList) s.offset (s.offset + s.len))
      = (literals gs).map fun l => some l.toList
  | [], _ => rfl
  | .char c :: gs, before => by
      have ih := slice_spansFrom gs (before ++ [c])
      have hlength : (utf8 (before ++ [c])).length = (utf8 before).length + c.utf8Size := by
        rw [utf8_append, List.length_append, utf8_cons, utf8_nil, List.append_nil,
          String.length_utf8EncodeChar]
      rw [hlength, List.append_assoc] at ih
      rw [spansFrom, literals, text_char, String.toList_append, Char.toString,
        String.toList_singleton, ih]
  | .tracked l :: gs, before => by
      have ih := slice_spansFrom gs (before ++ l.toList)
      have hlength : (utf8 (before ++ l.toList)).length
          = (utf8 before).length + l.utf8ByteSize := by
        rw [utf8_append, List.length_append, utf8ByteSize_eq]
      rw [hlength, List.append_assoc] at ih
      rw [spansFrom, literals, text_tracked, String.toList_append, List.map_cons, List.map_cons, ih]
      refine congrArg (· :: _) (slice?_eq_some_iff.mpr ⟨before, (text gs).toList, rfl, rfl, ?_⟩)
      rw [utf8ByteSize_eq]

/-- No span of lexemes reaches behind their text. -/
theorem Lexeme.stop_le_of_mem_spansFrom {pos : Nat} {ls : List Lexeme} {s : Span}
    (h : s ∈ spansFrom pos (layout ls)) :
    s.offset + s.len ≤ pos + (String.ofList (chars ls)).utf8ByteSize := by
  rw [spansFrom_layout] at h
  obtain ⟨x, hx, rfl⟩ := List.mem_map.mp h
  exact stop_le_of_mem_placed (List.mem_of_mem_filter hx)

/-! ## Trees -/

/-- What a node adds to any buffer. -/
theorem Node.write_adds {n : Node} {ls : List Lexeme} (h : n.emission.Writes ls) (b : Buffer) :
    (b.write n).buffer.bytes = b.bytes ++ (String.ofList (chars ls)).toUTF8 ∧
      (b.write n).buffer.spans.toList
        = b.spans.toList ++ if b.isTracking then spansFrom b.size (layout ls) else [] := by
  have hnode : (Call.emission ⟨"%v", [.node n]⟩).Writes ls := Call.writes_node h
  cases hmode : b.isTracking with
  | true => exact Node.write_tracked h hmode
  | false =>
    refine ⟨?_, ?_⟩
    · rw [Buffer.write_eq, ← text_layout]
      exact hnode.bytes b
    · rw [Buffer.write_eq]
      change (b.putAll _).spans.toList = _
      rw [Buffer.spans_putAll, hmode]
      simp

/-- Slicing by the spans of a tree behind any text gives the leaves of the tree. -/
theorem SqlTree.slice_spans (t : SqlTree) (before : String) :
    (spansFrom before.utf8ByteSize (layout t.lexemes)).map
        (fun s => slice? (before ++ String.ofList (chars t.lexemes)).toList s.offset
          (s.offset + s.len))
      = t.leaves.map fun l => some l.sql.toList := by
  have h := slice_spansFrom (layout t.lexemes) before.toList
  rwa [← utf8ByteSize_eq, text_layout, ← String.toList_append, t.carries, List.map_map] at h

/-- **A tree is always written to the end, as text, and its spans cut the text between
characters.** Whatever kind of tree it is, with whatever strings in it, there is no fault on any
buffer, and what is appended is a text `sql`, the one that the tree has on its own. On a buffer that
holds a text, such as an empty one, the text can be read out, strictly and leniently alike; slicing
it by the spans that were recorded always succeeds and gives the literals and bind variables, none
of which is empty. -/
theorem tree_writes_text (t : SqlTree) :
    ∃ sql : String, t.node.text = .ok sql ∧
      (∀ b : Buffer, (b.write t.node).fault = none ∧
        (b.write t.node).buffer.bytes = b.bytes ++ sql.toUTF8) ∧
      ∀ (b : Buffer) (before : String), b.bytes = before.toUTF8 →
        let p := b.write t.node
        let leaves := if b.isTracking then t.leaves else []
        p.buffer.toText = .ok (before ++ sql) ∧ p.buffer.text = before ++ sql ∧
        ∃ added : List Span, p.buffer.spans.toList = b.spans.toList ++ added ∧
          added.map (fun s => slice? (before ++ sql).toList s.offset (s.offset + s.len))
            = leaves.map (fun l => some l.sql.toList) ∧
          (∀ l ∈ leaves, l.sql ≠ "") ∧
          (p.buffer.size < wordSize →
            added.map (spanText (before ++ sql)) = leaves.map fun l => .ok l.sql) := by
  refine ⟨String.ofList (chars t.lexemes), Node.text_eq t.writes,
    fun b => ⟨Node.write_fault t.writes b, (Node.write_adds t.writes b).1⟩, fun b before hb => ?_⟩
  intro p leaves
  obtain ⟨hbytes, hspans⟩ := Node.write_adds t.writes b
  have hpbytes : p.buffer.bytes = (before ++ String.ofList (chars t.lexemes)).toUTF8 := by
    rw [hbytes, hb]
    rfl
  have hsize : b.size = before.utf8ByteSize := by rw [Buffer.size, hb]; rfl
  have hslices : (if b.isTracking then spansFrom b.size (layout t.lexemes) else []).map
      (fun s => slice? (before ++ String.ofList (chars t.lexemes)).toList s.offset
        (s.offset + s.len)) = leaves.map fun l => some l.sql.toList := by
    cases hmode : b.isTracking with
    | true =>
      rw [hsize]
      simpa [leaves, hmode] using t.slice_spans before
    | false => simp [leaves, hmode]
  refine ⟨Utf8.decode_eq_ok_iff.mpr hpbytes, ?_, _, hspans, hslices, fun l _ hempty => ?_,
    fun hword => ?_⟩
  · rw [Buffer.text, hpbytes, Utf8.lossy_toUTF8]
  · have hpos := l.sql_pos
    rw [hempty] at hpos
    exact absurd hpos (by decide)
  · have hwithin : ∀ s ∈ (if b.isTracking then spansFrom b.size (layout t.lexemes) else []),
        s.offset + s.len < wordSize := fun s hs => by
      have hmem : s ∈ spansFrom b.size (layout t.lexemes) := by
        split at hs
        · exact hs
        · cases hs
      rw [Buffer.size, hbytes, ByteArray.size_append] at hword
      exact lt_of_le_of_lt (stop_le_of_mem_spansFrom hmem) hword
    have htexts : leaves.map (fun l => some l.sql.toList)
        = (leaves.map Leaf.sql).map fun t => some t.toList := by rw [List.map_map]; rfl
    rw [spanTexts_of_slices hwithin (hslices.trans htexts), List.map_map]
    rfl

/-- A name with a backtick beside a string with a quote, both beyond ASCII, and a bind variable. -/
def accented : SqlTree :=
  .expr (.and (.comparison (.column ⟨none, ⟨"naïve\x60"⟩⟩) .eq (.literal (.str "d'été")))
    (.comparison (.bind ⟨"ключ"⟩) .like .null))

/-- Offsets count bytes, and they start behind the text that was there. -/
theorem tree_writes_text_accented :
    let b := (Buffer.new true).appendString "é"
    let p := b.write accented.node
    b.bytes = "é".toUTF8 ∧ p.buffer.size < wordSize ∧ p.fault = none ∧
    p.buffer.toText = .ok "é\x60naïve\x60\x60\x60 = 'd''été' AND :ключ LIKE NULL" ∧
    p.buffer.spans.toList.map (spanText "é\x60naïve\x60\x60\x60 = 'd''été' AND :ключ LIKE NULL")
      = [.ok "'d''été'", .ok ":ключ"] := by
  intro b p
  have hb : b.bytes = "é".toUTF8 := rfl
  have hsize : p.buffer.size < wordSize := by decide +kernel
  have hsql : accented.node.text = .ok "\x60naïve\x60\x60\x60 = 'd''été' AND :ключ LIKE NULL" :=
    (Node.text_eq accented.writes).trans (congrArg Except.ok (by decide +kernel))
  have hleaves : accented.leaves.map Leaf.sql = ["'d''été'", ":ключ"] := by decide +kernel
  obtain ⟨sql, htext, hwrite, hread⟩ := tree_writes_text accented
  obtain rfl := Except.ok.inj (htext.symm.trans hsql)
  obtain ⟨hdecode, -, added, hspans, -, -, htexts⟩ := hread b "é" hb
  have hok := congrArg (List.map (Except.ok (ε := Overflow))) hleaves
  rw [List.map_map] at hok
  refine ⟨hb, hsize, (hwrite b).1, hdecode, ?_⟩
  rw [hspans]
  exact (htexts hsize).trans hok

end SqlRender
