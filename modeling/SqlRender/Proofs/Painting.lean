import SqlRender.Proofs.OutputModes

/-!
# Proofs/Painting — spans in paint, and when a statement has any

Painting walks over the spans with a cursor and copies what lies between them. From a boundary of
the text on, with spans that are cut out at boundaries and lie in order, what it copies are the
pieces `outside` the spans, so painting is a `splice` of the texts in paint
(`highlightFrom_eq_weave`).

* `highlight_replaces_spans` — painting loses no text and repeats none, whatever the spans are, and
  replaces each span by its text in paint where they lie in order;
* `literals_painted_iff_tracked` — what highlighting does to the line that is printed: the literals
  are in paint exactly if they are tracked as well, for only tracked literals have spans.
-/

namespace SqlRender

open Glyph Lexeme

/-! ## Boundaries of a text -/

section Boundaries

open String.Pos.Raw

variable {text : String} {start stop : Nat} {cs : List Char}

/-- A valid offset counts the bytes of the characters in front of it. -/
theorem isValid_iff_exists_chars {n : Nat} :
    IsValid text ⟨n⟩ ↔ ∃ front back, text.toList = front ++ back ∧ n = (utf8 front).length := by
  rw [isValid_iff_exists_append]
  constructor
  · rintro ⟨front, back, rfl, h⟩
    refine ⟨front.toList, back.toList, String.toList_append, ?_⟩
    rw [← utf8ByteSize_eq]
    exact congrArg String.Pos.Raw.byteIdx h
  · rintro ⟨front, back, h, rfl⟩
    refine ⟨String.ofList front, String.ofList back, ?_, ?_⟩
    · rw [← String.ofList_append, ← h, String.ofList_toList]
    · have hsize := utf8ByteSize_eq (String.ofList front)
      rw [String.toList_ofList] at hsize
      rw [← hsize]
      rfl

/-- Every text can be cut at its start. -/
theorem isValid_zero (text : String) : IsValid text ⟨0⟩ :=
  isValid_iff_exists_chars.mpr ⟨[], text.toList, rfl, rfl⟩

/-- What could be sliced can be cut at both ends. -/
theorem isValid_of_slice? (h : slice? text.toList start stop = some cs) :
    IsValid text ⟨start⟩ ∧ IsValid text ⟨stop⟩ := by
  obtain ⟨before, after, htext, rfl, rfl⟩ := slice?_eq_some_iff.mp h
  refine ⟨isValid_iff_exists_chars.mpr ⟨before, _, htext, rfl⟩,
    isValid_iff_exists_chars.mpr ⟨before ++ cs, after, ?_, ?_⟩⟩
  · rw [htext, List.append_assoc]
  · rw [utf8_append, List.length_append]

/-- **Between two boundaries there is a slice.** -/
theorem exists_slice? (hle : start ≤ stop) (hstart : IsValid text ⟨start⟩)
    (hstop : IsValid text ⟨stop⟩) : ∃ inside, slice? text.toList start stop = some inside := by
  obtain ⟨before, back, htext, rfl⟩ := isValid_iff_exists_chars.mp hstart
  obtain ⟨front, after, htext', rfl⟩ := isValid_iff_exists_chars.mp hstop
  rcases List.append_eq_append_iff.mp (htext.symm.trans htext') with
    ⟨inside, rfl, rfl⟩ | ⟨inside, rfl, rfl⟩
  · refine ⟨inside, slice?_eq_some_iff.mpr ⟨before, after, htext, rfl, ?_⟩⟩
    rw [utf8_append, List.length_append]
  · -- the offsets are in order, so `inside` has no bytes here
    rw [utf8_append, List.length_append] at hle
    refine ⟨[], slice?_eq_some_iff.mpr ⟨front ++ inside, back, htext, rfl, ?_⟩⟩
    rw [utf8_append, List.length_append, utf8_nil, List.length_nil]
    omega

theorem size_toUTF8_ofList (cs : List Char) :
    (String.ofList cs).toUTF8.size = (utf8 cs).length := by
  rw [← toByteArray_utf8, List.size_toByteArray]

/-- A slice is the bytes between its offsets. -/
theorem extract_of_slice? (h : slice? text.toList start stop = some cs) :
    text.toUTF8.extract start stop = (String.ofList cs).toUTF8 := by
  obtain ⟨before, after, htext, rfl, rfl⟩ := slice?_eq_some_iff.mp h
  have hbytes : text.toUTF8 = (String.ofList before).toUTF8 ++
      ((String.ofList cs).toUTF8 ++ (String.ofList after).toUTF8) := by
    rw [← String.ofList_toList (s := text), htext, String.ofList_append, String.ofList_append]
    rfl
  have hskip : text.toUTF8.extract ((String.ofList before).toUTF8.size + 0)
      ((String.ofList before).toUTF8.size + (String.ofList cs).toUTF8.size)
        = ((String.ofList cs).toUTF8 ++ (String.ofList after).toUTF8).extract 0
          (String.ofList cs).toUTF8.size := by
    rw [hbytes]
    exact ByteArray.extract_append_size_add
  rw [← size_toUTF8_ofList, ← size_toUTF8_ofList]
  exact hskip.trans (ByteArray.extract_append_eq_left rfl)

/-- What stands behind a boundary is the bytes from there on. -/
theorem exists_sliceFrom? (h : IsValid text ⟨start⟩) :
    ∃ rest, sliceFrom? text.toList start = some rest ∧
      text.toUTF8.extract start text.toUTF8.size = (String.ofList rest).toUTF8 := by
  obtain ⟨before, rest, htext, rfl⟩ := isValid_iff_exists_chars.mp h
  have hbytes : text.toUTF8 = (String.ofList before).toUTF8 ++ (String.ofList rest).toUTF8 := by
    rw [← String.ofList_toList (s := text), htext, String.ofList_append]
    rfl
  refine ⟨rest, by rw [htext, sliceFrom?_append], ?_⟩
  rw [hbytes, ← size_toUTF8_ofList]
  exact ByteArray.extract_append_eq_right rfl ByteArray.size_append

/-- Spans whose ends are boundaries cut texts out, which are the bytes between these ends. -/
theorem exists_texts : ∀ {spans : List Span},
    (∀ s ∈ spans, IsValid text ⟨s.offset⟩ ∧ IsValid text ⟨s.offset + s.len⟩) →
    ∃ texts : List String,
      spans.map (fun s => slice? text.toList s.offset (s.offset + s.len))
        = texts.map (fun t => some t.toList) ∧
      spans.map (fun s => text.toUTF8.extract s.offset (s.offset + s.len))
        = texts.map String.toUTF8
  | [], _ => ⟨[], rfl, rfl⟩
  | s :: spans, h => by
      obtain ⟨hoffset, hstop⟩ := h s (by simp)
      obtain ⟨inside, hinside⟩ := exists_slice? (Nat.le_add_right _ _) hoffset hstop
      obtain ⟨texts, hslices, hbytes⟩ := exists_texts fun t ht => h t (List.mem_cons_of_mem s ht)
      refine ⟨String.ofList inside :: texts, ?_, ?_⟩
      · rw [List.map_cons, List.map_cons, hinside, hslices, String.toList_ofList]
      · rw [List.map_cons, List.map_cons, extract_of_slice? hinside, hbytes]

end Boundaries

/-! ## Spans in paint -/

/-- A text in paint. -/
def Paint.apply (paint : Paint) (text : String) : String := String.ofList (paint text.toList)

/-- **Painting from a boundary on weaves the texts in paint with what is outside the spans**, if no
span starts before the cursor or before the end of the one in front of it. -/
theorem highlightFrom_eq_weave (paint : Paint) (text : String) : ∀ {spans : List Span}
    {texts : List String} {cursor : Nat}, (∀ s ∈ spans, s.offset + s.len < wordSize) →
    String.Pos.Raw.IsValid text ⟨cursor⟩ → (∀ s ∈ spans.head?, cursor ≤ s.offset) →
    spans.IsChain (fun a b => a.offset + a.len ≤ b.offset) →
    spans.map (fun s => slice? text.toList s.offset (s.offset + s.len))
      = texts.map (fun t => some t.toList) →
    ∃ out, highlightFrom paint text.toList cursor spans = .ok out ∧
      (String.ofList out).toUTF8
        = weave (outside text.toUTF8 cursor spans) (texts.map paint.apply)
  | [], [], cursor, _, hcursor, _, _, _ => by
      obtain ⟨rest, hrest, hbytes⟩ := exists_sliceFrom? hcursor
      refine ⟨rest, ?_, hbytes.symm⟩
      rw [highlightFrom, hrest]
      rfl
  | [], _ :: _, _, _, _, _, _, h => nomatch h
  | _ :: _, [], _, _, _, _, _, h => nomatch h
  | s :: spans, t :: texts, cursor, hwords, hcursor, hfirst, hchain, h => by
      have hslice : slice? text.toList s.offset (s.offset + s.len) = some t.toList :=
        (List.cons.inj h).1
      obtain ⟨hnext, hchain⟩ := List.isChain_cons.mp hchain
      obtain ⟨hoffset, hstop⟩ := isValid_of_slice? hslice
      obtain ⟨before, hbefore⟩ := exists_slice? (hfirst s (by simp)) hcursor hoffset
      -- the end of the span is a boundary, and the cursor moves there
      obtain ⟨after, hafter, hbytes⟩ := highlightFrom_eq_weave paint text
        (fun u hu => hwords u (List.mem_cons_of_mem s hu)) hstop hnext hchain (List.cons.inj h).2
      refine ⟨before ++ paint t.toList ++ after, ?_, ?_⟩
      · rw [highlightFrom_cons (hwords s (by simp)), hbefore, hslice, hafter]
        rfl
      · rw [outside, List.map_cons, weave, extract_of_slice? hbefore, ← hbytes,
          String.ofList_append, String.ofList_append]
        rfl

/-- **Highlighting splices the painted texts into their spans.** -/
theorem highlight_eq_splice (paint : Paint) {text : String} {spans : List Span}
    {texts : List String} (hwords : ∀ s ∈ spans, s.offset + s.len < wordSize)
    (hchain : spans.IsChain fun a b => a.offset + a.len ≤ b.offset)
    (hslices : spans.map (fun s => slice? text.toList s.offset (s.offset + s.len))
      = texts.map fun t => some t.toList) :
    ∃ out, highlight paint text spans = .ok out ∧
      out.toUTF8 = splice text.toUTF8 spans (texts.map paint.apply) := by
  obtain ⟨out, hout, hbytes⟩ := highlightFrom_eq_weave paint text hwords (isValid_zero text)
    (fun s _ => Nat.zero_le s.offset) hchain hslices
  refine ⟨String.ofList out, ?_, hbytes⟩
  rw [highlight, hout]
  rfl

theorem highlight_nil (paint : Paint) (text : String) : highlight paint text [] = .ok text := by
  have hall : sliceFrom? text.toList 0 = some text.toList := sliceFrom?_append [] text.toList
  rw [highlight, highlightFrom, hall]
  exact congrArg Except.ok String.ofList_toList

/-- **Painting neither loses nor repeats text.** Without paint it gives the text back, whatever the
spans are: out of order, over one another, beyond the end, or cutting characters in two. In any
paint, spans that end within the text and between characters and that lie one behind the other are
each replaced by their text in paint, once, and all else stays as it is. -/
theorem highlight_replaces_spans (text : String) {spans : List Span}
    (hwords : ∀ s ∈ spans, s.offset + s.len < wordSize) :
    highlight Paint.plain text spans = .ok text ∧
    ∀ paint : Paint,
      (∀ s ∈ spans, String.Pos.Raw.IsValid text ⟨s.offset⟩ ∧
        String.Pos.Raw.IsValid text ⟨s.offset + s.len⟩) →
      spans.IsChain (fun a b => a.offset + a.len ≤ b.offset) →
        ∃ (texts : List String) (out : String),
          spans.map (fun s => text.toUTF8.extract s.offset (s.offset + s.len))
            = texts.map String.toUTF8 ∧
          highlight paint text spans = .ok out ∧
          out.toUTF8 = splice text.toUTF8 spans (texts.map paint.apply) := by
  refine ⟨highlight_plain text hwords, fun paint hvalid hchain => ?_⟩
  obtain ⟨texts, hslices, hbytes⟩ := exists_texts hvalid
  obtain ⟨out, hout, hsplice⟩ := highlight_eq_splice paint hwords hchain hslices
  exact ⟨texts, out, hbytes, hout, hsplice⟩

/-- A span that cuts a character, one that is painted, the same again, one in front of it and one
beyond the end leave the text as it is; two that lie in order are in colour. -/
theorem highlight_replaces_spans_mixed :
    highlight Paint.plain "é = 'ß'" [⟨1, 1⟩, ⟨5, 4⟩, ⟨5, 4⟩, ⟨0, 2⟩, ⟨40, 2⟩] = .ok "é = 'ß'" ∧
    highlight Paint.color "é = 'ß'" [⟨0, 2⟩, ⟨5, 4⟩]
      = .ok "\x1b[1;33mé\x1b[0m = \x1b[1;33m'ß'\x1b[0m" := by
  refine ⟨(highlight_replaces_spans _ (by decide)).1, ?_⟩
  have hwords : ∀ s ∈ ([⟨0, 2⟩, ⟨5, 4⟩] : List Span), s.offset + s.len < wordSize := by decide
  obtain ⟨texts, out, htexts, hout, hbytes⟩ := (highlight_replaces_spans "é = 'ß'" hwords).2
    Paint.color (by decide +kernel) (by decide)
  have hcut : [⟨0, 2⟩, ⟨5, 4⟩].map
      (fun s : Span => "é = 'ß'".toUTF8.extract s.offset (s.offset + s.len))
        = ["é", "'ß'"].map String.toUTF8 := by decide +kernel
  obtain rfl : ["é", "'ß'"] = texts :=
    List.map_injective_iff.mpr (fun _ _ => String.toByteArray_inj.mp) (hcut.symm.trans htexts)
  have hcolored : splice "é = 'ß'".toUTF8 [⟨0, 2⟩, ⟨5, 4⟩] (["é", "'ß'"].map Paint.color.apply)
      = "\x1b[1;33mé\x1b[0m = \x1b[1;33m'ß'\x1b[0m".toUTF8 := by decide +kernel
  rw [hout, String.toByteArray_inj.mp (hbytes.trans hcolored)]

/-! ## Statements in paint -/

namespace Statement

variable {s : Statement} {paint : Paint} {line : String}

/-- The line is the text of the statement with every literal and bind variable in paint, each in its
recorded span, and all else as it is. -/
def Painted (s : Statement) (paint : Paint) (line : String) : Prop :=
  let p := s.write true
  line.toUTF8 = splice p.buffer.bytes p.buffer.spans.toList
    (s.leaves.map fun l => paint.apply l.sql)

/-- A line is painted exactly if its bytes are those of the splice. -/
theorem painted_iff :
    s.Painted paint line ↔
      line.toUTF8 = splice s.sql.toUTF8 s.spans ((s.leaves.map Leaf.sql).map paint.apply) := by
  rw [Painted, s.write_bytes, s.write_spans, List.map_map]
  rfl

/-- The text with the spans in effect in paint. -/
theorem highlight_spansIn (hsize : s.sql.utf8ByteSize < wordSize) (paint : Paint)
    (tracking : Bool) :
    ∃ line, highlight paint s.sql (s.spansIn tracking) = .ok line ∧
      (tracking = true → s.Painted paint line) ∧ (tracking = false → line = s.sql) := by
  cases tracking with
  | true =>
    have hwords : ∀ span ∈ s.spans, span.offset + span.len < wordSize := fun _ h =>
      lt_of_le_of_lt (stop_le_of_mem_spans h) hsize
    obtain ⟨line, hline, hbytes⟩ := highlight_eq_splice paint hwords s.sorted_spans.isChain
      s.slice_spans
    exact ⟨line, hline, fun _ => painted_iff.mpr hbytes, nofun⟩
  | false => exact ⟨s.sql, highlight_nil paint s.sql, nofun, fun _ => rfl⟩

/-- A statement without leaves is painted as it is. -/
theorem painted_of_leaves_eq_nil (h : s.leaves = []) (paint : Paint) : s.Painted paint s.sql := by
  have hspans : s.spans = [] := List.length_eq_zero_iff.mp (by rw [s.length_spans, h]; rfl)
  rw [painted_iff, h, hspans]
  exact ByteArray.extract_zero_size.symm

/-- Putting the leaves in place of themselves changes nothing. -/
theorem splice_leaves (s : Statement) :
    splice s.sql.toUTF8 s.spans (s.leaves.map Leaf.sql) = s.sql.toUTF8 := by
  have hliterals : Glyph.literals (layout s.lexemes) = s.leaves.map Leaf.sql :=
    (SqlTree.statement s).carries
  rw [splice, s.outside_spans, ← hliterals, weave_gapsFrom, String.empty_append, text_layout]
  rfl

end Statement

theorem length_outside (bytes : ByteArray) : ∀ (spans : List Span) (pos : Nat),
    (outside bytes pos spans).length = spans.length + 1
  | [], _ => rfl
  | s :: spans, _ => congrArg (· + 1) (length_outside bytes spans (s.offset + s.len))

/-- Texts that grow by a byte each make what they are woven into grow by as much. -/
theorem size_weave_map {f : String → String}
    (hf : ∀ t, (f t).utf8ByteSize = t.utf8ByteSize + 1) :
    ∀ {pieces : List ByteArray} {texts : List String}, texts.length < pieces.length →
      (weave pieces (texts.map f)).size = (weave pieces texts).size + texts.length
  | [], _, h => absurd h (Nat.not_lt_zero _)
  | _ :: _, [], _ => rfl
  | piece :: pieces, t :: texts, h => by
      have ih := size_weave_map hf (Nat.lt_of_succ_lt_succ h)
      have ht : (f t).toUTF8.size = t.toUTF8.size + 1 := hf t
      simp only [List.map_cons, weave, ByteArray.size_append, ih, ht, List.length_cons]
      omega

/-- An exclamation mark in front is paint of one byte. -/
def Paint.bang : Paint := fun cs => '!' :: cs

/-- This paint adds a byte, so painted text differs from bare text. -/
theorem Paint.utf8ByteSize_bang (t : String) :
    (Paint.bang.apply t).utf8ByteSize = t.utf8ByteSize + 1 := by
  rw [Paint.apply, Paint.bang, utf8ByteSize_eq, utf8ByteSize_eq, String.toList_ofList, utf8_cons,
    List.length_append, Nat.add_comm]
  rfl

/-- Paint shows: it makes the text of a statement longer by a byte for each leaf. -/
theorem Statement.Painted.size_bang {s : Statement} {line : String}
    (h : s.Painted Paint.bang line) :
    line.utf8ByteSize = s.sql.utf8ByteSize + s.leaves.length := by
  have hlt : (s.leaves.map Leaf.sql).length < (outside s.sql.toUTF8 0 s.spans).length := by
    rw [length_outside, s.length_spans, List.length_map]
    exact Nat.lt_succ_self _
  have hsize := size_weave_map Paint.utf8ByteSize_bang hlt
  rw [← splice, ← splice, ← painted_iff.mp h, s.splice_leaves, List.length_map] at hsize
  exact hsize

/-! ## The line that is printed -/

section Line

variable {files : Files} {o : RenderOptions} {settings : Settings} {s : Statement}

/-- **Where highlighting is on, the literals of the first line are in paint if they are tracked**,
and else it is the bare text. -/
theorem renderDocument_highlighted (hload : Statement.load files o.path = .ok s)
    (hsize : s.sql.utf8ByteSize < wordSize) (hjson : o.json = false)
    (hhighlight : (settings.highlight || o.highlight) = true) (paint : Paint) :
    ∃ line, (renderDocument files o settings paint).2 = .ok (line ++ "\n" ++
        if settings.tracking || o.tracked then literalTable s.literals ++ "\n" else "") ∧
      ((settings.tracking || o.tracked) = true → s.Painted paint line) ∧
      ((settings.tracking || o.tracked) = false → line = s.sql) := by
  have htracking : (o.effective settings).tracking = (settings.tracking || o.tracked) := by
    simp [RenderOptions.effective, hjson]
  obtain ⟨line, hline, hlook⟩ :=
    Statement.highlight_spansIn hsize paint (o.effective settings).tracking
  have hfirst : (if (o.effective settings).highlight then
      highlight paint s.sql (s.spansIn (o.effective settings).tracking) else .ok s.sql)
        = .ok line := by
    rw [show (o.effective settings).highlight = true from hhighlight, if_pos rfl, hline]
  have hliterals : (o.effective settings).tracking = true →
      trackedLiterals s.sql (s.spansIn (o.effective settings).tracking) = .ok s.literals := by
    intro h
    rw [h]
    exact Statement.trackedLiterals_spans hsize
  rw [htracking] at hlook
  refine ⟨line, ?_, hlook⟩
  rw [renderDocument_of_load hload, renderStatement_eq, hjson, renderOutput_text hfirst hliterals,
    htracking]
  rfl

/-- **Highlighting puts the literals in paint exactly if they are tracked too.** The settings or the
options of a command ask for highlighting, and a document has been loaded as `s`. Where tracking is
on, by the settings or by an option, the line that is printed has every literal and bind variable of
`s` in paint and nothing else; where it is off, the line is the bare text, in whatever paint. So the
line is as highlighting promises, in every paint, only if tracking is on or there is nothing to
paint. -/
theorem literals_painted_iff_tracked (hload : Statement.load files o.path = .ok s)
    (hsize : s.sql.utf8ByteSize < wordSize) (hjson : o.json = false)
    (hhighlight : (settings.highlight || o.highlight) = true) :
    (∀ paint : Paint, ∃ line, (renderDocument files o settings paint).2 = .ok (line ++ "\n" ++
        if settings.tracking || o.tracked then literalTable s.literals ++ "\n" else "") ∧
      ((settings.tracking || o.tracked) = true → s.Painted paint line) ∧
      ((settings.tracking || o.tracked) = false → line = s.sql)) ∧
    ((∀ paint : Paint, ∃ line rest,
        (renderDocument files o settings paint).2 = .ok (line ++ "\n" ++ rest) ∧
          s.Painted paint line) ↔
      (settings.tracking || o.tracked) = true ∨ s.leaves = []) := by
  have hout := renderDocument_highlighted hload hsize hjson hhighlight
  refine ⟨hout, fun hall => ?_, ?_⟩
  · cases htracked : settings.tracking || o.tracked with
    | true => exact .inl rfl
    | false =>
      -- the bare text is printed, and it has no room for marks
      obtain ⟨line, rest, hline, hpainted⟩ := hall Paint.bang
      obtain ⟨bare, hbare, -, hsql⟩ := hout Paint.bang
      have hsame := Except.ok.inj (hbare.symm.trans hline)
      rw [hsql htracked, htracked, if_neg (by decide), String.append_empty] at hsame
      have hbytes := congrArg String.utf8ByteSize hsame
      have hlonger := hpainted.size_bang
      simp only [String.utf8ByteSize_append] at hbytes
      exact .inr (List.length_eq_zero_iff.mp (by omega))
  · rintro hwhen paint
    obtain ⟨line, hline, hpainted, hsql⟩ := hout paint
    refine ⟨line, _, hline, ?_⟩
    cases htracked : settings.tracking || o.tracked with
    | true => exact hpainted htracked
    | false =>
      rw [hsql htracked]
      exact Statement.painted_of_leaves_eq_nil
        (hwhen.resolve_left (by rw [htracked]; decide)) paint

end Line

/-- With tracking on, both literals are in colour. -/
theorem literals_painted_iff_tracked_multilineDelete :
    let files := filesWith multilineDelete.json.compact
    let o : RenderOptions := ⟨⟨"d.json"⟩, true, true, false⟩
    Statement.load files o.path = .ok multilineDelete ∧
    multilineDelete.sql.utf8ByteSize < wordSize ∧
    ∃ rest, (renderDocument files o {} Paint.color).2 = .ok
      ("DELETE FROM t WHERE \x60ü\x60 IN (\x1b[1;33m'ß\n'\x1b[0m, \x1b[1;33m:k\x1b[0m)" ++ "\n"
        ++ rest) := by
  intro files o
  have hload : Statement.load files o.path = .ok multilineDelete :=
    (load_filesWith parse_multilineDelete).1
  have hsize : multilineDelete.sql.utf8ByteSize < wordSize := by decide +kernel
  have hhighlight : (({} : Settings).highlight || o.highlight) = true := rfl
  obtain ⟨line, hout, hpainted, -⟩ :=
    (literals_painted_iff_tracked hload hsize rfl hhighlight).1 Paint.color
  have hcolored :
      splice multilineDelete.sql.toUTF8 multilineDelete.spans
        ((multilineDelete.leaves.map Leaf.sql).map Paint.color.apply)
      = "DELETE FROM t WHERE \x60ü\x60 IN (\x1b[1;33m'ß\n'\x1b[0m, \x1b[1;33m:k\x1b[0m)".toUTF8 :=
    by decide +kernel
  obtain rfl := String.toByteArray_inj.mp
    ((Statement.painted_iff.mp (hpainted rfl)).trans hcolored)
  exact ⟨hload, hsize, _, hout⟩

/-- **Highlighting alone paints nothing.** The program is asked to highlight a statement with two
literals on a terminal with colours, and prints its bare text, which is not the text with the two in
colour. -/
theorem highlight_alone_paints_nothing :
    let files := filesWith multilineDelete.json.compact
    let outcome := (run { home := ⟨"/home"⟩, color := true } files
      ["render", "--highlight", "d.json"]).2
    Statement.load files ⟨"d.json"⟩ = .ok multilineDelete ∧
    multilineDelete.leaves.map Leaf.sql = ["'ß\n'", ":k"] ∧
    outcome.status = 0 ∧ outcome.output = "DELETE FROM t WHERE \x60ü\x60 IN ('ß\n', :k)\n" ∧
    ∀ line rest, outcome.output = line ++ "\n" ++ rest →
      ¬ multilineDelete.Painted Paint.color line := by
  have hsql : multilineDelete.sql = "DELETE FROM t WHERE \x60ü\x60 IN ('ß\n', :k)" := by
    decide +kernel
  have hsize : multilineDelete.sql.utf8ByteSize < wordSize := by rw [hsql]; decide +kernel
  have hparse : Arguments.parse ["render", "--highlight", "d.json"]
      = .ok ⟨0, .render ⟨⟨"d.json"⟩, false, true, false⟩⟩ := by decide +kernel
  obtain ⟨hload, hsettings⟩ := load_filesWith parse_multilineDelete
  obtain ⟨line, hline, -, hbare⟩ := @renderDocument_highlighted _
    ⟨⟨"d.json"⟩, false, true, false⟩ {} _ hload hsize rfl rfl Paint.color
  obtain ⟨hstatus, houtput⟩ := @run_render { home := ⟨"/home"⟩, color := true } _ _ _ _ _ _ hparse
    hsettings (by rw [if_pos rfl]; exact hline)
  have hjoin : "DELETE FROM t WHERE \x60ü\x60 IN ('ß\n', :k)" ++ "\n"
      = "DELETE FROM t WHERE \x60ü\x60 IN ('ß\n', :k)\n" := by decide
  rw [hbare rfl, hsql, if_neg (by decide), String.append_empty, hjoin] at houtput
  dsimp only
  refine ⟨hload, by decide +kernel, hstatus, houtput, fun line rest hout hpainted => ?_⟩
  have hlonger : 39 < line.toUTF8.size := by
    rw [Statement.painted_iff.mp hpainted]
    decide +kernel
  have hbytes : line.toUTF8.size + 1 + rest.utf8ByteSize = 40 := by
    have h := congrArg String.utf8ByteSize (hout.symm.trans houtput)
    rw [String.utf8ByteSize_append, String.utf8ByteSize_append] at h
    exact h
  omega

end SqlRender
