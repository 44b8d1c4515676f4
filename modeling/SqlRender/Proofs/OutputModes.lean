import SqlRender.Command.Run
import SqlRender.Proofs.RoundTrip
import SqlRender.Proofs.Sliced
import SqlRender.Proofs.Splice
import SqlRender.Proofs.TableText

/-!
# Proofs/OutputModes — all that is printed about a statement is one rendering

A statement has one text and one list of tracked literals, each a span and what it cuts out of the
text (`Statement.literals`). Whatever the settings and the options say, the output is made of these
two (`Statement.Described`): the text and a line break, a table of the literals if they are tracked,
or both in one JSON object. `output_modes_agree` says so of the command and of the whole program,
which cannot fail once the document has been loaded.
-/

namespace SqlRender

open Glyph Lexeme

/-! ## The literals of a statement -/

/-- The literals and bind variables of a statement at their places in its text. -/
def Statement.literals (s : Statement) : List TrackedLiteral :=
  (s.spans.zip (s.leaves.map Leaf.sql)).map fun x => ⟨x.1, x.2⟩

theorem Statement.texts_literals (s : Statement) :
    s.literals.map TrackedLiteral.text = s.leaves.map Leaf.sql := by
  rw [literals, List.map_map]
  exact List.map_snd_zip (by rw [s.length_spans, List.length_map])

theorem Statement.literals_spans (s : Statement) :
    s.literals.map TrackedLiteral.span = s.spans := by
  rw [literals, List.map_map]
  exact List.map_fst_zip (by rw [s.length_spans, List.length_map])

/-- There are literals exactly if there are leaves. -/
theorem Statement.literals_eq_nil_iff (s : Statement) : s.literals = [] ↔ s.leaves = [] := by
  rw [← List.map_eq_nil_iff (f := TrackedLiteral.text), s.texts_literals, List.map_eq_nil_iff]

/-- Slicing the text of a statement by its spans gives its leaves. -/
theorem Statement.slice_spans (s : Statement) :
    s.spans.map (fun span => slice? s.sql.toList span.offset (span.offset + span.len))
      = (s.leaves.map Leaf.sql).map fun t => some t.toList := by
  have h := SqlTree.slice_spans (.statement s) ""
  rw [String.empty_append, String.utf8ByteSize_empty] at h
  rw [List.map_map]
  exact h

/-- A span ends within the text. -/
theorem Statement.stop_le_of_mem_spans {s : Statement} {span : Span} (h : span ∈ s.spans) :
    span.offset + span.len ≤ s.sql.utf8ByteSize := by
  have hstop := stop_le_of_mem_spansFrom h
  rwa [Nat.zero_add] at hstop

/-- The spans stand one behind the other. -/
theorem Statement.sorted_spans (s : Statement) :
    s.spans.Pairwise fun a b => a.offset + a.len ≤ b.offset := by
  rw [spans, spansFrom_layout, List.pairwise_map]
  exact (sorted_placed 0 s.lexemes).filter _

/-- A literal says what its span cuts out of the text. -/
theorem Statement.slice_of_mem_literals {s : Statement} {t : TrackedLiteral} (h : t ∈ s.literals) :
    slice? s.sql.toList t.span.offset (t.span.offset + t.span.len) = some t.text.toList := by
  have hslices := s.slice_spans
  rw [← s.literals_spans, ← s.texts_literals, List.map_map, List.map_map] at hslices
  exact List.map_inj_left.mp hslices t h

/-- Literals are read off a text whose spans can be sliced. -/
theorem trackedLiterals_of_spanTexts {sql : String} : ∀ {spans : List Span} {texts : List String},
    spans.map (spanText sql) = texts.map .ok →
      trackedLiterals sql spans = .ok ((spans.zip texts).map fun x => ⟨x.1, x.2⟩)
  | [], _, _ => rfl
  | _ :: _, [], h => nomatch h
  | s :: spans, t :: texts, h => by
      obtain ⟨htext, hrest⟩ := List.cons.inj h
      have ih := trackedLiterals_of_spanTexts hrest
      rw [trackedLiterals, List.mapM_cons, htext]
      rw [trackedLiterals] at ih
      rw [ih]
      rfl

/-- The literals can be cut from a text whose length fits a machine word. -/
theorem Statement.trackedLiterals_spans {s : Statement} (hsize : s.sql.utf8ByteSize < wordSize) :
    trackedLiterals s.sql s.spans = .ok s.literals :=
  trackedLiterals_of_spanTexts (spanTexts_of_slices
    (fun _ h => lt_of_le_of_lt (Statement.stop_le_of_mem_spans h) hsize) s.slice_spans)

/-! ## What is written -/

/-- The spans in effect: those of the statement if they are tracked. -/
def Statement.spansIn (s : Statement) (tracking : Bool) : List Span :=
  if tracking then s.spans else []

/-- The ends of spans fit a machine word if the length of the text does. -/
theorem Statement.stop_lt_of_mem_spansIn {s : Statement} (hsize : s.sql.utf8ByteSize < wordSize)
    {tracking : Bool} {span : Span} (h : span ∈ s.spansIn tracking) :
    span.offset + span.len < wordSize := by
  cases tracking with
  | true => exact lt_of_le_of_lt (Statement.stop_le_of_mem_spans h) hsize
  | false => cases h

/-- With tracking the buffer has the spans of the literals, and without it none. -/
theorem Statement.write_spansIn (s : Statement) (tracking : Bool) :
    (s.write tracking).buffer.spans.toList = s.spansIn tracking := by
  have h := (Node.write_adds s.writes (Buffer.new tracking)).2
  rw [Buffer.isTracking_new] at h
  rw [Statement.write, h]
  cases tracking <;> rfl

/-- **A statement that is printed is its text and its spans**: writing has no fault, and the bytes
are text. -/
theorem renderStatement_eq (o : RenderOptions) (settings : Settings) (paint : Paint)
    (s : Statement) :
    (renderStatement o settings paint s).2
      = (renderOutput o.json (o.effective settings) paint s.sql
          (s.spansIn (o.effective settings).tracking)).mapError fun e => .internal e.message := by
  have htext : (s.write (o.effective settings).tracking).buffer.toText = .ok s.sql :=
    Utf8.decode_eq_ok_iff.mpr (s.write_bytes _)
  rw [renderStatement]
  dsimp only
  rw [s.write_fault, htext, s.write_spansIn]

/-- A document is loaded if it can be opened and parsed. -/
theorem Statement.load_eq_ok_iff {files : Files} {p : Path} {s : Statement} :
    Statement.load files p = .ok s ↔ ∃ format text,
      openDocument files p = .ok (format, text) ∧ Statement.parse text format = .ok s := by
  rw [Statement.load]
  cases openDocument files p with
  | error fault => simp [Except.bind, Except.mapError]
  | ok document =>
    obtain ⟨format, text⟩ := document
    change (Statement.parse text format).mapError _ = _ ↔ _
    cases h : Statement.parse text format with
    | error fault => simp [Except.mapError, h]
    | ok t => simp [Except.mapError, h]

/-- A document that loads is rendered like its statement. -/
theorem renderDocument_of_load {files : Files} {o : RenderOptions} {s : Statement}
    (h : Statement.load files o.path = .ok s) (settings : Settings) (paint : Paint) :
    (renderDocument files o settings paint).2 = (renderStatement o settings paint s).2 := by
  obtain ⟨format, text, hopen, hparse⟩ := Statement.load_eq_ok_iff.mp h
  rw [renderDocument, hopen]
  dsimp only
  rw [hparse]

/-! ## What is printed -/

/-- The first line is always found: the text with its spans painted or, without paint, the text. -/
theorem line_completes (wanted : Bool) (paint : Paint) (text : String) {spans : List Span}
    (hwords : ∀ span ∈ spans, span.offset + span.len < wordSize) :
    ∃ line, (if wanted then highlight paint text spans else .ok text) = .ok line ∧
      (paint = Paint.plain ∨ wanted = false → line = text) := by
  cases wanted with
  | false => exact ⟨text, rfl, fun _ => rfl⟩
  | true =>
    obtain ⟨line, hline⟩ := highlight_completes paint text hwords
    refine ⟨line, hline, ?_⟩
    rintro (rfl | h)
    · exact (Except.ok.inj ((highlight_plain text hwords).symm.trans hline)).symm
    · cases h

/-- A literal in the output is read back as it is: its numbers are words. -/
theorem TrackedLiteral.readBack_json {t : TrackedLiteral}
    (h : t.span.offset + t.span.len < wordSize) : t.json.readBack = t.json.reading := by
  have hoffset := Reading.ofInteger_word (Nat.lt_of_le_of_lt (Nat.le_add_right _ _) h)
  have hlen := Reading.ofInteger_word (Nat.lt_of_le_of_lt (Nat.le_add_left _ _) h)
  simp only [json, Json.readBack, Json.readBackMembers, Json.reading, Json.memberReadings, hoffset,
    hlen]

/-- **JSON output is read back as it is.** -/
theorem readBack_renderJson (sql : String) {literals : List TrackedLiteral}
    (h : ∀ t ∈ literals, t.span.offset + t.span.len < wordSize) :
    (renderJson sql literals).readBack = (renderJson sql literals).reading := by
  have hitems : Json.readBackItems (literals.map TrackedLiteral.json)
      = Json.readings (literals.map TrackedLiteral.json) := by
    induction literals with
    | nil => rfl
    | cons t literals ih =>
      rw [List.map_cons, Json.readBackItems, Json.readings,
        TrackedLiteral.readBack_json (h t (by simp)),
        ih fun u hu => h u (List.mem_cons_of_mem t hu)]
  simp only [renderJson, Json.readBack, Json.readBackMembers, Json.reading, Json.memberReadings,
    hitems]

/-- A table starts with its corner, so it is not mistaken for a remark. -/
theorem Table.head?_render (header : List String) (rows : List (List String)) :
    (Table.render header rows).toList.head? = some '╭' := by
  have hrule : ∀ ws, ∃ cs, (rule "╭" "┬" "╮" ws).toList = '╭' :: cs := fun ws =>
    ⟨_, by rw [rule, String.toList_append, String.toList_append]; rfl⟩
  obtain ⟨cs, hcs⟩ := hrule (widths (header :: rows))
  rw [Table.render, List.append_assoc, List.append_assoc, List.append_assoc, List.singleton_append,
    String.intercalate_cons_of_ne_nil (by simp), String.toList_append, String.toList_append, hcs]
  rfl

/-- The remark that there are no literals is made only if there are none. -/
theorem literalTable_eq_iff {literals : List TrackedLiteral} :
    literalTable literals = "No tracked literals." ↔ literals = [] := by
  constructor
  · intro h
    by_contra hliterals
    rw [literalTable] at h
    · have hhead := congrArg (fun s => s.toList.head?) h
      rw [Table.head?_render] at hhead
      exact absurd hhead (by decide)
    · exact hliterals
  · rintro rfl
    rfl

/-- What is said about a statement under these options and settings: as JSON, an object with the
text and the literals; else the text, painted if that is wanted, and behind it, if literals are
tracked, the table of them, numbered from one, or the remark that there are none. The table shows
the number, the place and the text of each literal side by side. -/
structure Statement.Described (s : Statement) (o : RenderOptions) (settings : Settings)
    (paint : Paint) (out : String) : Prop where
  json : o.json = true → Reading.ofText out = ⟨(Json.object [("sql", .string s.sql),
    ("substitutions", .array (s.literals.map fun t => .object [("offset", .int t.span.offset),
      ("len", .int t.span.len), ("text", .string t.text)]))]).reading, true⟩
  text : o.json = false → ∃ line rest, out = line ++ "\n" ++ rest ∧
    (paint = Paint.plain ∨ (settings.highlight || o.highlight) = false → line = s.sql) ∧
    ((settings.tracking || o.tracked) = false → rest = "") ∧
    ((settings.tracking || o.tracked) = true →
      (s.leaves ≠ [] → rest = Table.render ["#", "offset", "length", "text"]
        (s.literals.zipIdx.map fun (t, i) =>
          [toString (i + 1), toString t.span.offset, toString t.span.len, t.text]) ++ "\n") ∧
      (∀ x ∈ s.literals.zipIdx, Table.Shows rest
        [toString (x.2 + 1), toString x.1.span.offset, toString x.1.span.len, x.1.text]) ∧
      (rest = "No tracked literals.\n" ↔ s.leaves = []))

/-- JSON output neither depends on settings nor on colours. -/
theorem renderOutput_json {sql : String} {spans : List Span} {literals : List TrackedLiteral}
    (h : trackedLiterals sql spans = .ok literals) (effective : Settings) (paint : Paint) :
    renderOutput true effective paint sql spans
      = .ok ((renderJson sql literals).pretty ++ "\n") := by
  rw [renderOutput, if_pos rfl, h]
  rfl

/-- Text output is the line, and below it the table if tracking is on. -/
theorem renderOutput_text {sql line : String} {spans : List Span} {literals : List TrackedLiteral}
    {effective : Settings} {paint : Paint}
    (hline : (if effective.highlight then highlight paint sql spans else .ok sql) = .ok line)
    (h : effective.tracking = true → trackedLiterals sql spans = .ok literals) :
    renderOutput false effective paint sql spans
      = .ok (line ++ "\n" ++ if effective.tracking then literalTable literals ++ "\n" else "") := by
  have hrest : (if effective.tracking then do
        let found ← trackedLiterals sql spans
        pure (line ++ "\n" ++ literalTable found ++ "\n")
      else pure (line ++ "\n") : Except Overflow String)
        = .ok (line ++ "\n" ++
          if effective.tracking then literalTable literals ++ "\n" else "") := by
    cases htracking : effective.tracking with
    | true =>
      rw [if_pos rfl, if_pos rfl, h htracking, ← String.append_assoc]
      rfl
    | false => rw [if_neg (by decide), if_neg (by decide), String.append_empty]; rfl
  rw [renderOutput, if_neg (by decide)]
  dsimp only
  cases hwanted : effective.highlight with
  | true =>
    rw [hwanted, if_pos rfl] at hline
    rw [if_pos rfl, hline]
    exact hrest
  | false =>
    rw [hwanted, if_neg (by decide)] at hline
    obtain rfl := Except.ok.inj hline
    exact hrest

/-- The lines about the literals of a statement. -/
theorem Statement.literalTable_literals (s : Statement) :
    (s.leaves ≠ [] → literalTable s.literals = Table.render ["#", "offset", "length", "text"]
      (s.literals.zipIdx.map fun (t, i) =>
        [toString (i + 1), toString t.span.offset, toString t.span.len, t.text])) ∧
    (literalTable s.literals = "No tracked literals." ↔ s.leaves = []) := by
  refine ⟨fun h => ?_, literalTable_eq_iff.trans s.literals_eq_nil_iff⟩
  rw [literalTable]
  · rfl
  · exact fun hnil => h (s.literals_eq_nil_iff.mp hnil)

/-- Every literal is in the table of literals. -/
theorem shows_literalTable {literals : List TrackedLiteral} :
    ∀ x ∈ literals.zipIdx, Table.Shows (literalTable literals) (x.1.row (x.2 + 1)) := by
  intro x hx
  have hliterals : literals ≠ [] := by
    rintro rfl
    exact absurd hx (by simp)
  rw [literalTable]
  · refine Table.shows_render (fun r hr => ?_) (List.mem_map_of_mem hx)
    obtain ⟨y, _, rfl⟩ := List.mem_map.mp hr
    rfl
  · exact hliterals

/-- **All that is printed describes one rendering.** -/
theorem Statement.described {s : Statement} (hsize : s.sql.utf8ByteSize < wordSize)
    (o : RenderOptions) (settings : Settings) (paint : Paint) :
    ∃ out, (renderStatement o settings paint s).2 = .ok out ∧
      s.Described o settings paint out := by
  have hliterals : (o.effective settings).tracking = true →
      trackedLiterals s.sql (s.spansIn (o.effective settings).tracking) = .ok s.literals := by
    intro h
    rw [h]
    exact Statement.trackedLiterals_spans hsize
  rw [renderStatement_eq]
  cases hjson : o.json with
  | true =>
    have htracking : (o.effective settings).tracking = true := by
      simp [RenderOptions.effective, hjson]
    rw [renderOutput_json (hliterals htracking)]
    refine ⟨_, rfl, fun _ => ?_, fun h => absurd (hjson.symm.trans h) (by decide)⟩
    rw [Reading.ofText_pretty, readBack_renderJson]
    · rfl
    · intro t ht
      have hspan : t.span ∈ s.spansIn true := by
        rw [spansIn, if_pos rfl, ← s.literals_spans]
        exact List.mem_map_of_mem ht
      exact stop_lt_of_mem_spansIn hsize hspan
  | false =>
    have htracking : (o.effective settings).tracking = (settings.tracking || o.tracked) := by
      simp [RenderOptions.effective, hjson]
    obtain ⟨line, hline, hplain⟩ := line_completes (o.effective settings).highlight paint s.sql
      fun _ => stop_lt_of_mem_spansIn hsize
    rw [renderOutput_text hline hliterals, htracking]
    refine ⟨_, rfl, fun h => absurd (hjson.symm.trans h) (by decide),
      fun _ => ⟨_, _, rfl, hplain, fun h => by rw [h, if_neg (by decide)], fun h => ?_⟩⟩
    rw [h, if_pos rfl]
    obtain ⟨htable, hremark⟩ := s.literalTable_literals
    refine ⟨fun hleaves => congrArg (· ++ "\n") (htable hleaves),
      fun x hx => (shows_literalTable x hx).append_break, ?_⟩
    have hbreak : "No tracked literals.\n" = "No tracked literals." ++ "\n" := by decide
    rw [← hremark, hbreak]
    exact String.append_left_inj "\n"

/-! ## The program -/

/-- A request to render ends well if rendering does. -/
theorem run_render {environment : Environment} {files : Files} {args : List String}
    {verbosity : Nat} {o : RenderOptions} {settings : Settings} {out : String}
    (hparse : Arguments.parse args = .ok ⟨verbosity, .render o⟩)
    (hsettings : Settings.load files environment.home = .ok settings)
    (hout : (renderDocument files o settings
      (if environment.color then Paint.color else Paint.plain)).2 = .ok out) :
    (run environment files args).2.status = 0 ∧ (run environment files args).2.output = out := by
  rw [run, hparse]
  dsimp only
  rw [runRequest, hsettings]
  dsimp only [perform, requireSettings, Except.mapError]
  rw [hout]
  exact ⟨rfl, rfl⟩

/-- **All output modes describe the same rendering.** A statement `s` has one text, and its literals
and bind variables have their places in it, in order: what each span cuts out of the text is what
the literal or bind variable renders to on its own. Once a document has been loaded as `s`, printing
it cannot fail, whatever the settings, the options and the paint are, and what is printed is the
text and these literals in the form that was asked for. The same is so of a run of the program,
which ends with status 0. That the size of the text is a machine word is so of any text in
memory. -/
theorem output_modes_agree (s : Statement) :
    s.node.text = .ok s.sql ∧
    s.literals.map TrackedLiteral.span = (s.write true).buffer.spans.toList ∧
    (s.literals.map TrackedLiteral.span).Pairwise (fun a b => a.offset + a.len ≤ b.offset) ∧
    s.literals.map TrackedLiteral.text = s.leaves.map Leaf.sql ∧
    (∀ l ∈ s.leaves, l.expr.node.text = .ok l.sql) ∧
    (∀ t ∈ s.literals,
      slice? s.sql.toList t.span.offset (t.span.offset + t.span.len) = some t.text.toList) ∧
    (s.sql.utf8ByteSize < wordSize →
      (∀ (files : Files) (o : RenderOptions) (settings : Settings) (paint : Paint),
        Statement.load files o.path = .ok s →
          ∃ out, (renderDocument files o settings paint).2 = .ok out ∧
            s.Described o settings paint out) ∧
      ∀ (environment : Environment) (files : Files) (args : List String) (verbosity : Nat)
        (o : RenderOptions) (settings : Settings),
        Arguments.parse args = .ok ⟨verbosity, .render o⟩ →
        Settings.load files environment.home = .ok settings →
        Statement.load files o.path = .ok s →
          (run environment files args).2.status = 0 ∧
            s.Described o settings (if environment.color then Paint.color else Paint.plain)
              (run environment files args).2.output) := by
  refine ⟨s.text_node, s.literals_spans.trans s.write_spans.symm,
    s.literals_spans.symm ▸ s.sorted_spans, s.texts_literals, fun l _ => l.text_node,
    fun t ht => Statement.slice_of_mem_literals ht, fun hsize => ?_⟩
  have hrender : ∀ (files : Files) (o : RenderOptions) (settings : Settings) (paint : Paint),
      Statement.load files o.path = .ok s →
        ∃ out, (renderDocument files o settings paint).2 = .ok out ∧
          s.Described o settings paint out := by
    intro files o settings paint hload
    rw [renderDocument_of_load hload]
    exact Statement.described hsize o settings paint
  refine ⟨hrender, ?_⟩
  intro environment files args verbosity o settings hparse hsettings hload
  obtain ⟨out, hout, hdescribed⟩ := hrender files o settings _ hload
  obtain ⟨hstatus, houtput⟩ := run_render hparse hsettings hout
  rw [houtput]
  exact ⟨hstatus, hdescribed⟩

/-- A name beyond ASCII, a string of two lines and a bind variable. -/
def multilineDelete : Statement :=
  .delete ⟨⟨none, ⟨"t"⟩⟩, some (.isIn (.column ⟨none, ⟨"ü"⟩⟩) false
    [.literal (.str "ß\n"), .bind ⟨"k"⟩])⟩

/-- A directory with one document and no settings. -/
def filesWith (text : String) : Files := ⟨[(["d.json"], .file text.toUTF8 newFileMode)]⟩

/-- A document that parses can be loaded from a file, with the default settings. -/
theorem load_filesWith {text : String} {s : Statement} (h : Statement.parse text .json = .ok s) :
    Statement.load (filesWith text) ⟨"d.json"⟩ = .ok s ∧
      Settings.load (filesWith text) ⟨"/home"⟩ = .ok {} := by
  have hformat : DocumentFormat.ofPath? ⟨"d.json"⟩ = some .json := by decide +kernel
  have hlook : (filesWith text).look ⟨"d.json"⟩ = .ok (.file text.toUTF8 newFileMode) := rfl
  have htext : (filesWith text).readText ⟨"d.json"⟩ = .ok text := by
    rw [Files.readText, Files.read, hlook]
    dsimp only [bind, Except.bind, pure, Except.pure]
    rw [Utf8.decode_eq_ok_iff.mpr rfl]
  have hopen : openDocument (filesWith text) ⟨"d.json"⟩ = .ok (.json, text) := by
    rw [openDocument, hformat, htext]
    rfl
  exact ⟨Statement.load_eq_ok_iff.mpr ⟨_, _, hopen, h⟩, rfl⟩

theorem parse_multilineDelete :
    Statement.parse multilineDelete.json.compact .json = .ok multilineDelete := by
  have hfloats : FloatsReadBack multilineDelete.leaves := by
    intro x hx
    simp [multilineDelete, Statement.leaves, optionLeaves, Expr.leaves, Expr.listLeaves] at hx
  exact Statement.parse_of_fromText ((Statement.reads hfloats).fromText (by decide))
    (by decide +kernel)

/-- All modes on one document, with a string of two lines among its literals. -/
theorem output_modes_agree_multilineDelete :
    let files := filesWith multilineDelete.json.compact
    let tracked := (run { home := ⟨"/home"⟩ } files
      ["render", "--tracked", "--highlight", "d.json"]).2
    let json := (run { home := ⟨"/home"⟩ } files ["render", "--json", "d.json"]).2
    let sql := "DELETE FROM t WHERE \x60ü\x60 IN ('ß\n', :k)"
    multilineDelete.sql = sql ∧ multilineDelete.sql.utf8ByteSize < wordSize ∧
    Statement.load files ⟨"d.json"⟩ = .ok multilineDelete ∧
    tracked.status = 0 ∧
    tracked.output = sql ++ "\n" ++ (Table.render ["#", "offset", "length", "text"]
      [["1", "29", "5", "'ß\n'"], ["2", "36", "2", ":k"]] ++ "\n") ∧
    json.status = 0 ∧
    Reading.ofText json.output
      = ⟨.object [(some "sql", .string sql), (some "substitutions", .array [
          .object [(some "offset", .int 29), (some "len", .int 5), (some "text", .string "'ß\n'")]
            true,
          .object [(some "offset", .int 36), (some "len", .int 2), (some "text", .string ":k")]
            true] true)] true, true⟩ := by
  have hsql : multilineDelete.sql = "DELETE FROM t WHERE \x60ü\x60 IN ('ß\n', :k)" := by
    decide +kernel
  have hsize : multilineDelete.sql.utf8ByteSize < wordSize := by rw [hsql]; decide +kernel
  have hliterals : multilineDelete.literals = [⟨⟨29, 5⟩, "'ß\n'"⟩, ⟨⟨36, 2⟩, ":k"⟩] := by
    decide +kernel
  obtain ⟨hload, hsettings⟩ := load_filesWith parse_multilineDelete
  have htracked : Arguments.parse ["render", "--tracked", "--highlight", "d.json"]
      = .ok ⟨0, .render ⟨⟨"d.json"⟩, true, true, false⟩⟩ := by decide +kernel
  have hjson : Arguments.parse ["render", "--json", "d.json"]
      = .ok ⟨0, .render ⟨⟨"d.json"⟩, false, false, true⟩⟩ := by decide +kernel
  obtain ⟨-, -, -, -, -, -, hprinted⟩ := output_modes_agree multilineDelete
  obtain ⟨-, hrun⟩ := hprinted hsize
  obtain ⟨hstatus, hdescribed⟩ := hrun { home := ⟨"/home"⟩ } _ _ _ _ _ htracked hsettings hload
  obtain ⟨hstatus', hdescribed'⟩ := hrun { home := ⟨"/home"⟩ } _ _ _ _ _ hjson hsettings hload
  obtain ⟨line, rest, hout, hline, -, hrest⟩ := hdescribed.text rfl
  have hleaves : multilineDelete.leaves ≠ [] := fun h =>
    absurd (multilineDelete.literals_eq_nil_iff.mpr h) (by rw [hliterals]; simp)
  have htable := (hrest rfl).1 hleaves
  have hreading := hdescribed'.json rfl
  -- written out, so that the kernel compares the runs and does not perform them
  dsimp only
  refine ⟨hsql, hsize, hload, hstatus, ?_, hstatus', ?_⟩
  · rw [hout, hline (.inl rfl), htable, hsql, hliterals]
    rfl
  · rw [hreading, hsql, hliterals]
    rfl

end SqlRender
