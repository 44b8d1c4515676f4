import Mathlib.Data.List.Forall2
import SqlRender.Proofs.SpanRecord

/-!
# Proofs/Frame — a call adds the same wherever it is made

    call on b   =   b, then the call on an empty buffer, its spans moved by the size of b

Pieces are all that a call hands to a buffer, and what a piece adds is read off the piece: its bytes
(`Piece.written`), and a span that depends on the buffer only by the number of bytes in front of it
(`Piece.spansFrom`). Faults are part of the emission and see no buffer at all. Two consequences:

* `outcome_contextFree` — calls are append-only and free of context, aborted or not, and a list *is*
  the texts of its items with the separator between them;
* `tracking_invisible` — a run with tracking and a run without it never differ in bytes or faults.
-/

namespace SqlRender

/-- The span moved on by `n` bytes. -/
def Span.shift (n : Nat) (s : Span) : Span := ⟨n + s.offset, s.len⟩

/-! ## What pieces add -/

namespace Piece

/-- The bytes that a piece appends. -/
def bytes : Piece → ByteArray
  | .note .. => .empty
  | .raw bs => bs
  | .tracked s => s.toUTF8

/-- The span that a piece records behind `pos` bytes, if it is a literal. -/
def spansAt (pos : Nat) : Piece → List Span
  | .tracked s => [⟨pos, s.utf8ByteSize⟩]
  | _ => []

/-- The bytes that pieces append. -/
def written : List Piece → ByteArray
  | [] => .empty
  | p :: ps => p.bytes ++ written ps

/-- The spans that pieces record, the first of them behind `pos` bytes. -/
def spansFrom : Nat → List Piece → List Span
  | _, [] => []
  | pos, p :: ps => p.spansAt pos ++ spansFrom (pos + p.bytes.size) ps

@[simp] theorem written_append (ps qs : List Piece) :
    written (ps ++ qs) = written ps ++ written qs := by
  induction ps with
  | nil => exact ByteArray.empty_append.symm
  | cons p ps ih => rw [List.cons_append, written, written, ih, ByteArray.append_assoc]

/-- **Spans see the text in front of them only by its length.** -/
theorem spansFrom_add (n : Nat) : ∀ (pos : Nat) (ps : List Piece),
    spansFrom (n + pos) ps = (spansFrom pos ps).map (Span.shift n)
  | _, [] => rfl
  | pos, p :: ps => by
      have hp : p.spansAt (n + pos) = (p.spansAt pos).map (Span.shift n) := by cases p <;> rfl
      rw [spansFrom, spansFrom, List.map_append, hp, Nat.add_assoc, spansFrom_add n _ ps]

end Piece

namespace Buffer

theorem bytes_put (b : Buffer) (p : Piece) : (b.put p).bytes = b.bytes ++ p.bytes := by
  cases p with
  | note template args => exact ByteArray.append_empty.symm
  | raw bs => rfl
  | tracked s =>
    change (b.appendTracked s).bytes = _
    rw [appendTracked]
    cases b.tracked <;> rfl

theorem tracked_put (b : Buffer) (p : Piece) :
    (b.put p).tracked = b.tracked.map (· ++ (p.spansAt b.size).toArray) := by
  cases p with
  | note template args =>
    change b.tracked = _
    simp [Piece.spansAt]
  | raw bs =>
    change b.tracked = _
    simp [Piece.spansAt]
  | tracked s =>
    change (b.appendTracked s).tracked = _
    rw [appendTracked]
    cases h : b.tracked with
    | none => exact h
    | some spans => simp [Piece.spansAt]

/-- Pieces append their own bytes, whatever is there. -/
theorem bytes_putAll (b : Buffer) (ps : List Piece) :
    (b.putAll ps).bytes = b.bytes ++ Piece.written ps := by
  induction ps generalizing b with
  | nil => exact ByteArray.append_empty.symm
  | cons p ps ih => rw [putAll_cons, ih, bytes_put, Piece.written, ByteArray.append_assoc]

/-- Pieces record their own spans, behind whatever is there. -/
theorem tracked_putAll (b : Buffer) (ps : List Piece) :
    (b.putAll ps).tracked = b.tracked.map (· ++ (Piece.spansFrom b.size ps).toArray) := by
  induction ps generalizing b with
  | nil => simp [Piece.spansFrom]
  | cons p ps ih =>
    have hsize : (b.put p).size = b.size + p.bytes.size := by
      rw [size, bytes_put, ByteArray.size_append]
      rfl
    rw [putAll_cons, ih, tracked_put, hsize, Option.map_map]
    refine congrArg (fun f => Option.map f b.tracked) (funext fun spans => ?_)
    simp [Piece.spansFrom]

/-- Pieces never turn tracking on or off. -/
theorem isTracking_putAll (b : Buffer) (ps : List Piece) :
    (b.putAll ps).isTracking = b.isTracking := by
  rw [isTracking, tracked_putAll, Option.isSome_map]
  rfl

/-- While tracking is on, the spans of the pieces are recorded behind those that are there. -/
theorem spans_putAll (b : Buffer) (ps : List Piece) :
    (b.putAll ps).spans
      = b.spans ++ (if b.isTracking then Piece.spansFrom b.size ps else []).toArray := by
  rw [spans, spans, tracked_putAll, isTracking]
  cases b.tracked with
  | none => rfl
  | some spans => rfl

/-! ## Calls on any buffer -/

/-- Every call but `clear` only writes. -/
theorem Step.outcome_eq {step : Step} (h : step ≠ .clear) (b : Buffer) :
    step.outcome b = b.emit step.emission := by
  cases step with
  | interpret template args => exact interpret_eq b template args
  | writeNode n => exact write_eq b n
  | writeList nodes => exact writeSeparated_eq b nodes ", "
  | writeSeparated nodes sep => exact writeSeparated_eq b nodes sep
  | clear => exact absurd rfl h

theorem isTracking_new (tracking : Bool) : (new tracking).isTracking = tracking := by
  cases tracking <;> rfl

theorem bytes_emit_new (tracking : Bool) (e : Emission) :
    ((new tracking).emit e).buffer.bytes = Piece.written e.pieces :=
  (bytes_putAll _ _).trans ByteArray.empty_append

/-- The spans on an empty buffer, moved to where the buffer `b` ends. -/
theorem spans_emit (b : Buffer) (e : Emission) :
    (b.emit e).buffer.spans
      = b.spans ++ ((new b.isTracking).emit e).buffer.spans.map (Span.shift b.size) := by
  have hempty : (new b.isTracking).spans = #[] := by cases h : b.isTracking <;> rfl
  have hsize : (new b.isTracking).size = 0 := rfl
  change (b.putAll e.pieces).spans = b.spans ++ ((new b.isTracking).putAll e.pieces).spans.map _
  rw [spans_putAll, spans_putAll, isTracking_new, hempty, hsize]
  cases b.isTracking with
  | false => simp
  | true =>
    have hshift := Piece.spansFrom_add b.size 0 e.pieces
    rw [Nat.add_zero] at hshift
    simp [hshift]

/-! ## Lists -/

/-- What was written, and the fault that stopped the writing, if one did. -/
abbrev Rendering := ByteArray × Option Fault

/-- The rendering of writing on an empty buffer. -/
def rendering (p : Progress) : Rendering := (p.buffer.bytes, p.fault)

/-- Renderings with `sep` between neighbours, up to the first that was stopped. -/
def joined (sep : ByteArray) : List Rendering → Rendering
  | [] => (.empty, none)
  | [r] => r
  | (bs, none) :: rest => (bs ++ sep ++ (joined sep rest).1, (joined sep rest).2)
  | (bs, some f) :: _ => (bs, some f)

end Buffer

open Buffer

/-- The rendering of an emission, which no buffer has a part in. -/
def Emission.rendering (e : Emission) : Rendering := (Piece.written e.pieces, e.fault)

/-- On an empty buffer an emission renders its own text. -/
theorem Buffer.rendering_emit_new (tracking : Bool) (e : Emission) :
    rendering ((new tracking).emit e) = e.rendering :=
  congrArg (·, e.fault) (bytes_emit_new tracking e)

namespace Emission

/-- Nothing is written behind a fault. -/
theorem rendering_andThen (e next : Emission) :
    (e.andThen next).rendering = match e.fault with
      | none => (Piece.written e.pieces ++ next.rendering.1, next.rendering.2)
      | some _ => e.rendering := by
  obtain ⟨ps, fault⟩ := e
  cases fault with
  | none => exact congrArg (·, next.fault) (Piece.written_append ps next.pieces)
  | some f => rfl

/-- What writes nothing and does not stop leaves no trace in front of what follows. -/
theorem rendering_blank_andThen {e : Emission} (h : e.rendering = (.empty, none))
    (next : Emission) : (e.andThen next).rendering = next.rendering := by
  obtain ⟨hbytes, hfault⟩ := Prod.mk.inj h
  rw [rendering_andThen, hfault]
  exact congrArg (·, next.fault) (by rw [hbytes, ByteArray.empty_append]; rfl)

/-- …nor behind what comes before. -/
theorem rendering_andThen_blank {e next : Emission} (h : next.rendering = (.empty, none)) :
    (e.andThen next).rendering = e.rendering := by
  rw [rendering_andThen, h, ByteArray.append_empty]
  obtain ⟨ps, fault⟩ := e
  cases fault <;> rfl

theorem rendering_copy (s : String) : (copy s).rendering = (s.toUTF8, none) :=
  congrArg (·, none) ByteArray.append_empty

end Emission

/-- A marker and nothing else renders as its argument. -/
theorem Call.rendering_bare {template : String} {offset : Nat} (d : Directive)
    (hcut : Slots.ofTemplate template = ⟨[⟨[], offset, some d.marker⟩], []⟩) (arg : Arg) :
    (Call.emission ⟨template, [arg]⟩).rendering = (arg.emission d).rendering := by
  have hd : Directive.ofMarker? d.marker = some d := by cases d <;> rfl
  rw [Call.emission, hcut]
  dsimp only
  rw [Emission.rendering_blank_andThen rfl, Arg.filled, Emission.rendering_blank_andThen rfl,
    Option.bind_some, hd]
  exact Emission.rendering_andThen_blank rfl

/-- A template that is one node's place renders as the node. -/
theorem Call.rendering_node (n : Node) :
    (Call.emission ⟨"%v", [.node n]⟩).rendering = n.emission.rendering :=
  Call.rendering_bare .subNode rfl (.node n)

/-- **A list renders as its items with the separator between them**, whatever is in the separator:
it is an argument and never read as a template. -/
theorem Node.rendering_separated (sep : String) : ∀ nodes : List Node,
    (Call.emissions (Node.separated sep nodes)).rendering
      = joined sep.toUTF8 (nodes.map fun n => n.emission.rendering)
  | [] => by rw [Node.separated, Call.emissions]; rfl
  | [n] => by
      rw [Node.separated, Call.emissions, Call.emissions, Emission.rendering_andThen_blank rfl,
        Call.rendering_node]
      rfl
  | n :: m :: rest => by
      have ih := Node.rendering_separated sep (m :: rest)
      have hsep : (Call.emission ⟨"%s", [.str sep]⟩).rendering = (sep.toUTF8, none) :=
        (Call.rendering_bare .rawText rfl (.str sep)).trans (Emission.rendering_copy sep)
      obtain ⟨hbytes, hfault⟩ := Prod.mk.inj (Call.rendering_node n)
      obtain ⟨hsepBytes, hsepFault⟩ := Prod.mk.inj hsep
      rw [Node.separated, Call.emissions, Call.emissions, Emission.rendering_andThen, hfault,
        hbytes, Emission.rendering_andThen, hsepFault, hsepBytes, ih, Call.rendering_node]
      · simp only [List.map_cons, Emission.rendering]
        cases n.emission.fault with
        | none => rw [joined, ByteArray.append_assoc]; simp
        | some f => rw [joined]; simp
      · simp

/-- Bytes are the text `t` exactly if they are its encoding. -/
theorem Utf8.decode_eq_ok_iff {bytes : ByteArray} {t : String} :
    Utf8.decode bytes = .ok t ↔ bytes = t.toUTF8 := by
  rw [Utf8.decode, String.fromUTF8?]
  by_cases hvalid : bytes.IsValidUTF8
  · rw [dif_pos hvalid]
    constructor
    · intro h
      rw [← Except.ok.inj h]
      rfl
    · rintro rfl
      rfl
  · rw [dif_neg hvalid]
    constructor
    · intro h
      cases h
    · rintro rfl
      exact absurd t.isValidUTF8 hvalid

/-- Completed renderings that are texts are joined as texts. -/
theorem Buffer.joined_texts (sep : String) : ∀ texts : List String,
    joined sep.toUTF8 (texts.map fun t => (t.toUTF8, none)) = ((sep.intercalate texts).toUTF8, none)
  | [] => rfl
  | [t] => by rw [String.intercalate_singleton]; rfl
  | t :: u :: rest => by
      have ih := joined_texts sep (u :: rest)
      rw [String.intercalate_cons_cons, List.map_cons, joined, ih]
      · rfl
      · simp

namespace Buffer

/-! ## Context -/

/-- **Writing is append-only and free of context.** A call on a buffer that holds any bytes and
spans ends like the same call on an empty buffer of the same mode, in success or with the same
fault. It leaves the bytes that were there followed by the bytes it writes on the empty buffer, and
the spans that were there followed by its spans, moved by the length of the text in front. So a
list adds what its items render to on their own, with the separator between them: up to the first
item that faults and, if none does and all are text, their texts joined. -/
theorem outcome_contextFree (b : Buffer) :
    (∀ step : Step, step ≠ .clear →
      let p := step.outcome b
      let q := step.outcome (new b.isTracking)
      p.fault = q.fault ∧ p.buffer.bytes = b.bytes ++ q.buffer.bytes ∧
      p.buffer.isTracking = b.isTracking ∧
      p.buffer.spans = b.spans ++ q.buffer.spans.map (Span.shift b.size)) ∧
    ∀ (nodes : List Node) (sep : String),
      let p := b.writeSeparated nodes sep
      let own := nodes.map fun n => (new b.isTracking).write n
      p.buffer.bytes = b.bytes ++ (joined sep.toUTF8 (own.map rendering)).1 ∧
      p.fault = (joined sep.toUTF8 (own.map rendering)).2 ∧
      ∀ texts : List String,
        List.Forall₂ (fun q t => q.fault = none ∧ q.buffer.toText = .ok t) own texts →
          p.fault = none ∧ p.buffer.bytes = b.bytes ++ (sep.intercalate texts).toUTF8 := by
  refine ⟨fun step hstep => ?_, fun nodes sep => ?_⟩
  · intro p q
    have hp : p = b.emit step.emission := Step.outcome_eq hstep b
    have hq : q = (new b.isTracking).emit step.emission := Step.outcome_eq hstep _
    refine ⟨by rw [hp, hq]; rfl, ?_, ?_, ?_⟩
    · rw [hp, hq, bytes_emit_new]
      exact bytes_putAll b _
    · rw [hp]
      exact isTracking_putAll b _
    · rw [hp, hq]
      exact spans_emit b _
  · intro p own
    have hown : own.map rendering = nodes.map fun n => n.emission.rendering := by
      rw [List.map_map]
      refine List.map_congr_left fun n _ => ?_
      rw [Function.comp_apply, write_eq, rendering_emit_new, Call.rendering_node]
    have hp : p = b.emit (Call.emissions (Node.separated sep nodes)) :=
      writeSeparated_eq b nodes sep
    obtain ⟨hbytes, hfault⟩ := Prod.mk.inj (Node.rendering_separated sep nodes)
    rw [← hown] at hbytes hfault
    have hpbytes : p.buffer.bytes = b.bytes ++ (joined sep.toUTF8 (own.map rendering)).1 := by
      rw [hp, ← hbytes]
      exact bytes_putAll b _
    have hpfault : p.fault = (joined sep.toUTF8 (own.map rendering)).2 := by
      rw [hp, ← hfault]
      rfl
    refine ⟨hpbytes, hpfault, fun texts htexts => ?_⟩
    have hrenderings : own.map rendering = texts.map fun t => (t.toUTF8, none) := by
      rw [← List.forall₂_eq_eq_eq, List.forall₂_map_left_iff, List.forall₂_map_right_iff]
      refine htexts.imp fun q t h => ?_
      exact Prod.ext (Utf8.decode_eq_ok_iff.mp h.2) h.1
    rw [hpbytes, hpfault, hrenderings, joined_texts]
    exact ⟨rfl, rfl⟩

/-- A buffer that holds a text and a span. -/
def halfway : Buffer := ⟨"é = 7".toUTF8, some #[⟨5, 1⟩], #[]⟩

/-- A call that is aborted behind a literal, and a list whose separator looks like a marker. -/
theorem outcome_contextFree_halfway :
    let step : Step := .interpret " OR %a%q" [.str "42", .str "x"]
    let words : List Node := [⟨"Word", [⟨"%s", [.str "x"]⟩]⟩, ⟨"Value", [⟨"%a", [.str "ü"]⟩]⟩]
    step ≠ .clear ∧ (step.outcome halfway).fault = some (.unsupported 'q' 6) ∧
    (step.outcome halfway).buffer.bytes = "é = 7 OR 42".toUTF8 ∧
    (step.outcome halfway).buffer.spans = #[⟨5, 1⟩, ⟨10, 2⟩] ∧
    (halfway.writeSeparated words "%a").buffer.bytes = "é = 7x%aü".toUTF8 := by
  intro step words
  have hstep : step ≠ .clear := by simp [step]
  obtain ⟨hcall, hlist⟩ := outcome_contextFree halfway
  obtain ⟨hfault, hbytes, -, hspans⟩ := hcall step hstep
  have hempty : (step.outcome (new true)).fault = some (.unsupported 'q' 6) ∧
      (step.outcome (new true)).buffer.bytes = " OR 42".toUTF8 ∧
      (step.outcome (new true)).buffer.spans = #[⟨4, 2⟩] := by decide +kernel
  have hwords : List.Forall₂ (fun q t => q.fault = none ∧ q.buffer.toText = .ok t)
      (words.map fun n => (new true).write n) ["x", "ü"] :=
    .cons ⟨by decide +kernel, Utf8.decode_eq_ok_iff.mpr (by decide +kernel)⟩
      (.cons ⟨by decide +kernel, Utf8.decode_eq_ok_iff.mpr (by decide +kernel)⟩ .nil)
  have hjoined := ((hlist words "%a").2.2 _ hwords).2
  have hmode : halfway.isTracking = true := rfl
  have hmoved : halfway.spans ++ #[⟨4, 2⟩].map (Span.shift halfway.size)
      = #[⟨5, 1⟩, ⟨10, 2⟩] := by decide +kernel
  rw [hmode] at hfault hbytes hspans
  rw [hempty.1] at hfault
  rw [hempty.2.1] at hbytes
  rw [hempty.2.2, hmoved] at hspans
  exact ⟨hstep, hfault, hbytes, hspans, hjoined.trans (by decide +kernel)⟩

/-! ## Two modes -/

/-- The outcomes of calls, each of which goes on with what the one before it left. -/
def outcomes : List Step → Buffer → List Progress
  | [], _ => []
  | step :: steps, b => step.outcome b :: outcomes steps (step.outcome b).buffer

/-- Two buffers with the same text, of which the first tracks and the second does not. -/
structure Mirrors (on off : Buffer) : Prop where
  bytes_eq : on.bytes = off.bytes
  on_tracking : on.isTracking = true
  off_tracking : off.isTracking = false

namespace Mirrors

variable {on off : Buffer}

theorem putAll (h : Mirrors on off) (ps : List Piece) : Mirrors (on.putAll ps) (off.putAll ps) where
  bytes_eq := by rw [bytes_putAll, bytes_putAll, h.bytes_eq]
  on_tracking := (isTracking_putAll on ps).trans h.on_tracking
  off_tracking := (isTracking_putAll off ps).trans h.off_tracking

theorem clear (h : Mirrors on off) : Mirrors on.clear off.clear where
  bytes_eq := rfl
  on_tracking := Option.isSome_map.trans h.on_tracking
  off_tracking := Option.isSome_map.trans h.off_tracking

/-- **What one call preserves.** -/
theorem outcome (h : Mirrors on off) (step : Step) :
    (step.outcome on).fault = (step.outcome off).fault ∧
      Mirrors (step.outcome on).buffer (step.outcome off).buffer := by
  by_cases hstep : step = .clear
  · subst hstep
    exact ⟨rfl, h.clear⟩
  · rw [Step.outcome_eq hstep, Step.outcome_eq hstep]
    exact ⟨rfl, h.putAll _⟩

/-- The buffer that does not track has no spans. -/
theorem spans_eq_empty (h : Mirrors on off) : off.spans = #[] := by
  have hrecords : off.Records false [] := ⟨h.off_tracking, fun ht => absurd ht (by decide)⟩
  exact hrecords.spans_eq_empty

/-- …and what a whole run therefore preserves. -/
theorem outcomes : ∀ (steps : List Step) {on off : Buffer}, Mirrors on off →
    List.Forall₂ (fun p q => p.fault = q.fault ∧ Mirrors p.buffer q.buffer)
      (outcomes steps on) (outcomes steps off)
  | [], _, _, _ => .nil
  | step :: steps, _, _, h => .cons (h.outcome step) (outcomes steps (h.outcome step).2)

end Mirrors

/-- **Tracking never changes what is rendered.** Make the same calls on a buffer that tracks and on
one with the same bytes that does not. After every call both hold the same bytes, the call has
completed in both runs or was aborted in both by the same fault, the first run still tracks, and
the second has no spans. -/
theorem tracking_invisible (steps : List Step) (bytes : ByteArray) (spans : Array Span)
    (journal journal' : Array BufferEvent) :
    List.Forall₂ (fun on off => on.buffer.bytes = off.buffer.bytes ∧ on.fault = off.fault ∧
        on.buffer.isTracking = true ∧ off.buffer.isTracking = false ∧ off.buffer.spans = #[])
      (outcomes steps ⟨bytes, some spans, journal⟩) (outcomes steps ⟨bytes, none, journal'⟩) := by
  have hstart : Mirrors ⟨bytes, some spans, journal⟩ ⟨bytes, none, journal'⟩ := ⟨rfl, rfl, rfl⟩
  refine (hstart.outcomes steps).imp fun on off h => ?_
  exact ⟨h.2.bytes_eq, h.1, h.2.on_tracking, h.2.off_tracking, h.2.spans_eq_empty⟩

end Buffer

end SqlRender
