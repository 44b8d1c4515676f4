import Mathlib.Data.List.Chain
import SqlRender.Proofs.Emission

/-!
# Proofs/SpanRecord — spans keep telling where the tracked literals stand

A span is a pair of numbers and nothing in it refers to the text, so every append could put it out
of step. `Locates bytes spans log` says that it does not: the spans lie inside the text, follow each
other without overlap, and cut out the literals of `log` one by one. A piece preserves it
(`Records.put`), hence an emission, hence a step, hence a run — faults included, since a fault only
cuts an emission short — and `spans_locate_literals` is the statement for whole runs.
-/

namespace SqlRender

/-! ## Spans that locate a list of literals -/

/-- The spans cut the literals of `log` out of `bytes`, in order and without overlap. -/
structure Locates (bytes : ByteArray) (spans : List Span) (log : List String) : Prop where
  within : ∀ s ∈ spans, s.offset + s.len ≤ bytes.size
  ordered : spans.IsChain fun s t => s.offset + s.len ≤ t.offset
  texts : spans.map (fun s => bytes.extract s.offset (s.offset + s.len)) = log.map String.toUTF8

namespace Locates

theorem nil (bytes : ByteArray) : Locates bytes [] [] := ⟨by simp, .nil, rfl⟩

/-- A range inside a text is not changed by what is appended to the text. -/
theorem extract_append_of_le {bytes : ByteArray} (bs : ByteArray) {i j : Nat}
    (h : j ≤ bytes.size) : (bytes ++ bs).extract i j = bytes.extract i j := by
  have hbehind : bs.extract (i - bytes.size) (j - bytes.size) = .empty :=
    ByteArray.extract_eq_empty_iff.mpr (by omega)
  rw [ByteArray.extract_append, hbehind, ByteArray.append_empty]

/-- Appended text moves nothing. -/
theorem append {bytes : ByteArray} {spans : List Span} {log : List String}
    (h : Locates bytes spans log) (bs : ByteArray) : Locates (bytes ++ bs) spans log where
  within s hs := by
    have := h.within s hs
    rw [ByteArray.size_append]
    omega
  ordered := h.ordered
  texts := by
    rw [← h.texts]
    exact List.map_congr_left fun s hs => extract_append_of_le bs (h.within s hs)

/-- **A literal is located by the span recorded as it is appended** — that span begins where all
others have ended. -/
theorem snoc {bytes : ByteArray} {spans : List Span} {log : List String}
    (h : Locates bytes spans log) (s : String) :
    Locates (bytes ++ s.toUTF8) (spans ++ [⟨bytes.size, s.utf8ByteSize⟩]) (log ++ [s]) where
  within t ht := by
    rcases List.mem_append.mp ht with ht | ht
    · exact (h.append s.toUTF8).within t ht
    · obtain rfl := List.mem_singleton.mp ht
      exact le_of_eq ByteArray.size_append.symm
  ordered := by
    refine h.ordered.append (.singleton _) fun t ht u hu => ?_
    obtain rfl : (⟨bytes.size, s.utf8ByteSize⟩ : Span) = u := by simpa using hu
    exact h.within t (List.mem_of_getLast? ht)
  texts := by
    rw [List.map_append, List.map_append, (h.append s.toUTF8).texts]
    refine congrArg _ (congrArg (fun bs => [bs]) ?_)
    exact ByteArray.extract_append_eq_right rfl rfl

end Locates

/-! ## One piece -/

/-- The tracked literal a piece completes, if it is one. -/
def Piece.literal? : Piece → Option String
  | .note .. => none
  | .raw _ => none
  | .tracked s => some s

/-- The tracked literals of pieces, in order. -/
def Piece.literals (pieces : List Piece) : List String := pieces.filterMap literal?

namespace Buffer

/-- The buffer tracks as `tracking` says, and while it does its spans locate the literals of
`log`. -/
structure Records (b : Buffer) (tracking : Bool) (log : List String) : Prop where
  mode : b.isTracking = tracking
  located : tracking = true → Locates b.bytes b.spans.toList log

/-- Without tracking there are no spans. -/
theorem Records.spans_eq_empty {b : Buffer} {log : List String} (h : b.Records false log) :
    b.spans = #[] := by
  have hnone : b.tracked = none := by simpa [isTracking] using h.mode
  rw [spans, hnone]
  rfl

/-- A new buffer has nothing to record. -/
theorem records_new (tracking : Bool) : (new tracking).Records tracking [] where
  mode := by cases tracking <;> rfl
  located ht := by
    subst ht
    exact Locates.nil _

/-- Plain bytes move no span. -/
theorem Records.append {b : Buffer} {tracking : Bool} {log : List String}
    (h : b.Records tracking log) (bs : ByteArray) : (b.append bs).Records tracking log :=
  ⟨h.mode, fun ht => (h.located ht).append bs⟩

/-- A tracked literal adds a span at the end. -/
theorem Records.appendTracked {b : Buffer} {tracking : Bool} {log : List String}
    (h : b.Records tracking log) (s : String) :
    (b.appendTracked s).Records tracking (log ++ [s]) := by
  obtain ⟨bytes, tracked, journal⟩ := b
  cases tracked with
  | none =>
    obtain rfl : false = tracking := h.mode
    exact ⟨rfl, fun ht => absurd ht (by decide)⟩
  | some spans =>
    obtain rfl : true = tracking := h.mode
    refine ⟨rfl, fun ht => ?_⟩
    have hsnoc := (h.located ht).snoc s
    rw [← Array.toList_push] at hsnoc
    exact hsnoc

/-- **What one piece preserves**: it completes at most one literal, and that one is recorded. -/
theorem Records.put {b : Buffer} {tracking : Bool} {log : List String}
    (h : b.Records tracking log) (p : Piece) :
    (b.put p).Records tracking (log ++ p.literal?.toList) := by
  cases p with
  | note template args =>
    rw [Piece.literal?, Option.toList_none, List.append_nil]
    exact ⟨h.mode, h.located⟩
  | raw bs =>
    rw [Piece.literal?, Option.toList_none, List.append_nil]
    exact h.append bs
  | tracked s => exact h.appendTracked s

/-- Pieces add the spans of their literals, in order. -/
theorem Records.putAll {tracking : Bool} : ∀ (pieces : List Piece) {b : Buffer} {log : List String},
    b.Records tracking log → (b.putAll pieces).Records tracking (log ++ Piece.literals pieces)
  | [], b, log, h => by
      rw [Piece.literals, List.filterMap_nil, List.append_nil]
      exact h
  | p :: ps, b, log, h => by
      have hrest := Records.putAll ps (h.put p)
      rw [List.append_assoc] at hrest
      have hlit : p.literal?.toList ++ Piece.literals ps = Piece.literals (p :: ps) := by
        cases hp : p.literal? <;> simp [Piece.literals, hp]
      rwa [hlit] at hrest

/-! ## Runs

A step is one call on the buffer. A fault is caught and the next step goes on with the buffer as the
fault left it. -/

/-- A call on a buffer. -/
inductive Step where
  | interpret (template : String) (args : List Arg)
  | writeNode (n : Node)
  | writeList (nodes : List Node)
  | writeSeparated (nodes : List Node) (sep : String)
  | clear

/-- The buffer after a call, and the fault that aborted it, if one did. -/
def Step.outcome : Step → Buffer → Progress
  | .interpret template args, b => b.interpret template args
  | .writeNode n, b => b.write n
  | .writeList nodes, b => b.writeSeparated nodes ", "
  | .writeSeparated nodes sep, b => b.writeSeparated nodes sep
  | .clear, b => ⟨b.clear, none⟩

/-- The buffer after calls, whether or not some of them were aborted. -/
def run (steps : List Step) (b : Buffer) : Buffer :=
  steps.foldl (fun b step => (step.outcome b).buffer) b

/-- What a call writes, apart from dropping what was there. -/
def Step.emission : Step → Emission
  | .interpret template args => Call.emission ⟨template, args⟩
  | .writeNode n => Call.emission ⟨"%v", [.node n]⟩
  | .writeList nodes => Call.emissions (Node.list nodes)
  | .writeSeparated nodes sep => Call.emissions (Node.separated sep nodes)
  | .clear => ⟨[], none⟩

/-- The literals whose `%a` was completed after a call, when `log` were those before it. -/
def Step.log (log : List String) : Step → List String
  | .clear => []
  | step => log ++ Piece.literals step.emission.pieces

/-- The literals whose `%a` was completed since the last `clear`. -/
def completed (steps : List Step) : List String := steps.foldl Step.log []

theorem run_snoc (steps : List Step) (step : Step) (b : Buffer) :
    run (steps ++ [step]) b = (step.outcome (run steps b)).buffer := by
  rw [run, List.foldl_append]
  rfl

theorem completed_snoc (steps : List Step) (step : Step) :
    completed (steps ++ [step]) = step.log (completed steps) := by
  rw [completed, List.foldl_append]
  rfl

theorem records_clear {b : Buffer} {tracking : Bool} {log : List String}
    (h : b.Records tracking log) : b.clear.Records tracking [] := by
  obtain ⟨bytes, tracked, journal⟩ := b
  cases tracked with
  | none =>
    obtain rfl : false = tracking := h.mode
    exact ⟨rfl, fun ht => absurd ht (by decide)⟩
  | some spans => exact ⟨h.mode, fun _ => Locates.nil _⟩

/-- **What one call preserves**, aborted or not. -/
theorem Records.outcome {b : Buffer} {tracking : Bool} {log : List String}
    (h : b.Records tracking log) (step : Step) :
    (step.outcome b).buffer.Records tracking (step.log log) := by
  cases step with
  | interpret template args =>
    rw [Step.outcome, interpret_eq]
    exact h.putAll _
  | writeNode n =>
    rw [Step.outcome, write_eq]
    exact h.putAll _
  | writeList nodes =>
    rw [Step.outcome, writeSeparated_eq]
    exact h.putAll _
  | writeSeparated nodes sep =>
    rw [Step.outcome, writeSeparated_eq]
    exact h.putAll _
  | clear => exact records_clear h

/-- …and what a whole run therefore establishes. -/
theorem records_run (tracking : Bool) (steps : List Step) :
    (run steps (new tracking)).Records tracking (completed steps) := by
  induction steps using List.reverseRecOn with
  | nil => exact records_new tracking
  | append_singleton steps step ih =>
    rw [run_snoc, completed_snoc]
    exact ih.outcome step

/-- The bytes of a span that lies inside a text of less than a word's length. -/
theorem spanBytes_of_le {b : Buffer} {s : Span} (hsize : b.size < wordSize)
    (hs : s.offset + s.len ≤ b.size) :
    b.spanBytes s = .ok (b.bytes.extract s.offset (s.offset + s.len)) := by
  rw [spanBytes, Span.stop, if_pos (by omega)]
  change Except.ok (if s.offset + s.len ≤ b.size then _ else _) = _
  rw [if_pos hs]

/-- **Spans and literals correspond throughout every run**: starting from an empty buffer, after any
calls, aborted or not, there is exactly one span for each literal completed since the last `clear`,
in order, inside the text, disjoint from its neighbours, and it reads back that literal. Without
tracking there is never a span, and no call changes the mode. -/
theorem spans_locate_literals (tracking : Bool) (steps : List Step)
    (hsize : (run steps (new tracking)).size < wordSize) :
    let b := run steps (new tracking)
    b.isTracking = tracking ∧ (∀ step : Step, (step.outcome b).buffer.isTracking = tracking) ∧
    (tracking = false → b.spans = #[]) ∧
    (tracking = true →
      b.spans.size = (completed steps).length ∧
      (∀ s ∈ b.spans, s.offset + s.len ≤ b.size) ∧
      (∀ i (hi : i + 1 < b.spans.size),
        b.spans[i].offset + b.spans[i].len ≤ b.spans[i + 1].offset) ∧
      b.spans.toList.map b.spanBytes = (completed steps).map fun s => .ok s.toUTF8) := by
  have h := records_run tracking steps
  refine ⟨h.mode, fun step => (h.outcome step).mode, ?_, fun ht => ?_⟩
  · rintro rfl
    exact h.spans_eq_empty
  obtain ⟨hwithin, hordered, htexts⟩ := h.located ht
  refine ⟨?_, fun s hs => hwithin s (Array.mem_toList_iff.mpr hs), fun i hi => ?_, ?_⟩
  · simpa using congrArg List.length htexts
  · exact hordered.getElem i (by simpa using hi)
  · have hread : ∀ s ∈ (run steps (new tracking)).spans.toList,
        (run steps (new tracking)).spanBytes s
          = .ok ((run steps (new tracking)).bytes.extract s.offset (s.offset + s.len)) :=
      fun s hs => spanBytes_of_le hsize (hwithin s hs)
    rw [List.map_congr_left hread]
    have hok := congrArg (List.map (Except.ok (ε := Overflow))) htexts
    rwa [List.map_map, List.map_map] at hok

/-- A run with everything in it: text dropped by `clear`, a fault two levels down that leaves a
literal behind, and a further call after it. -/
def abortedRun : List Step :=
  [.interpret "%a" [.str "gone"], .clear,
    .interpret "id = %a, %v;" [.str "42", .node ⟨"Value", [⟨"%a%s", [.str "é", .byte 0]⟩]⟩],
    .writeList [⟨"Word", [⟨"%s", [.str "b"]⟩]⟩, ⟨"Value", [⟨"%a", [.str ""]⟩]⟩]]

/-- The spans that are left are those of the literals behind the `clear`, the one before the fault
included. -/
theorem spans_locate_literals_abortedRun :
    (run abortedRun (new true)).size < wordSize ∧
    (run abortedRun (new true)).spans = #[⟨5, 2⟩, ⟨9, 2⟩, ⟨14, 0⟩] ∧
    (run abortedRun (new true)).spans.toList.map (run abortedRun (new true)).spanBytes
      = [.ok "42".toUTF8, .ok "é".toUTF8, .ok "".toUTF8] := by
  have hsize : (run abortedRun (new true)).size < wordSize := by decide +kernel
  have hspans : (run abortedRun (new true)).spans = #[⟨5, 2⟩, ⟨9, 2⟩, ⟨14, 0⟩] := by
    decide +kernel
  have hlog : completed abortedRun = ["42", "é", ""] := by decide +kernel
  have hread := ((spans_locate_literals true abortedRun hsize).2.2.2 rfl).2.2.2
  rw [hlog] at hread
  exact ⟨hsize, hspans, hread⟩

end Buffer

end SqlRender
