import SqlRender.Buffer
import SqlRender.Proofs.Scan

/-!
# Proofs/Emission — what a node writes does not depend on where it is written

A buffer is only ever appended to, so filling a template *is* a list of pieces put behind whatever
stood there before. `Node.emission` reads that list off the tree of calls alone, together with the
fault that cuts it short, and

    writeNode n b = ⟨b.putAll n.emission.pieces, n.emission.fault⟩        (`writeNode_eq`)

holds for every buffer `b`. Everything about bytes and spans is then a fact about lists of pieces:
no later proof opens the writing functions again.
-/

namespace SqlRender

/-- One thing that writing does to a buffer. -/
inductive Piece where
  /-- A template is begun; only the journal sees it. -/
  | note (template : String) (args : Nat)
  /-- Bytes are copied. -/
  | raw (bs : ByteArray)
  /-- A tracked literal is copied, and its span recorded while tracking is on. -/
  | tracked (s : String)

namespace Buffer

/-- Do what a piece says. -/
def put (b : Buffer) : Piece → Buffer
  | .note template args => b.note (.interpret template args)
  | .raw bs => b.append bs
  | .tracked s => b.appendTracked s

/-- Do what pieces say, in order. -/
def putAll (b : Buffer) (pieces : List Piece) : Buffer := pieces.foldl put b

@[simp] theorem putAll_nil (b : Buffer) : b.putAll [] = b := rfl

@[simp] theorem putAll_cons (b : Buffer) (p : Piece) (ps : List Piece) :
    b.putAll (p :: ps) = (b.put p).putAll ps := rfl

@[simp] theorem putAll_append (b : Buffer) (ps qs : List Piece) :
    b.putAll (ps ++ qs) = (b.putAll ps).putAll qs := List.foldl_append ..

end Buffer

/-- Pieces in the order they are written, and the fault that stopped the writing, if one did. -/
structure Emission where
  pieces : List Piece
  fault : Option Fault := none

namespace Emission

/-- Nothing behind a fault is written. -/
def andThen (e next : Emission) : Emission :=
  match e.fault with
  | none => ⟨e.pieces ++ next.pieces, next.fault⟩
  | some _ => e

@[simp] theorem andThen_complete (ps : List Piece) (next : Emission) :
    andThen ⟨ps, none⟩ next = ⟨ps ++ next.pieces, next.fault⟩ := rfl

@[simp] theorem andThen_stopped (ps : List Piece) (f : Fault) (next : Emission) :
    andThen ⟨ps, some f⟩ next = ⟨ps, some f⟩ := rfl

/-- Emissions can be grouped at will. -/
theorem andThen_assoc (e f g : Emission) :
    (e.andThen f).andThen g = e.andThen (f.andThen g) := by
  obtain ⟨ps, fault⟩ := e
  obtain ⟨qs, fault'⟩ := f
  cases fault with
  | none => cases fault' <;> simp
  | some _ => rfl

/-- Text copied verbatim. -/
def copy (s : String) : Emission := ⟨[.raw s.toUTF8], none⟩

end Emission

mutual

/-- What a node writes. -/
def Node.emission : Node → Emission
  | ⟨_, calls⟩ => Call.emissions calls

/-- What calls write, one after the other. -/
def Call.emissions : List Call → Emission
  | [] => ⟨[], none⟩
  | c :: rest => c.emission.andThen (Call.emissions rest)

/-- What one template writes. -/
def Call.emission : Call → Emission
  | ⟨template, args⟩ =>
    let cut := Slots.ofTemplate template
    (⟨[.note template args.length], none⟩ : Emission).andThen (Arg.filled args 0 cut.slots cut.tail)

/-- What slots write when they are filled with arguments from position `index` on. -/
def Arg.filled : List Arg → Nat → List Slot → List Char → Emission
  | [], _, [], tail => .copy (String.ofList tail)
  | [], index, slot :: _, _ =>
    (Emission.copy (String.ofList slot.before)).andThen ⟨[], some (slot.fault index)⟩
  | _ :: _, _, [], tail => .copy (String.ofList tail)
  | arg :: args, index, slot :: slots, tail =>
    (Emission.copy (String.ofList slot.before)).andThen
      (match slot.marker.bind Directive.ofMarker? with
      | none => ⟨[], some (slot.fault index)⟩
      | some d => (arg.emission d).andThen (Arg.filled args (index + 1) slots tail))

/-- What an argument writes for its marker. -/
def Arg.emission : Arg → Directive → Emission
  | .byte v, .charLiteral => ⟨[.raw ⟨#[v]⟩], none⟩
  | .char c, .charLiteral => .copy c.toString
  | .bytes bs, .rawText => ⟨[.raw bs], none⟩
  | .str s, .rawText => .copy s
  | .node n, .subNode => n.emission
  | .str s, .trackedLiteral => ⟨[.tracked s], none⟩
  | arg, d => ⟨[], some (.mismatch d arg.type)⟩

end

theorem Call.emissions_append : ∀ cs ds : List Call,
    Call.emissions (cs ++ ds) = (Call.emissions cs).andThen (Call.emissions ds)
  | [], ds => by rw [Call.emissions]; rfl
  | c :: cs, ds => by
      rw [List.cons_append, Call.emissions, Call.emissions, Call.emissions_append cs ds,
        Emission.andThen_assoc]

namespace Buffer

/-- The outcome of writing an emission. -/
def emit (b : Buffer) (e : Emission) : Progress := ⟨b.putAll e.pieces, e.fault⟩

/-- Going on unless a fault has occurred *is* concatenation of emissions. -/
theorem emit_andThen (b : Buffer) (e next : Emission) :
    (b.emit e).andThen (fun b' => b'.emit next) = b.emit (e.andThen next) := by
  obtain ⟨ps, fault⟩ := e
  cases fault with
  | none => simp [emit, Progress.andThen]
  | some f => rfl

/-- The same for a computation known only to write an emission. -/
theorem andThen_emit {b : Buffer} {e next : Emission} {run : Buffer → Progress}
    (h : ∀ b', run b' = b'.emit next) : (b.emit e).andThen run = b.emit (e.andThen next) := by
  rw [← emit_andThen]
  exact congrArg (Progress.andThen (b.emit e)) (funext h)

theorem emit_copy (b : Buffer) (s : String) : b.emit (.copy s) = ⟨b.appendString s, none⟩ := rfl

/-- A literal run of bytes is copied as the characters it encodes. -/
theorem append_utf8 (b : Buffer) (cs : List Char) :
    b.append (utf8 cs).toByteArray = b.appendString (String.ofList cs) := by
  rw [toByteArray_utf8]
  rfl

/-- Text copied in front of what follows. -/
theorem emit_copy_andThen (b : Buffer) (s : String) (next : Emission) :
    b.emit ((Emission.copy s).andThen next) = (b.appendString s).emit next := rfl

mutual

/-- **Writing a node appends its emission**, whatever the buffer holds. -/
theorem writeNode_eq : ∀ (n : Node) (b : Buffer), writeNode n b = b.emit n.emission
  | ⟨_, calls⟩, b => by
      rw [writeNode, Node.emission]
      exact writeCalls_eq calls b

theorem writeCalls_eq : ∀ (cs : List Call) (b : Buffer),
    writeCalls cs b = b.emit (Call.emissions cs)
  | [], b => by rw [writeCalls, Call.emissions]; rfl
  | c :: rest, b => by
      rw [writeCalls, Call.emissions, writeCall_eq c b]
      exact andThen_emit (writeCalls_eq rest)

theorem writeCall_eq : ∀ (c : Call) (b : Buffer), writeCall c b = b.emit c.emission
  | ⟨template, args⟩, b => by
      rw [writeCall, Call.emission]
      exact fill_eq args 0 (.start template) _

/-- **Filling from byte `i` on fills the slots of the characters from there on.** -/
theorem fill_eq : ∀ (args : List Arg) (index : Nat) {template : String} {i : Nat} {cs : List Char},
    StandsAt template i cs → ∀ b : Buffer, fill template args index i b
      = b.emit (Arg.filled args index (Slots.cut i cs).slots (Slots.cut i cs).tail)
  | [], index, template, i, cs, h, b => by
      have hscan := h.scanned
      generalize Slots.cut i cs = s at hscan
      rw [fill.eq_def]
      dsimp only
      cases hscan with
      | finish run hrun hlandmark =>
        rw [hrun, hlandmark, append_utf8, Arg.filled, emit_copy]
      | fault slot slots tail hrun _ _ hfault hlandmark =>
        rw [hrun, hlandmark, append_utf8, Arg.filled, emit_copy_andThen, hfault]
        rfl
      | marker slot d cs hrun _ hmarker hdirective hlandmark _ =>
        rw [hrun, hlandmark, append_utf8, Arg.filled, emit_copy_andThen]
        simp only [Slot.fault, hmarker, hdirective]
        rfl
  | arg :: args, index, template, i, cs, h, b => by
      have hscan := h.scanned
      generalize Slots.cut i cs = s at hscan
      rw [fill.eq_def]
      dsimp only
      cases hscan with
      | finish run hrun hlandmark =>
        rw [hrun, hlandmark, append_utf8, Arg.filled, emit_copy]
      | fault slot slots tail hrun _ hmarker hfault hlandmark =>
        rw [hrun, hlandmark, append_utf8, Arg.filled, emit_copy_andThen, hmarker, hfault]
        rfl
      | marker slot d cs hrun _ hmarker hdirective hlandmark hnext =>
        rw [hrun, hlandmark, append_utf8, Arg.filled, emit_copy_andThen, hmarker, Option.bind_some,
          hdirective]
        change (dispatch arg d _).andThen _ = _
        rw [dispatch_eq arg d]
        exact andThen_emit (fill_eq args (index + 1) hnext)

theorem dispatch_eq : ∀ (arg : Arg) (d : Directive) (b : Buffer),
    dispatch arg d b = b.emit (arg.emission d)
  | .byte _, d, b => by cases d <;> rfl
  | .char _, d, b => by cases d <;> rfl
  | .bytes _, d, b => by cases d <;> rfl
  | .str _, d, b => by cases d <;> rfl
  | .node n, d, b => by
      cases d with
      | subNode =>
        rw [dispatch, Arg.emission]
        exact writeNode_eq n b
      | charLiteral => rfl
      | rawText => rfl
      | trackedLiteral => rfl

end

/-- **A template emits what its arguments make of it**, whatever is in the buffer. -/
theorem interpret_eq (b : Buffer) (template : String) (args : List Arg) :
    b.interpret template args = b.emit (Call.emission ⟨template, args⟩) := writeCall_eq _ b

/-- A node is written through a template that is its place alone. -/
theorem write_eq (b : Buffer) (n : Node) :
    b.write n = b.emit (Call.emission ⟨"%v", [.node n]⟩) := interpret_eq b _ _

theorem writeSeparated_eq (b : Buffer) (nodes : List Node) (sep : String) :
    b.writeSeparated nodes sep = b.emit (Call.emissions (Node.separated sep nodes)) :=
  writeCalls_eq _ b

end Buffer

end SqlRender
