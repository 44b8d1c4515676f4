import SqlRender.Proofs.Emission

/-!
# Proofs/Template — what a template means

The meaning of a template is said on its characters and without the scan:

* `CutsInto` — the characters fall into literal runs and markers, a marker being a percent sign with
  the character behind it;
* `reference` — runs are copied, and the `k`-th marker is answered from the `k`-th argument, from
  left to right up to the first fault. What a child writes is left to a parameter, the filling of
  its own templates.

Trees of nodes are finite, so filling is the *only* function that is its own `reference`
(`Filling.OwnReference.eq_interpret`); `interpret_implements_templates` says that it is one.
-/

namespace SqlRender

/-! ## Templates as runs and markers -/

/-- The characters `cs`, the first of which is byte `pos` of a template, fall into these slots. -/
inductive CutsInto : Nat → List Char → Slots → Prop
  | run {pos : Nat} (run : List Char) (hrun : '%' ∉ run) : CutsInto pos run ⟨[], run⟩
  | dangling {pos : Nat} (run : List Char) (hrun : '%' ∉ run) :
      CutsInto pos (run ++ ['%']) ⟨[⟨run, pos + (utf8 run).length, none⟩], []⟩
  | marker {pos : Nat} (run : List Char) (m : Char) {cs : List Char} {slots : List Slot}
      {tail : List Char} (hrun : '%' ∉ run)
      (hrest : CutsInto (pos + (utf8 run).length + 1 + m.utf8Size) cs ⟨slots, tail⟩) :
      CutsInto pos (run ++ '%' :: m :: cs)
        ⟨⟨run, pos + (utf8 run).length, some m⟩ :: slots, tail⟩

/-- A literal character in front of everything. -/
theorem CutsInto.cons {c : Char} (hc : c ≠ '%') {pos : Nat} {cs : List Char} {s : Slots}
    (h : CutsInto (pos + c.utf8Size) cs s) : CutsInto pos (c :: cs) (s.cons c) := by
  have hpos : ∀ run : List Char,
      pos + c.utf8Size + (utf8 run).length = pos + (utf8 (c :: run)).length := fun run => by
    rw [utf8_cons, List.length_append, String.length_utf8EncodeChar, Nat.add_assoc]
  have hmem : ∀ {run : List Char}, '%' ∉ run → '%' ∉ c :: run := fun hrun =>
    List.not_mem_cons_of_ne_of_not_mem hc.symm hrun
  cases h with
  | run run hrun => exact .run _ (hmem hrun)
  | dangling run hrun =>
    rw [hpos]
    exact .dangling _ (hmem hrun)
  | marker run m hrun hrest =>
    rw [hpos] at hrest ⊢
    exact .marker _ m (hmem hrun) hrest

/-- **The slots of a template are its runs and markers.** -/
theorem Slots.cutsInto (pos : Nat) (cs : List Char) : CutsInto pos cs (Slots.cut pos cs) := by
  induction pos, cs using Slots.cut.induct with
  | case1 pos => exact .run [] (by simp)
  | case2 pos => exact .dangling [] (by simp)
  | case3 pos m rest ih => exact .marker [] m (by simp) ih
  | case4 pos c rest hdangling hmarker ih =>
    have hc : c ≠ '%' := by
      rintro rfl
      cases rest with
      | nil => exact hdangling rfl rfl
      | cons m rest => exact hmarker m rest rfl rfl
    rw [Slots.cut_cons hc]
    exact ih.cons hc

/-! ## The reference -/

/-- The template of a call. -/
def Call.template : Call → String
  | ⟨template, _⟩ => template

/-- The arguments of a call. -/
def Call.args : Call → List Arg
  | ⟨_, args⟩ => args

/-- A way to fill templates. -/
abbrev Filling := Buffer → String → List Arg → Progress

/-- Fill the templates of calls in order, up to the first fault. -/
def Filling.writeCalls (f : Filling) : List Call → Buffer → Progress
  | [], b => ⟨b, none⟩
  | c :: calls, b => (f b c.template c.args).andThen (f.writeCalls calls)

/-- The kinds of argument that a marker accepts. -/
def Directive.accepts : Directive → Arg → Bool
  | .charLiteral, .byte _ | .charLiteral, .char _ => true
  | .rawText, .bytes _ | .rawText, .str _ => true
  | .subNode, .node _ => true
  | .trackedLiteral, .str _ => true
  | _, _ => false

/-- Append an argument that its marker accepts. -/
def Filling.supply (f : Filling) (d : Directive) : Arg → Buffer → Progress
  | .byte v, b => ⟨b.append ⟨#[v]⟩, none⟩
  | .char c, b => ⟨b.append c.toString.toUTF8, none⟩
  | .bytes bs, b => ⟨b.append bs, none⟩
  | .str s, b => ⟨if d = .trackedLiteral then b.appendTracked s else b.append s.toUTF8, none⟩
  | .node n, b => f.writeCalls n.calls b

/-- Answer the `k`-th marker: first its character counts, then whether there is an argument, then
the kind of the argument. -/
def Filling.answer (f : Filling) (args : List Arg) (k : Nat) (slot : Slot) (b : Buffer) :
    Progress :=
  match slot.marker with
  | none => b.stop (.dangling slot.offset)
  | some m =>
    match Directive.ofMarker? m with
    | none => b.stop (.unsupported m slot.offset)
    | some d =>
      match args[k]? with
      | none => b.stop (.missing k d)
      | some arg => if d.accepts arg then f.supply d arg b else b.stop (.mismatch d arg.type)

/-- Copy runs and answer markers from left to right, the next marker being number `k`. -/
def Filling.follow (f : Filling) (args : List Arg) (tail : List Char) :
    Nat → List Slot → Buffer → Progress
  | _, [], b => ⟨b.appendString (String.ofList tail), none⟩
  | k, slot :: slots, b =>
    (f.answer args k slot (b.appendString (String.ofList slot.before))).andThen
      (f.follow args tail (k + 1) slots)

/-- The meaning of a template whose children are written by `f`. -/
def reference (f : Filling) : Filling := fun b template args =>
  let cut := Slots.ofTemplate template
  f.follow args cut.tail 0 cut.slots (b.note (.interpret template args.length))

/-! ## What the reference appends -/

/-- The character behind the percent sign of a marker, and what the marker asks for. -/
theorem Directive.ofMarker?_eq_some_iff {m : Char} {d : Directive} :
    Directive.ofMarker? m = some d ↔ (m, d) ∈ [('c', .charLiteral), ('s', .rawText),
      ('v', .subNode), ('a', .trackedLiteral)] := by
  constructor
  · intro h
    have hmarker : d.marker = m :=
      eq_of_beq (@List.find?_some _ (fun d : Directive => d.marker == m) _ _ h)
    rw [← hmarker]
    cases d <;> decide
  · simp only [List.mem_cons, Prod.mk.injEq, List.not_mem_nil, or_false]
    rintro (⟨rfl, rfl⟩ | ⟨rfl, rfl⟩ | ⟨rfl, rfl⟩ | ⟨rfl, rfl⟩) <;> rfl

/-- The bytes of an argument that is no node. -/
def Arg.spelled? : Arg → Option (List UInt8)
  | .byte v => some [v]
  | .char c => some (utf8 [c])
  | .bytes bs => some bs.data.toList
  | .str s => some (utf8 s.toList)
  | .node _ => none

/-- Writing went through and put `bs` behind the text of `b`. If they are a tracked literal their
span is recorded while tracking is on, and no other span is. -/
structure Appends (b : Buffer) (bs : List UInt8) (literal : Bool) (p : Progress) : Prop where
  fault : p.fault = none
  bytes : p.buffer.bytes.data.toList = b.bytes.data.toList ++ bs
  tracked : p.buffer.tracked
    = if literal then b.tracked.map (·.push ⟨b.size, bs.length⟩) else b.tracked

/-- Raw bytes are appended and leave no span. -/
theorem appends_append (b : Buffer) (bs : ByteArray) :
    Appends b bs.data.toList false ⟨b.append bs, none⟩ := by
  refine ⟨rfl, ?_, rfl⟩
  rw [Buffer.append, ByteArray.data_append, Array.toList_append]

/-- A string is appended as its bytes and leaves no span. -/
theorem appends_appendString (b : Buffer) (s : String) :
    Appends b (utf8 s.toList) false ⟨b.appendString s, none⟩ := by
  rw [← toUTF8_eq_utf8]
  exact appends_append b s.toUTF8

/-- A tracked string is appended as its bytes and leaves its span, if spans are recorded. -/
theorem appends_appendTracked (b : Buffer) (s : String) :
    Appends b (utf8 s.toList) true ⟨b.appendTracked s, none⟩ := by
  have hbytes := (appends_appendString b s).bytes
  obtain ⟨bytes, tracked, journal⟩ := b
  cases tracked with
  | none => exact ⟨rfl, hbytes, rfl⟩
  | some spans =>
    refine ⟨rfl, hbytes, ?_⟩
    rw [if_pos rfl, ← utf8ByteSize_eq]
    rfl

/-- **An accepted argument is appended as it is spelled.** -/
theorem Filling.appends_supply (f : Filling) {d : Directive} {arg : Arg} {bs : List UInt8}
    (haccepts : d.accepts arg = true) (hspelled : arg.spelled? = some bs) (b : Buffer) :
    Appends b bs (d = .trackedLiteral) (f.supply d arg b) := by
  cases arg with
  | node n => cases hspelled
  | byte v =>
    obtain rfl := Option.some.inj hspelled
    cases d with
    | charLiteral => exact appends_append b ⟨#[v]⟩
    | rawText | subNode | trackedLiteral => cases haccepts
  | char c =>
    obtain rfl := Option.some.inj hspelled
    cases d with
    | charLiteral =>
      have hchar : c.toString.toList = [c] := String.toList_singleton c
      exact hchar ▸ appends_appendString b c.toString
    | rawText | subNode | trackedLiteral => cases haccepts
  | bytes bytes =>
    obtain rfl := Option.some.inj hspelled
    cases d with
    | rawText => exact appends_append b bytes
    | charLiteral | subNode | trackedLiteral => cases haccepts
  | str s =>
    obtain rfl := Option.some.inj hspelled
    cases d with
    | rawText => exact appends_appendString b s
    | trackedLiteral => exact appends_appendTracked b s
    | charLiteral | subNode => cases haccepts

/-! ## Filling is its own reference -/

namespace Filling

variable (f : Filling) {args : List Arg} {k : Nat} {slot : Slot} (b : Buffer)

/-- Without an argument a marker faults, whatever it is. -/
theorem answer_of_missing (h : args[k]? = none) :
    f.answer args k slot b = b.stop (slot.fault k) := by
  rw [answer, Slot.fault, h]
  cases slot.marker with
  | none => rfl
  | some m =>
    dsimp only
    cases Directive.ofMarker? m <;> rfl

/-- What is no marker faults, whatever the arguments are. -/
theorem answer_of_unmarked (h : slot.marker.bind Directive.ofMarker? = none) :
    f.answer args k slot b = b.stop (slot.fault k) := by
  rw [answer, Slot.fault]
  cases hmarker : slot.marker with
  | none => rfl
  | some m =>
    rw [hmarker, Option.bind_some] at h
    simp only [h]

/-- A marker takes its argument or stops with a mismatch. -/
theorem answer_of_some {d : Directive} {arg : Arg}
    (h : slot.marker.bind Directive.ofMarker? = some d) (hget : args[k]? = some arg) :
    f.answer args k slot b
      = if d.accepts arg then f.supply d arg b else b.stop (.mismatch d arg.type) := by
  obtain ⟨m, hmarker, hdirective⟩ := Option.bind_eq_some_iff.mp h
  rw [answer, hmarker]
  simp only [hdirective, hget]

end Filling

namespace Buffer

/-- The calls of a node are filled one after the other. -/
theorem writeCalls_eq_filling : ∀ (calls : List Call) (b : Buffer),
    writeCalls calls b = Filling.writeCalls interpret calls b
  | [], b => by rw [writeCalls]; rfl
  | ⟨template, args⟩ :: calls, b => by
      rw [writeCalls, funext (writeCalls_eq_filling calls)]
      rfl

/-- An argument is appended if its marker accepts it. -/
theorem dispatch_eq_supply (arg : Arg) (d : Directive) (b : Buffer) :
    dispatch arg d b
      = if d.accepts arg then Filling.supply interpret d arg b
        else b.stop (.mismatch d arg.type) := by
  cases arg with
  | node n =>
    obtain ⟨type, calls⟩ := n
    cases d with
    | subNode =>
      rw [dispatch, writeNode]
      exact writeCalls_eq_filling calls b
    | charLiteral => rfl
    | rawText => rfl
    | trackedLiteral => rfl
  | byte v => cases d <;> rfl
  | char c => cases d <;> rfl
  | bytes bs => cases d <;> rfl
  | str s => cases d <;> rfl

/-- The slots filled from position `k` on, beside the reference at that position. -/
theorem emit_filled (args : List Arg) (tail : List Char) : ∀ (slots : List Slot) (k : Nat)
    (b : Buffer), b.emit (Arg.filled (args.drop k) k slots tail)
      = Filling.follow interpret args tail k slots b
  | [], k, b => by
      cases args.drop k with
      | nil => rw [Arg.filled]; rfl
      | cons arg rest => rw [Arg.filled]; rfl
  | slot :: slots, k, b => by
      rw [Filling.follow]
      cases hdrop : args.drop k with
      | nil =>
        have hget : args[k]? = none := by rw [← List.head?_drop, hdrop]; rfl
        rw [Arg.filled, emit_copy_andThen, Filling.answer_of_missing _ _ hget]
        rfl
      | cons arg rest =>
        have hget : args[k]? = some arg := by rw [← List.head?_drop, hdrop]; rfl
        have hrest : args.drop (k + 1) = rest := by rw [← List.tail_drop, hdrop]; rfl
        rw [Arg.filled, emit_copy_andThen]
        cases hmarker : slot.marker.bind Directive.ofMarker? with
        | none =>
          rw [Filling.answer_of_unmarked _ _ hmarker]
          rfl
        | some d =>
          rw [Filling.answer_of_some _ _ hmarker hget, ← dispatch_eq_supply, dispatch_eq]
          refine (andThen_emit fun b' => ?_).symm
          rw [← hrest, emit_filled args tail slots (k + 1) b']

/-- **Filling is its own reference.** -/
theorem interpret_eq_reference (b : Buffer) (template : String) (args : List Arg) :
    b.interpret template args = reference interpret b template args := by
  rw [interpret_eq, Call.emission]
  exact emit_filled args _ _ 0 _

end Buffer

/-! ## …and nothing else is

The reference asks its parameter only for the templates of nodes among the arguments, which are
smaller trees. -/

section Congruence

variable {f g : Filling} {args : List Arg}

/-- Two fillings answer a marker alike if they fill the nodes among the arguments alike. -/
theorem Filling.answer_congr
    (h : ∀ n, Arg.node n ∈ args → ∀ b, f.writeCalls n.calls b = g.writeCalls n.calls b)
    (k : Nat) (slot : Slot) (b : Buffer) : f.answer args k slot b = g.answer args k slot b := by
  cases hget : args[k]? with
  | none => rw [f.answer_of_missing b hget, g.answer_of_missing b hget]
  | some arg =>
    cases hmarker : slot.marker.bind Directive.ofMarker? with
    | none => rw [f.answer_of_unmarked b hmarker, g.answer_of_unmarked b hmarker]
    | some d =>
      have hsupply : f.supply d arg b = g.supply d arg b := by
        cases arg with
        | node n => exact h n (List.mem_of_getElem? hget) b
        | byte v => rfl
        | char c => rfl
        | bytes bs => rfl
        | str s => rfl
      rw [f.answer_of_some b hmarker hget, g.answer_of_some b hmarker hget, hsupply]

/-- So they follow the whole template alike. -/
theorem Filling.follow_congr
    (h : ∀ n, Arg.node n ∈ args → ∀ b, f.writeCalls n.calls b = g.writeCalls n.calls b)
    (tail : List Char) : ∀ (slots : List Slot) (k : Nat) (b : Buffer),
    f.follow args tail k slots b = g.follow args tail k slots b
  | [], _, _ => rfl
  | slot :: slots, k, b => by
      rw [follow, follow, answer_congr h, funext (follow_congr h tail slots (k + 1))]

end Congruence

/-- The filling is its own reference. -/
def Filling.OwnReference (f : Filling) : Prop :=
  ∀ b template args, f b template args = reference f b template args

namespace Filling.OwnReference

variable {f : Filling}

mutual

/-- A filling that is its own reference fills as the program does. The recursion is the one of
nodes. -/
theorem writeCalls_eq (hf : f.OwnReference) : ∀ (calls : List Call) (b : Buffer),
    f.writeCalls calls b = Filling.writeCalls Buffer.interpret calls b
  | [], _ => rfl
  | c :: calls, b => by
      rw [writeCalls, writeCalls, hf.call_eq c b, funext (hf.writeCalls_eq calls)]

theorem call_eq (hf : f.OwnReference) : ∀ (c : Call) (b : Buffer),
    f b c.template c.args = b.interpret c.template c.args
  | ⟨template, args⟩, b => by
      rw [hf, Buffer.interpret_eq_reference]
      exact follow_congr (hf.args_eq args) _ _ _ _

theorem args_eq (hf : f.OwnReference) : ∀ (args : List Arg) (n : Node), Arg.node n ∈ args →
    ∀ b, f.writeCalls n.calls b = Filling.writeCalls Buffer.interpret n.calls b
  | [], _, h, _ => absurd h (by simp)
  | arg :: args, n, h, b => by
      rcases List.mem_cons.mp h with h | h
      · exact hf.arg_eq arg n h.symm b
      · exact hf.args_eq args n h b

theorem arg_eq (hf : f.OwnReference) : ∀ (arg : Arg) (n : Node), arg = .node n →
    ∀ b, f.writeCalls n.calls b = Filling.writeCalls Buffer.interpret n.calls b
  | .node ⟨_, calls⟩, n, h, b => by
      obtain rfl := Arg.node.inj h
      exact hf.writeCalls_eq calls b

end

/-- **Filling is the only function that is its own reference.** -/
theorem eq_interpret (hf : f.OwnReference) : f = Buffer.interpret :=
  funext fun b => funext fun template => funext fun args => hf.call_eq ⟨template, args⟩ b

end Filling.OwnReference

/-! ## Arguments without a marker -/

/-- Arguments behind the last marker are never looked at. -/
theorem Arg.filled_take : ∀ (slots : List Slot) (args : List Arg) (index : Nat) (tail : List Char),
    Arg.filled (args.take slots.length) index slots tail = Arg.filled args index slots tail
  | [], [], _, _ => rfl
  | [], _ :: _, _, _ => by rw [List.length_nil, List.take_zero, Arg.filled, Arg.filled]
  | _ :: _, [], _, _ => by rw [List.take_nil]
  | slot :: slots, arg :: args, index, tail => by
      rw [List.length_cons, List.take_succ_cons, Arg.filled, Arg.filled, filled_take slots args]

namespace Buffer

/-- What a buffer holds, apart from its journal. -/
def contents (b : Buffer) : ByteArray × Option (Array Span) := (b.bytes, b.tracked)

theorem contents_put {b b' : Buffer} (h : b.contents = b'.contents) (p : Piece) :
    (b.put p).contents = (b'.put p).contents := by
  obtain ⟨bytes, tracked, journal⟩ := b
  obtain ⟨bytes', tracked', journal'⟩ := b'
  obtain ⟨rfl, rfl⟩ := Prod.mk.inj h
  cases p with
  | note template args => rfl
  | raw bs => rfl
  | tracked s => cases tracked <;> rfl

/-- Equal contents stay equal under the same pieces, whatever the journals say. -/
theorem contents_putAll {b b' : Buffer} (h : b.contents = b'.contents) (ps : List Piece) :
    (b.putAll ps).contents = (b'.putAll ps).contents := by
  induction ps generalizing b b' with
  | nil => exact h
  | cons p ps ih => exact ih (contents_put h p)

end Buffer

/-! ## No slice inside a character -/

/-- The emission does not stop at a slice inside a character. -/
def Emission.Untorn (e : Emission) : Prop := ∀ offset, e.fault ≠ some (.torn offset)

theorem Emission.Untorn.andThen {e next : Emission} (he : e.Untorn) (hnext : next.Untorn) :
    (e.andThen next).Untorn := by
  obtain ⟨ps, fault⟩ := e
  cases fault with
  | none => exact hnext
  | some _ => exact he

/-- No slot of a template is torn: it was cut at characters. -/
theorem Slot.fault_ne_torn (slot : Slot) (index offset : Nat) :
    slot.fault index ≠ .torn offset := by
  rw [Slot.fault]
  split
  · simp
  · split <;> simp

mutual

/-- **So no template is ever torn**, at any depth. -/
theorem Node.untorn : ∀ n : Node, n.emission.Untorn
  | ⟨_, calls⟩ => by
      rw [Node.emission]
      exact Call.all_untorn calls

theorem Call.all_untorn : ∀ calls : List Call, (Call.emissions calls).Untorn
  | [] => by simp [Call.emissions, Emission.Untorn]
  | c :: calls => by
      rw [Call.emissions]
      exact (Call.untorn c).andThen (Call.all_untorn calls)

theorem Call.untorn : ∀ c : Call, c.emission.Untorn
  | ⟨_, args⟩ => by
      rw [Call.emission]
      exact Arg.filled_untorn args _ _ _

theorem Arg.filled_untorn : ∀ (args : List Arg) (index : Nat) (slots : List Slot)
    (tail : List Char), (Arg.filled args index slots tail).Untorn
  | [], _, [], _ => by simp [Arg.filled, Emission.copy, Emission.Untorn]
  | [], index, slot :: _, _ => by
      rw [Arg.filled]
      exact fun offset h => slot.fault_ne_torn index offset (Option.some.inj h)
  | _ :: _, _, [], _ => by simp [Arg.filled, Emission.copy, Emission.Untorn]
  | arg :: args, index, slot :: slots, tail => by
      rw [Arg.filled]
      cases slot.marker.bind Directive.ofMarker? with
      | none => exact fun offset h => slot.fault_ne_torn index offset (Option.some.inj h)
      | some d => exact (Arg.untorn arg d).andThen (Arg.filled_untorn args _ slots tail)

theorem Arg.untorn : ∀ (arg : Arg) (d : Directive), (arg.emission d).Untorn
  | .byte _, d => by cases d <;> simp [Arg.emission, Emission.Untorn]
  | .char _, d => by cases d <;> simp [Arg.emission, Emission.copy, Emission.Untorn]
  | .bytes _, d => by cases d <;> simp [Arg.emission, Emission.Untorn]
  | .str _, d => by cases d <;> simp [Arg.emission, Emission.copy, Emission.Untorn]
  | .node n, d => by
      cases d with
      | subNode =>
        rw [Arg.emission]
        exact Node.untorn n
      | charLiteral => simp [Arg.emission, Emission.Untorn]
      | rawText => simp [Arg.emission, Emission.Untorn]
      | trackedLiteral => simp [Arg.emission, Emission.Untorn]

end

/-! ## The template language -/

/-- **The scan of bytes implements the template language.** The slots of a template are its literal
runs and markers, with the byte positions of the percent signs. Filling copies the runs and answers
the markers from left to right, up to the first fault, and is the only function that does so at
every depth of the tree of nodes. Only as many arguments count as there are markers, and no marker
is ever looked for inside a character. There are four markers; a run is appended as it stands, and
an argument that its marker accepts as it is spelled. -/
theorem interpret_implements_templates (b : Buffer) (template : String) (args : List Arg) :
    let cut := Slots.ofTemplate template
    let p := b.interpret template args
    let q := b.interpret template (args.take cut.slots.length)
    CutsInto 0 template.toList cut ∧
    p = reference Buffer.interpret b template args ∧
    (∀ f : Filling, (∀ b template args, f b template args = reference f b template args) →
      f = Buffer.interpret) ∧
    q.fault = p.fault ∧ q.buffer.contents = p.buffer.contents ∧
    (∀ offset, p.fault ≠ some (.torn offset)) ∧
    (∀ m d, Directive.ofMarker? m = some d ↔ (m, d) ∈ [('c', .charLiteral), ('s', .rawText),
      ('v', .subNode), ('a', .trackedLiteral)]) ∧
    (∀ run, Appends b (utf8 run) false ⟨b.appendString (String.ofList run), none⟩) ∧
    (∀ d arg bs, d.accepts arg = true → arg.spelled? = some bs →
      Appends b bs (d = .trackedLiteral) (Filling.supply Buffer.interpret d arg b)) := by
  intro cut p q
  have hfilled := Arg.filled_take cut.slots args 0 cut.tail
  have hnote : ∀ m n : Nat,
      (b.put (.note template m)).contents = (b.put (.note template n)).contents := fun _ _ => rfl
  have hp : p = b.emit (Call.emission ⟨template, args⟩) := Buffer.interpret_eq b template args
  have hq : q = b.emit (Call.emission ⟨template, args.take cut.slots.length⟩) :=
    Buffer.interpret_eq b template _
  refine ⟨Slots.cutsInto 0 template.toList, Buffer.interpret_eq_reference b template args,
    fun f hf => Filling.OwnReference.eq_interpret hf, ?_, ?_, ?_,
    fun _ _ => Directive.ofMarker?_eq_some_iff, fun run => ?_,
    fun _ _ _ haccepts hspelled => Filling.appends_supply _ haccepts hspelled b⟩
  · rw [hp, hq, Call.emission, Call.emission]
    change (Arg.filled _ 0 cut.slots cut.tail).fault = _
    rw [hfilled]
    rfl
  · rw [hp, hq, Call.emission, Call.emission]
    change (Buffer.putAll (b.put (.note template _))
      (Arg.filled _ 0 cut.slots cut.tail).pieces).contents = _
    rw [hfilled]
    exact Buffer.contents_putAll (hnote _ args.length) _
  · rw [hp]
    exact Call.untorn ⟨template, args⟩
  · have happends := appends_appendString b (String.ofList run)
    rwa [String.toList_ofList] at happends

end SqlRender
