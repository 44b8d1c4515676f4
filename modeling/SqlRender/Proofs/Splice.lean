import Mathlib.Algebra.GroupWithZero.Nat
import SqlRender.Proofs.Leaves

/-!
# Proofs/Splice — replacing literals in a tree is splicing its text

A text with recorded spans falls into the spans and the pieces `outside` them. Putting other leaves
into a tree leaves every outside piece as it is (`outside_eq_gaps`, `gapsFrom_relabel`), so the text
of the new tree is the outside pieces woven with the new literals. That is what a pass that
parameterizes queries does to the text alone, without the tree.
-/

namespace SqlRender

open Glyph Lexeme

/-! ## Cutting and weaving bytes -/

/-- The pieces of `bytes` in front of, between and behind the spans, from byte `pos` on. -/
def outside (bytes : ByteArray) : Nat → List Span → List ByteArray
  | pos, [] => [bytes.extract pos bytes.size]
  | pos, s :: spans => bytes.extract pos s.offset :: outside bytes (s.offset + s.len) spans

/-- Pieces with texts between them. -/
def weave : List ByteArray → List String → ByteArray
  | [], _ => .empty
  | piece :: _, [] => piece
  | piece :: pieces, t :: ts => piece ++ t.toUTF8 ++ weave pieces ts

/-- The text with each span cut out and a text put in its place. -/
def splice (bytes : ByteArray) (spans : List Span) (texts : List String) : ByteArray :=
  weave (outside bytes 0 spans) texts

/-! ## Glyphs -/

namespace Glyph

/-- The plain texts in front of, between and behind the tracked literals; `acc` is the plain text
read so far. -/
def gapsFrom : String → List Glyph → List String
  | acc, [] => [acc]
  | acc, .char c :: gs => gapsFrom (acc.push c) gs
  | acc, .tracked _ :: gs => acc :: gapsFrom "" gs

/-- Relabelling leaves the text around the literals. -/
theorem gapsFrom_relabel (t : Nat → String) : ∀ (k : Nat) (acc : String) (gs : List Glyph),
    gapsFrom acc (relabel t k gs) = gapsFrom acc gs
  | _, _, [] => rfl
  | k, acc, .char c :: gs => gapsFrom_relabel t k (acc.push c) gs
  | k, acc, .tracked _ :: gs => congrArg (acc :: ·) (gapsFrom_relabel t (k + 1) "" gs)

/-- After relabelling the literals are the new ones, in order. -/
theorem literals_relabel (t : Nat → String) : ∀ (k : Nat) (gs : List Glyph),
    literals (relabel t k gs) = (List.range' k (literals gs).length).map t
  | _, [] => rfl
  | k, .char _ :: gs => literals_relabel t k gs
  | k, .tracked _ :: gs => congrArg (t k :: ·) (literals_relabel t (k + 1) gs)

/-- **A text is its gaps woven with its literals.** -/
theorem weave_gapsFrom : ∀ (acc : String) (gs : List Glyph),
    weave ((gapsFrom acc gs).map String.toUTF8) (literals gs) = (acc ++ text gs).toUTF8
  | acc, [] => by rw [text_nil, String.append_empty]; rfl
  | acc, .char c :: gs => by
      rw [gapsFrom, literals, weave_gapsFrom (acc.push c) gs, text_char, ← String.append_assoc,
        String.push_eq_append]
      rfl
  | acc, .tracked s :: gs => by
      rw [gapsFrom, literals, List.map_cons, weave, weave_gapsFrom "" gs, text_tracked,
        String.empty_append, ← String.append_assoc]
      rfl

/-- **The recorded spans cut a text at its literals**: what they leave outside are its gaps. -/
theorem outside_eq_gaps : ∀ (gs : List Glyph) (before : ByteArray) (acc : String),
    outside (before ++ (acc ++ text gs).toUTF8) before.size
        (spansFrom (before.size + acc.utf8ByteSize) gs)
      = (gapsFrom acc gs).map String.toUTF8
  | [], before, acc => by
      rw [text_nil, String.append_empty, spansFrom, outside,
        ByteArray.extract_append_eq_right rfl ByteArray.size_append]
      rfl
  | .char c :: gs, before, acc => by
      have ih := outside_eq_gaps gs before (acc.push c)
      rw [text_char, spansFrom, gapsFrom, ← ih, String.utf8ByteSize_push, Nat.add_assoc,
        ← String.append_assoc, String.push_eq_append]
      rfl
  | .tracked s :: gs, before, acc => by
      -- the text up to and including the literal is behind us for the rest of the glyphs
      have ih := outside_eq_gaps gs (before ++ (acc ++ s).toUTF8) ""
      have hsize : (before ++ (acc ++ s).toUTF8).size
          = before.size + acc.utf8ByteSize + s.utf8ByteSize := by
        rw [ByteArray.size_append, Nat.add_assoc, ← String.utf8ByteSize_append]
        rfl
      have hbytes : before ++ (acc ++ text (.tracked s :: gs)).toUTF8
          = before ++ (acc ++ s).toUTF8 ++ ("" ++ text gs).toUTF8 := by
        rw [text_tracked, String.empty_append, ByteArray.append_assoc, ← String.append_assoc]
        rfl
      have hgap : (before ++ (acc ++ text (.tracked s :: gs)).toUTF8).extract before.size
          (before.size + acc.utf8ByteSize) = acc.toUTF8 := by
        have hskip : (before ++ (acc ++ text (.tracked s :: gs)).toUTF8).extract (before.size + 0)
            (before.size + acc.utf8ByteSize)
              = (acc ++ text (.tracked s :: gs)).toUTF8.extract 0 acc.utf8ByteSize :=
          ByteArray.extract_append_size_add
        exact hskip.trans (ByteArray.extract_append_eq_left rfl)
      rw [String.utf8ByteSize_empty, Nat.add_zero, hsize] at ih
      rw [spansFrom, outside, gapsFrom, List.map_cons, hgap, ← ih, hbytes]

/-- A span moves by as much as the literals in front of it have grown. -/
theorem getElem_spansFrom_relabel (t : Nat → String) : ∀ (gs : List Glyph) (k pos pos' i : Nat)
    (hi : i < (spansFrom pos gs).length) (hi' : i < (spansFrom pos' (relabel t k gs)).length),
    (spansFrom pos' (relabel t k gs))[i].offset
          + (((spansFrom pos gs).take i).map Span.len).sum + pos
        = (spansFrom pos gs)[i].offset
          + ((List.range' k i).map fun j => (t j).utf8ByteSize).sum + pos' ∧
      (spansFrom pos' (relabel t k gs))[i].len = (t (k + i)).utf8ByteSize
  | [], _, _, _, _, hi, _ => absurd hi (by simp [spansFrom])
  | .char c :: gs, k, pos, pos', i, hi, hi' => by
      have ih := getElem_spansFrom_relabel t gs k (pos + c.utf8Size) (pos' + c.utf8Size) i hi hi'
      simp only [spansFrom, relabel] at ih ⊢
      omega
  | .tracked s :: gs, k, pos, pos', 0, hi, hi' => by
      simp [spansFrom, relabel, Nat.add_comm]
  | .tracked s :: gs, k, pos, pos', i + 1, hi, hi' => by
      have ih := getElem_spansFrom_relabel t gs (k + 1) (pos + s.utf8ByteSize)
        (pos' + (t k).utf8ByteSize) i (by simpa [spansFrom] using hi)
        (by simpa [spansFrom, relabel] using hi')
      simp only [spansFrom, relabel, List.getElem_cons_succ, List.take_succ_cons, List.map_cons,
        List.sum_cons, List.range'_succ] at ih ⊢
      rw [show k + (i + 1) = k + 1 + i by omega]
      omega

theorem length_spansFrom : ∀ (pos : Nat) (gs : List Glyph),
    (spansFrom pos gs).length = (literals gs).length
  | _, [] => rfl
  | pos, .char c :: gs => length_spansFrom (pos + c.utf8Size) gs
  | pos, .tracked s :: gs => congrArg (· + 1) (length_spansFrom (pos + s.utf8ByteSize) gs)

end Glyph

/-! ## Statements -/

/-- A leaf renders to its text. -/
theorem Leaf.text_node (l : Leaf) : l.expr.node.text = .ok l.sql := by
  have h := Node.text_eq l.expr.writes
  rwa [← text_layout, l.layout_lexemes, text_tracked, text_nil, String.append_empty] at h

theorem Statement.layout_relabel (r : Nat → Leaf) (s : Statement) :
    layout (s.relabel r).lexemes = Glyph.relabel (fun i => (r i).sql) 0 (layout s.lexemes) :=
  (s.relabels r 0).layout_eq

theorem Statement.length_spans (s : Statement) : s.spans.length = s.leaves.length :=
  (length_spansFrom 0 _).trans (s.relabels (fun _ => .bind ⟨""⟩) 0).count

/-- What lies outside the spans is the text around the literals. -/
theorem Statement.outside_spans (s : Statement) :
    outside s.sql.toUTF8 0 s.spans = (gapsFrom "" (layout s.lexemes)).map String.toUTF8 := by
  have h := outside_eq_gaps (layout s.lexemes) .empty ""
  rwa [text_layout, String.empty_append, ByteArray.empty_append] at h

theorem Statement.literals_relabel (r : Nat → Leaf) (s : Statement) :
    literals (layout (s.relabel r).lexemes)
      = (List.range s.leaves.length).map fun i => (r i).sql := by
  rw [s.layout_relabel r, Glyph.literals_relabel, (s.relabels r 0).count, List.range_eq_range']

theorem Statement.length_spans_relabel (r : Nat → Leaf) (s : Statement) :
    (s.relabel r).spans.length = s.leaves.length := by
  rw [Statement.spans, length_spansFrom, s.literals_relabel r, List.length_map, List.length_range]

/-- The bytes of a relabelled statement are spliced together from those of the statement. -/
theorem Statement.splice_spans (r : Nat → Leaf) (s : Statement) :
    splice s.sql.toUTF8 s.spans ((List.range s.leaves.length).map fun i => (r i).sql)
      = (s.relabel r).sql.toUTF8 := by
  rw [splice, s.outside_spans, ← s.literals_relabel r,
    ← gapsFrom_relabel (fun i => (r i).sql) 0 "" (layout s.lexemes), ← s.layout_relabel r,
    weave_gapsFrom, String.empty_append, text_layout]
  rfl

/-- **Outside the spans both texts agree.** -/
theorem Statement.outside_relabel (r : Nat → Leaf) (s : Statement) :
    outside (s.relabel r).sql.toUTF8 0 (s.relabel r).spans = outside s.sql.toUTF8 0 s.spans := by
  rw [outside_spans, outside_spans, s.layout_relabel r, gapsFrom_relabel]

/-- **A span is shifted by what the literals before it have grown.** -/
theorem Statement.getElem_spans_relabel (r : Nat → Leaf) (s : Statement) (k : Nat)
    (hk : k < s.spans.length) (hk' : k < (s.relabel r).spans.length) :
    (s.relabel r).spans[k].offset + ((s.spans.take k).map Span.len).sum
        = s.spans[k].offset + ((List.range k).map fun j => (r j).sql.utf8ByteSize).sum ∧
      (s.relabel r).spans[k].len = (r k).sql.utf8ByteSize := by
  have hlayout := s.layout_relabel r
  have hk'' :
      k < (spansFrom 0 (Glyph.relabel (fun i => (r i).sql) 0 (layout s.lexemes))).length := by
    rw [← hlayout]
    exact hk'
  have h := getElem_spansFrom_relabel (fun i => (r i).sql) (layout s.lexemes) 0 0 0 k hk hk''
  rw [Nat.zero_add] at h
  rw [List.range_eq_range']
  simp only [Statement.spans, hlayout]
  exact h

/-- **Splicing tracked spans commutes with rendering.** Put any leaves `r 0`, `r 1`, … in place of
the literals and bind variables of a statement, valid or not. Both statements render; the new text
is the old one with the recorded spans cut out and the texts of the new leaves put in; and the
recorded spans of the new statement have the lengths of those texts and start where the old ones
did, moved by how much the leaves in front of them have grown. The text outside the spans is the
same for both. -/
theorem splice_renders_relabeled (s : Statement) (r : Nat → Leaf) :
    let p := s.write true
    let q := (s.relabel r).write true
    p.fault = none ∧ q.fault = none ∧ (∀ k, (r k).expr.node.text = .ok (r k).sql) ∧
    p.buffer.spans.size = s.leaves.length ∧ q.buffer.spans.size = s.leaves.length ∧
    q.buffer.bytes = splice p.buffer.bytes p.buffer.spans.toList
      ((List.range s.leaves.length).map fun k => (r k).sql) ∧
    (∀ k (hp : k < p.buffer.spans.size) (hq : k < q.buffer.spans.size),
      (q.buffer.spans[k].offset : Int) = p.buffer.spans[k].offset
        + (((List.range k).map fun j => (r j).sql.utf8ByteSize).sum : Int)
        - ((p.buffer.spans.toList.take k).map Span.len).sum ∧
      q.buffer.spans[k].len = (r k).sql.utf8ByteSize) ∧
    outside q.buffer.bytes 0 q.buffer.spans.toList
      = outside p.buffer.bytes 0 p.buffer.spans.toList := by
  intro p q
  have hp : p.buffer.spans.toList = s.spans := s.write_spans
  have hq : q.buffer.spans.toList = (s.relabel r).spans := (s.relabel r).write_spans
  refine ⟨s.write_fault true, (s.relabel r).write_fault true, fun k => (r k).text_node, ?_, ?_, ?_,
    fun k hkp hkq => ?_, ?_⟩
  · rw [← Array.length_toList, hp, s.length_spans]
  · rw [← Array.length_toList, hq, s.length_spans_relabel r]
  · rw [hp, s.write_bytes, s.splice_spans r]
    exact (s.relabel r).write_bytes true
  · have h := s.getElem_spans_relabel r k (by rwa [← hp]) (by rwa [← hq])
    simp only [← hp, ← hq, Array.getElem_toList] at h
    refine ⟨?_, h.2⟩
    omega
  · rw [hp, hq, s.write_bytes, (s.relabel r).write_bytes, s.outside_relabel r]

end SqlRender
