import SqlRender.Proofs.Leaves
import SqlRender.Proofs.SpanRecord

/-!
# Proofs/Tracked — spans cover the literals of a tree and nothing else

The lexemes of a tree stand one behind the other in its text, each at a range of its own (`placed`).
A span is recorded at the range of every literal, and ranges do not overlap, so names, keywords,
operators and punctuation stay outside all spans. The literals among the lexemes are the leaves of
the tree, in writing order: this is proved once for each kind of tree, and `tracked_eq_leaves` says
it of all of them.
-/

namespace SqlRender

open Glyph Lexeme

/-! ## Lexemes at their ranges -/

namespace Lexeme

/-- The lexemes with their byte ranges, the first of which starts at `pos`. -/
def placed : Nat → List Lexeme → List (Lexeme × Span)
  | _, [] => []
  | pos, l :: ls => (l, ⟨pos, l.sql.utf8ByteSize⟩) :: placed (pos + l.sql.utf8ByteSize) ls

/-- One range ends before the other begins. -/
def Apart (r s : Span) : Prop := r.offset + r.len ≤ s.offset ∨ s.offset + s.len ≤ r.offset

/-- Nothing is placed before the start. -/
theorem le_offset_of_mem_placed : ∀ {pos : Nat} {ls : List Lexeme} {x : Lexeme × Span},
    x ∈ placed pos ls → pos ≤ x.2.offset
  | _, [], _, h => absurd h (by simp [placed])
  | pos, l :: ls, x, h => by
      rcases List.mem_cons.mp h with rfl | h
      · exact le_rfl
      · exact (Nat.le_add_right _ _).trans (le_offset_of_mem_placed h)

/-- A lexeme is placed over its own bytes. -/
theorem len_of_mem_placed : ∀ {pos : Nat} {ls : List Lexeme} {x : Lexeme × Span},
    x ∈ placed pos ls → x.2.len = x.1.sql.utf8ByteSize
  | _, [], _, h => absurd h (by simp [placed])
  | _, _ :: _, _, h => by
      rcases List.mem_cons.mp h with rfl | h
      · rfl
      · exact len_of_mem_placed h

/-- Nothing is placed behind the end. -/
theorem stop_le_of_mem_placed : ∀ {pos : Nat} {ls : List Lexeme} {x : Lexeme × Span},
    x ∈ placed pos ls →
      x.2.offset + x.2.len ≤ pos + (String.ofList (chars ls)).utf8ByteSize
  | _, [], _, h => absurd h (by simp [placed])
  | pos, l :: ls, x, h => by
      have hsize : (String.ofList (chars (l :: ls))).utf8ByteSize
          = l.sql.utf8ByteSize + (String.ofList (chars ls)).utf8ByteSize := by
        rw [chars_cons, String.ofList_append, String.ofList_toList, String.utf8ByteSize_append]
      rcases List.mem_cons.mp h with rfl | h
      · dsimp only
        omega
      · have := stop_le_of_mem_placed h
        omega

/-- Each lexeme stands behind those in front of it. -/
theorem sorted_placed : ∀ (pos : Nat) (ls : List Lexeme),
    (placed pos ls).Pairwise fun x y => x.2.offset + x.2.len ≤ y.2.offset
  | _, [] => .nil
  | _, _ :: ls => .cons (fun _ hx => le_offset_of_mem_placed hx) (sorted_placed _ ls)

/-- So different lexemes do not overlap. -/
theorem pairwise_placed (pos : Nat) (ls : List Lexeme) :
    (placed pos ls).Pairwise fun x y => Apart x.2 y.2 :=
  (sorted_placed pos ls).imp .inl

/-- Two lexemes never share a byte. -/
theorem apart_of_mem_placed {pos : Nat} {ls : List Lexeme} {x y : Lexeme × Span}
    (hx : x ∈ placed pos ls) (hy : y ∈ placed pos ls) (hne : x ≠ y) : Apart x.2 y.2 := by
  have hsymm : Std.Symm fun x y : Lexeme × Span => Apart x.2 y.2 := ⟨fun _ _ => Or.symm⟩
  exact (pairwise_placed pos ls).forall hx hy hne

/-- **Every range cuts its lexeme out of the text.** -/
theorem extract_placed : ∀ (ls : List Lexeme) (before : ByteArray) {x : Lexeme × Span},
    x ∈ placed before.size ls →
      (before ++ (String.ofList (chars ls)).toUTF8).extract x.2.offset (x.2.offset + x.2.len)
        = x.1.sql.toUTF8
  | [], _, _, h => absurd h (by simp [placed])
  | l :: ls, before, x, h => by
      have hsize : (before ++ l.sql.toUTF8).size = before.size + l.sql.utf8ByteSize :=
        ByteArray.size_append
      have hbytes : before ++ (String.ofList (chars (l :: ls))).toUTF8
          = before ++ l.sql.toUTF8 ++ (String.ofList (chars ls)).toUTF8 := by
        rw [chars_cons, String.ofList_append, String.ofList_toList, ByteArray.append_assoc]
        rfl
      rw [hbytes]
      rcases List.mem_cons.mp h with rfl | h
      · rw [Locates.extract_append_of_le _ hsize.ge]
        exact ByteArray.extract_append_eq_right rfl rfl
      · exact extract_placed ls (before ++ l.sql.toUTF8) (hsize ▸ h)

/-- A literal is one tracked glyph. -/
theorem glyphs_of_not_isPlain {l : Lexeme} (h : l.isPlain = false) :
    l.glyphs = [.tracked l.sql] := by
  cases l with
  | blank => exact absurd h (by decide)
  | token t =>
    have ht : t.isLiteral = true := by simpa [isPlain] using h
    rw [glyphs, ht]
    rfl

/-- **The recorded spans are the ranges of the literals.** -/
theorem spansFrom_layout : ∀ (pos : Nat) (ls : List Lexeme),
    spansFrom pos (layout ls)
      = ((placed pos ls).filter fun x => !x.1.isPlain).map Prod.snd
  | _, [] => rfl
  | pos, l :: ls => by
      have ih := spansFrom_layout (pos + l.sql.utf8ByteSize) ls
      have hlayout : layout (l :: ls) = l.glyphs ++ layout ls := rfl
      rw [hlayout, placed, spansFrom_append]
      cases hplain : l.isPlain with
      | true =>
        rw [glyphs_of_isPlain hplain, spansFrom_plain, text_plain, ih,
          List.filter_cons_of_neg (by simp [hplain]), List.nil_append]
      | false =>
        rw [glyphs_of_not_isPlain hplain, text_tracked, text_nil, String.append_empty, ih,
          List.filter_cons_of_pos (by simp [hplain])]
        rfl

/-- …and they cut out the texts of the literals. -/
theorem literals_layout : ∀ (pos : Nat) (ls : List Lexeme),
    literals (layout ls)
      = ((placed pos ls).filter fun x => !x.1.isPlain).map fun x => x.1.sql
  | _, [] => rfl
  | pos, l :: ls => by
      have ih := literals_layout (pos + l.sql.utf8ByteSize) ls
      have hlayout : layout (l :: ls) = l.glyphs ++ layout ls := rfl
      rw [hlayout, placed, literals_append, ih]
      cases hplain : l.isPlain with
      | true =>
        rw [glyphs_of_isPlain hplain, literals_plain,
          List.filter_cons_of_neg (by simp [hplain]), List.nil_append]
      | false =>
        rw [glyphs_of_not_isPlain hplain, List.filter_cons_of_pos (by simp [hplain])]
        rfl

end Lexeme

/-! ## Literals and leaves -/

/-- The literals among lexemes are these leaves. -/
def Carries (ls : List Lexeme) (leaves : List Leaf) : Prop :=
  literals (layout ls) = leaves.map Leaf.sql

namespace Carries

variable {ls ms : List Lexeme} {leaves leaves' : List Leaf}

/-- The leaves of neighbours are neighbours. -/
theorem append (h : Carries ls leaves) (h' : Carries ms leaves') :
    Carries (ls ++ ms) (leaves ++ leaves') := by
  rw [Carries, layout_append, literals_append, h, h', List.map_append]

/-- Plain lexemes carry no leaf. -/
theorem plain (hplain : ls.all isPlain = true) : Carries ls [] := by
  rw [Carries, layout_of_isPlain hplain, literals_plain]
  rfl

theorem append_plain (h : Carries ls leaves) (hplain : ms.all isPlain = true) :
    Carries (ls ++ ms) leaves := by
  have happend := h.append (plain hplain)
  rwa [List.append_nil] at happend

theorem plain_append (hplain : ls.all isPlain = true) (h : Carries ms leaves) :
    Carries (ls ++ ms) leaves := (plain hplain).append h

/-- A comma list carries the leaves of its items. -/
theorem commaList {α : Type} {lexemes : α → List Lexeme} {leaves : α → List Leaf} :
    ∀ as : List α, (∀ a ∈ as, Carries (lexemes a) (leaves a)) →
      Carries (commaList (as.map lexemes)) (as.flatMap leaves)
  | [], _ => plain rfl
  | [a], h => by
      rw [List.flatMap_singleton]
      exact h a (by simp)
  | a :: b :: rest, h => by
      have hcomma : [punct ',', .blank].all isPlain = true := rfl
      exact ((h a (by simp)).append_plain hcomma).append
        (commaList (b :: rest) fun x hx => h x (List.mem_cons_of_mem _ hx))

/-- Parentheses carry no leaf. -/
theorem operand (h : Carries ls leaves) (e : Expr) (least : Precedence) :
    Carries (operandLexemes e least ls) leaves := by
  rw [operandLexemes]
  split
  · exact (plain_append rfl h).append_plain rfl
  · exact h

theorem asName (h : Carries ls leaves) (asName : Option Ident) :
    Carries (ls ++ aliasLexemes asName) leaves := h.append_plain (by cases asName <;> rfl)

theorem listClause {keywords : List Lexeme} (hplain : keywords.all isPlain = true) {α : Type}
    {lexemes : α → List Lexeme} {leaves : α → List Leaf}
    (h : ∀ a, Carries (lexemes a) (leaves a)) (as : List α) :
    Carries (listClause keywords (as.map lexemes)) (as.flatMap leaves) := by
  cases as with
  | nil => exact plain rfl
  | cons a as => exact plain_append hplain (commaList (a :: as) fun a _ => h a)

end Carries

/-- A literal carries itself. -/
theorem Literal.carries (l : Literal) : Carries [.token l.token] [.literal l] := by
  cases l <;> rfl

theorem BindVar.carries (v : BindVar) : Carries [.token v.token] [.bind v] := rfl

/-- What an entry adds to its expression, for the induction over expressions. -/
theorem SelectItem.carries_of (i : SelectItem)
    (h : ∀ e asName, i = .expr e asName → Carries e.lexemes e.leaves) :
    Carries i.lexemes i.leaves := by
  cases i with
  | star =>
    rw [SelectItem.lexemes, SelectItem.leaves]
    exact .plain rfl
  | qualifiedStar table =>
    rw [SelectItem.lexemes, SelectItem.leaves]
    exact .plain rfl
  | expr e asName =>
    rw [SelectItem.lexemes, SelectItem.leaves]
    exact (h e asName rfl).asName asName

/-- **The literals in an expression are its leaves.** -/
theorem Expr.carries (e : Expr) : Carries e.lexemes e.leaves := by
  induction e using Expr.tree_induction with
  | column c =>
    rw [Expr.lexemes, Expr.leaves]
    exact .plain (isPlain_qualifiedLexemes c.qualifier c.name)
  | literal l =>
    rw [Expr.lexemes, Expr.leaves]
    exact l.carries
  | bind v =>
    rw [Expr.lexemes, Expr.leaves]
    exact v.carries
  | null =>
    rw [Expr.lexemes, Expr.leaves]
    exact .plain rfl
  | comparison left op right hleft hright =>
    have hop : ([Lexeme.blank] ++ op.lexemes ++ [Lexeme.blank]).all isPlain = true := by
      cases op <;> rfl
    rw [Expr.lexemes, Expr.leaves]
    exact ((hleft.operand left .atom).append_plain hop).append (hright.operand right .atom)
  | and left right hleft hright =>
    rw [Expr.lexemes, Expr.leaves]
    exact ((hleft.operand left .and).append_plain rfl).append (hright.operand right .and)
  | or left right hleft hright =>
    rw [Expr.lexemes, Expr.leaves]
    exact ((hleft.operand left .or).append_plain rfl).append (hright.operand right .or)
  | not e he =>
    rw [Expr.lexemes, Expr.leaves]
    exact .plain_append rfl (he.operand e .not)
  | paren e he =>
    rw [Expr.lexemes, Expr.leaves]
    exact (Carries.plain_append rfl he).append_plain rfl
  | func name distinct args hargs =>
    have hlist := Carries.commaList args fun i hi =>
      i.carries_of fun e asName h => hargs e asName (h ▸ hi)
    rw [Expr.lexemes, Expr.leaves, FuncCall.lexemes, SelectItem.lexemeLists_eq_map,
      SelectItem.listLeaves_eq]
    exact (Carries.plain_append (by cases distinct <;> rfl) hlist).append_plain rfl
  | isIn e negated list he hlist =>
    rw [Expr.lexemes, Expr.leaves, Expr.lexemeLists_eq_map, Expr.listLeaves_eq]
    exact (((he.operand e .atom).append_plain (by cases negated <;> rfl)).append
      (.commaList list hlist)).append_plain rfl
  | isNull e negated he =>
    rw [Expr.lexemes, Expr.leaves]
    exact (he.operand e .atom).append_plain (by cases negated <;> rfl)

theorem SelectItem.carries (i : SelectItem) : Carries i.lexemes i.leaves :=
  i.carries_of fun e _ _ => e.carries

/-- The leaves of the arguments of a call, in writing order. -/
def FuncCall.leaves : FuncCall → List Leaf
  | ⟨_, _, args⟩ => args.flatMap SelectItem.leaves

theorem FuncCall.carries (f : FuncCall) : Carries f.lexemes f.leaves := by
  obtain ⟨name, distinct, args⟩ := f
  have h := Expr.carries (.func ⟨name, distinct, args⟩)
  rwa [Expr.lexemes, Expr.leaves, SelectItem.listLeaves_eq] at h

theorem OrderItem.carries (o : OrderItem) : Carries o.lexemes o.expr.leaves := by
  refine o.expr.carries.append_plain ?_
  split <;> rfl

theorem Assignment.carries (a : Assignment) : Carries a.lexemes a.value.leaves := by
  refine .plain_append ?_ a.value.carries
  rw [List.all_append, ColumnName.lexemes, isPlain_qualifiedLexemes]
  rfl

theorem Row.carries (r : Row) : Carries r.lexemes r.leaves :=
  (Carries.plain_append rfl (.commaList r.values fun e _ => e.carries)).append_plain rfl

theorem carries_optionClause (keyword : String) (e : Option Expr) :
    Carries (optionClause keyword e) (optionLeaves e) := by
  cases e with
  | none => exact .plain rfl
  | some e => exact .plain_append rfl e.carries

theorem Limit.carries (l : Limit) : Carries l.lexemes l.leaves :=
  (Carries.plain_append rfl l.rowcount.carries).append (carries_optionClause "OFFSET" l.offset)

theorem carries_limit (l : Option Limit) :
    Carries (l.elim [] fun l => .blank :: l.lexemes) (l.elim [] Limit.leaves) := by
  cases l with
  | none => exact .plain rfl
  | some l =>
    have hblank : Carries [.blank] [] := .plain rfl
    exact hblank.append l.carries

/-- A query carries its leaves clause by clause. The tables, which stand between, have none. -/
theorem Select.carries (s : Select) : Carries s.lexemes (Statement.leaves (.select s)) :=
  ((((((Carries.plain_append s.isPlain_head
    (.commaList s.columns fun i _ => i.carries)).append_plain
    (isPlain_tables s.tables)).append (carries_optionClause "WHERE" s.filter)).append
    (.listClause rfl Expr.carries s.groupBy)).append
    (carries_optionClause "HAVING" s.having)).append
    (.listClause rfl OrderItem.carries s.orderBy)).append (carries_limit s.limit)

theorem Insert.carries (s : Insert) : Carries s.lexemes (Statement.leaves (.insert s)) :=
  .plain_append s.isPlain_head (.commaList s.rows fun r _ => r.carries)

theorem Update.carries (s : Update) : Carries s.lexemes (Statement.leaves (.update s)) :=
  (Carries.plain_append s.isPlain_head (.commaList s.assignments fun a _ => a.carries)).append
    (carries_optionClause "WHERE" s.filter)

theorem Delete.carries (s : Delete) : Carries s.lexemes (Statement.leaves (.delete s)) :=
  .plain_append s.isPlain_head (carries_optionClause "WHERE" s.filter)

/-! ## Trees of every kind -/

/-- A tree of any kind. -/
inductive SqlTree where
  | ident (i : Ident)
  | column (c : ColumnName)
  | table (t : TableName)
  | tableExpr (t : TableExpr)
  | literal (l : Literal)
  | bind (v : BindVar)
  | func (f : FuncCall)
  | expr (e : Expr)
  | item (i : SelectItem)
  | order (o : OrderItem)
  | limit (l : Limit)
  | assignment (a : Assignment)
  | row (r : Row)
  | select (s : Select)
  | insert (s : Insert)
  | update (s : Update)
  | delete (s : Delete)
  | statement (s : Statement)

namespace SqlTree

/-- The node that writes a tree. -/
def node : SqlTree → Node
  | .ident i => i.node
  | .column c => c.node
  | .table t => t.node
  | .tableExpr t => t.node
  | .literal l => l.node
  | .bind v => v.node
  | .func f => f.node
  | .expr e => e.node
  | .item i => i.node
  | .order o => o.node
  | .limit l => l.node
  | .assignment a => a.node
  | .row r => r.node
  | .select s => s.node
  | .insert s => s.node
  | .update s => s.node
  | .delete s => s.node
  | .statement s => s.node

/-- The tokens and blanks that a tree is written with. -/
def lexemes : SqlTree → List Lexeme
  | .ident i => [i.lexeme]
  | .column c => c.lexemes
  | .table t => t.lexemes
  | .tableExpr t => t.lexemes
  | .literal l => [.token l.token]
  | .bind v => [.token v.token]
  | .func f => f.lexemes
  | .expr e => e.lexemes
  | .item i => i.lexemes
  | .order o => o.lexemes
  | .limit l => l.lexemes
  | .assignment a => a.lexemes
  | .row r => r.lexemes
  | .select s => s.lexemes
  | .insert s => s.lexemes
  | .update s => s.lexemes
  | .delete s => s.lexemes
  | .statement s => s.lexemes

/-- The literals and bind variables of a tree, from left to right. -/
def leaves : SqlTree → List Leaf
  | .ident _ | .column _ | .table _ | .tableExpr _ => []
  | .literal l => [.literal l]
  | .bind v => [.bind v]
  | .func f => f.leaves
  | .expr e => e.leaves
  | .item i => i.leaves
  | .order o => o.expr.leaves
  | .limit l => l.leaves
  | .assignment a => a.value.leaves
  | .row r => r.leaves
  | .select s => Statement.leaves (.select s)
  | .insert s => Statement.leaves (.insert s)
  | .update s => Statement.leaves (.update s)
  | .delete s => Statement.leaves (.delete s)
  | .statement s => s.leaves

/-- Every tree spells out its lexemes. -/
theorem writes : ∀ t : SqlTree, t.node.emission.Writes t.lexemes
  | .ident i => i.writes
  | .column c => c.writes
  | .table t => t.writes
  | .tableExpr t => t.writes
  | .literal l => l.writes
  | .bind v => v.writes
  | .func f => Node.writes_of_calls f.writes_calls
  | .expr e => e.writes
  | .item i => i.writes
  | .order o => o.writes
  | .limit l => l.writes
  | .assignment a => a.writes
  | .row r => r.writes
  | .select s => s.writes
  | .insert s => s.writes
  | .update s => s.writes
  | .delete s => s.writes
  | .statement s => s.writes

/-- **The literals in a tree are its leaves.** -/
theorem carries : ∀ t : SqlTree, Carries t.lexemes t.leaves
  | .ident _ => .plain rfl
  | .column c => .plain (isPlain_qualifiedLexemes c.qualifier c.name)
  | .table t => .plain (isPlain_qualifiedLexemes t.qualifier t.name)
  | .tableExpr t =>
    (Carries.plain (isPlain_qualifiedLexemes t.table.qualifier t.table.name)).asName t.asName
  | .literal l => l.carries
  | .bind v => v.carries
  | .func f => f.carries
  | .expr e => e.carries
  | .item i => i.carries
  | .order o => o.carries
  | .limit l => l.carries
  | .assignment a => a.carries
  | .row r => r.carries
  | .select s => s.carries
  | .insert s => s.carries
  | .update s => s.carries
  | .delete s => s.carries
  | .statement (.select s) => s.carries
  | .statement (.insert s) => s.carries
  | .statement (.update s) => s.carries
  | .statement (.delete s) => s.carries

end SqlTree

/-! ## No leaf is empty -/

/-- A text is not empty if a part of it is not. -/
theorem utf8ByteSize_append_pos {s t : String} (h : 0 < s.utf8ByteSize ∨ 0 < t.utf8ByteSize) :
    0 < (s ++ t).utf8ByteSize := by
  rw [String.utf8ByteSize_append]
  omega

/-- A point or an exponent mark is in every magnitude. -/
theorem Decimal.Layout.magnitude_pos (l : Decimal.Layout) (x : Double) :
    0 < (l.magnitude x).utf8ByteSize := by
  have hpoint : 0 < ".".utf8ByteSize := by decide
  have hmark : 0 < "e".utf8ByteSize := by decide
  rw [magnitude]
  split
  · decide
  · dsimp only
    split
    · rw [positional]
      split
      · exact utf8ByteSize_append_pos (.inr (by decide))
      · split
        · exact utf8ByteSize_append_pos (.inl (utf8ByteSize_append_pos (.inr hpoint)))
        · exact utf8ByteSize_append_pos (.inl (utf8ByteSize_append_pos (.inl (by decide))))
    · exact utf8ByteSize_append_pos (.inl (utf8ByteSize_append_pos (.inl
        (utf8ByteSize_append_pos (.inr hmark)))))

theorem Literal.sql_pos (l : Literal) : 0 < l.sql.utf8ByteSize := by
  cases l with
  | str s => exact utf8ByteSize_append_pos (.inr (by decide))
  | int n =>
    have hdigits : ∀ m : Nat, 0 < (Nat.repr m).utf8ByteSize := fun m =>
      Nat.pos_of_ne_zero fun h => Nat.repr_ne_empty (String.utf8ByteSize_eq_zero_iff.mp h)
    rw [Literal.sql, Int.toString_eq_repr, Int.repr_eq_if]
    split
    · exact hdigits _
    · exact utf8ByteSize_append_pos (.inl (by decide))
  | float x =>
    rw [Literal.sql, Decimal.Layout.write]
    split
    · decide
    · have htext : 0 < (if x.isFinite then sqlFloat.magnitude x else "inf").utf8ByteSize := by
        split
        · exact sqlFloat.magnitude_pos x
        · decide
      dsimp only
      split
      · exact utf8ByteSize_append_pos (.inl (by decide))
      · exact htext

/-- **No leaf is written as nothing**, so no span is empty. -/
theorem Leaf.sql_pos (l : Leaf) : 0 < l.sql.utf8ByteSize := by
  cases l with
  | literal l => exact l.sql_pos
  | bind v => exact utf8ByteSize_append_pos (.inl (by decide))

/-! ## Spans of a tree -/

/-- What a node adds to a tracking buffer. -/
theorem Node.write_tracked {n : Node} {ls : List Lexeme} (h : n.emission.Writes ls) {b : Buffer}
    (hb : b.isTracking = true) :
    (b.write n).buffer.bytes = b.bytes ++ (String.ofList (chars ls)).toUTF8 ∧
      (b.write n).buffer.spans.toList = b.spans.toList ++ spansFrom b.size (layout ls) := by
  have hnode : (Call.emission ⟨"%v", [.node n]⟩).Writes ls := Call.writes_node h
  obtain ⟨spans, hspans⟩ := Option.isSome_iff_exists.mp hb
  have htracked := hnode.tracked b
  rw [Buffer.write_eq]
  refine ⟨(hnode.bytes b).trans (by rw [text_layout]), ?_⟩
  change ((b.putAll _).tracked.getD #[]).toList = (b.tracked.getD #[]).toList ++ _
  rw [htracked, hspans]
  simp

/-- **The tracked literals of a tree are its literals and bind variables.** Whatever kind of tree is
written to a tracking buffer, it is written to the end; the spans it adds read back the leaves of
the tree from left to right, and none is empty. In the written text every literal token lies at a
span, and every other lexeme outside all of them. -/
theorem tracked_eq_leaves (t : SqlTree) (b : Buffer) (hb : b.isTracking = true) :
    let p := b.write t.node
    ∃ added : List Span, p.fault = none ∧ p.buffer.spans.toList = b.spans.toList ++ added ∧
      p.buffer.bytes = b.bytes ++ (String.ofList (chars t.lexemes)).toUTF8 ∧
      added.map (fun s => p.buffer.bytes.extract s.offset (s.offset + s.len))
        = t.leaves.map (fun l => l.sql.toUTF8) ∧
      (p.buffer.size < wordSize →
        added.map p.buffer.spanBytes = t.leaves.map fun l => .ok l.sql.toUTF8) ∧
      (∀ s ∈ added, 0 < s.len) ∧
      ∀ x ∈ placed b.size t.lexemes,
        p.buffer.bytes.extract x.2.offset (x.2.offset + x.2.len) = x.1.sql.toUTF8 ∧
        (x.1.isPlain = false → x.2 ∈ added) ∧
        (x.1.isPlain = true → ∀ s ∈ added, Apart x.2 s) := by
  intro p
  obtain ⟨hbytes, hspans⟩ := Node.write_tracked t.writes hb
  have hcut : ∀ x ∈ placed b.size t.lexemes,
      p.buffer.bytes.extract x.2.offset (x.2.offset + x.2.len) = x.1.sql.toUTF8 := fun x hx => by
    rw [hbytes]
    exact extract_placed t.lexemes b.bytes hx
  have hmem : ∀ s, s ∈ spansFrom b.size (layout t.lexemes) ↔
      ∃ x ∈ placed b.size t.lexemes, x.1.isPlain = false ∧ x.2 = s := fun s => by
    rw [spansFrom_layout]
    simp [and_assoc]
  have htexts : (spansFrom b.size (layout t.lexemes)).map
      (fun s => p.buffer.bytes.extract s.offset (s.offset + s.len))
        = t.leaves.map fun l => l.sql.toUTF8 := by
    have hcarries : (literals (layout t.lexemes)).map String.toUTF8
        = t.leaves.map fun l => l.sql.toUTF8 := by
      rw [t.carries, List.map_map]
      rfl
    rw [← hcarries, spansFrom_layout, literals_layout b.size, List.map_map, List.map_map]
    exact List.map_congr_left fun x hx => hcut x (List.mem_of_mem_filter hx)
  refine ⟨_, Node.write_fault t.writes b, hspans, hbytes, htexts, fun hsize => ?_, fun s hs => ?_,
    fun x hx => ⟨hcut x hx, fun hliteral => (hmem _).mpr ⟨x, hx, hliteral, rfl⟩,
      fun hplain s hs => ?_⟩⟩
  · have hwithin : ∀ s ∈ spansFrom b.size (layout t.lexemes), s.offset + s.len ≤ p.buffer.size := by
      intro s hs
      obtain ⟨x, hx, -, rfl⟩ := (hmem s).mp hs
      rw [Buffer.size, hbytes, ByteArray.size_append]
      exact stop_le_of_mem_placed hx
    rw [List.map_congr_left fun s hs => Buffer.spanBytes_of_le hsize (hwithin s hs)]
    have hok := congrArg (List.map (Except.ok (ε := Overflow))) htexts
    rwa [List.map_map, List.map_map] at hok
  · obtain ⟨x, hx, hliteral, rfl⟩ := (hmem s).mp hs
    have hleaf : x.1.sql ∈ t.leaves.map Leaf.sql := by
      rw [← t.carries, literals_layout b.size]
      exact List.mem_map.mpr ⟨x, List.mem_filter.mpr ⟨hx, by simp [hliteral]⟩, rfl⟩
    obtain ⟨l, -, hl⟩ := List.mem_map.mp hleaf
    rw [len_of_mem_placed hx, ← hl]
    exact l.sql_pos
  · obtain ⟨y, hy, hliteral, rfl⟩ := (hmem s).mp hs
    refine apart_of_mem_placed hx hy ?_
    rintro rfl
    exact absurd (hplain.symm.trans hliteral) (by decide)

/-- A name, a string and a bind variable that look alike, and numbers, beside `NULL`. The quote in
the string is doubled. -/
def lookalikes : SqlTree :=
  .expr (.isIn (.column ⟨none, ⟨"n"⟩⟩) true
    [.literal (.str "n'"), .bind ⟨"n"⟩, .null, .literal (.int (-7)), .literal (.int 7),
      .literal (.float ⟨0x3FB999999999999A⟩)])

/-- The name in front is not tracked, and neither is `NULL`; each of the five literals is. -/
theorem tracked_eq_leaves_lookalikes :
    (Buffer.new true).isTracking = true ∧
    ∃ added : List Span, ((Buffer.new true).write lookalikes.node).buffer.spans.toList = added ∧
      added = [⟨10, 5⟩, ⟨17, 2⟩, ⟨27, 2⟩, ⟨31, 1⟩, ⟨34, 3⟩] ∧
      added.map (fun s => ((Buffer.new true).write lookalikes.node).buffer.bytes.extract s.offset
        (s.offset + s.len))
        = ["'n'''".toUTF8, ":n".toUTF8, "-7".toUTF8, "7".toUTF8, "0.1".toUTF8] := by
  have hspans : ((Buffer.new true).write lookalikes.node).buffer.spans.toList
      = [⟨10, 5⟩, ⟨17, 2⟩, ⟨27, 2⟩, ⟨31, 1⟩, ⟨34, 3⟩] := by decide +kernel
  have hleaves : lookalikes.leaves.map (fun l => l.sql.toUTF8)
      = ["'n'''".toUTF8, ":n".toUTF8, "-7".toUTF8, "7".toUTF8, "0.1".toUTF8] := by
    decide +kernel
  obtain ⟨added, -, hadded, -, htexts, -⟩ := tracked_eq_leaves lookalikes (Buffer.new true) rfl
  rw [hleaves] at htexts
  exact ⟨rfl, added, hadded, hadded.symm.trans hspans, htexts⟩

end SqlRender
