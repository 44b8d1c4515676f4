import SqlRender.Proofs.Layout

/-!
# Proofs/Leaves — replacing the literals of a tree

The leaves of a tree are its literals and bind variables, in the order they are written. A leaf
binds as tightly as anything can, so putting another leaf in its place changes no parenthesis and no
clause: the glyphs of the new tree are the old ones with the tracked literals exchanged
(`Statement.relabels`). What this does to bytes and offsets is in `Proofs/Splice`.
-/

namespace SqlRender

open Glyph Lexeme

/-! ## Leaves of a tree -/

/-- A value in a tree. -/
inductive Leaf where
  | literal (l : Literal)
  | bind (v : BindVar)
  deriving DecidableEq, Repr

namespace Leaf

/-- The leaf as an expression. -/
def expr : Leaf → Expr
  | .literal l => .literal l
  | .bind v => .bind v

/-- The text of a leaf. -/
def sql : Leaf → String
  | .literal l => l.sql
  | .bind v => v.sql

end Leaf

mutual

/-- The literals and bind variables of an expression, in writing order. -/
def Expr.leaves : Expr → List Leaf
  | .column _ | .null => []
  | .literal l => [.literal l]
  | .bind v => [.bind v]
  | .comparison left _ right | .and left right | .or left right => left.leaves ++ right.leaves
  | .not e | .paren e => e.leaves
  | .func ⟨_, _, args⟩ => SelectItem.listLeaves args
  | .isIn e _ list => e.leaves ++ Expr.listLeaves list
  | .isNull e _ => e.leaves

/-- The leaves of a list of expressions, in writing order. -/
def Expr.listLeaves : List Expr → List Leaf
  | [] => []
  | e :: rest => e.leaves ++ Expr.listLeaves rest

/-- The leaves of an entry; a star has none. -/
def SelectItem.leaves : SelectItem → List Leaf
  | .star | .qualifiedStar _ => []
  | .expr e _ => e.leaves

/-- The leaves of a select list, in writing order. -/
def SelectItem.listLeaves : List SelectItem → List Leaf
  | [] => []
  | i :: rest => i.leaves ++ SelectItem.listLeaves rest

end

/-- The leaves of a row, in writing order. -/
def Row.leaves (r : Row) : List Leaf := r.values.flatMap Expr.leaves

/-- The leaves of an optional expression. -/
def optionLeaves (e : Option Expr) : List Leaf := e.elim [] Expr.leaves

/-- The leaves of the row count, then of the offset. -/
def Limit.leaves (l : Limit) : List Leaf := l.rowcount.leaves ++ optionLeaves l.offset

/-- The literals and bind variables of a statement, in writing order. -/
def Statement.leaves : Statement → List Leaf
  | .select s =>
    s.columns.flatMap SelectItem.leaves ++ optionLeaves s.filter ++ s.groupBy.flatMap Expr.leaves ++
    optionLeaves s.having ++ s.orderBy.flatMap (fun o => o.expr.leaves) ++
    s.limit.elim [] Limit.leaves
  | .insert s => s.rows.flatMap Row.leaves
  | .update s => s.assignments.flatMap (fun a => a.value.leaves) ++ optionLeaves s.filter
  | .delete s => optionLeaves s.filter

/-! ## Relabelling

`relabel r k` puts `r k`, `r (k + 1)`, … in place of the leaves, in writing order. -/

/-- Relabel a list, its first leaf being number `k`. -/
def relabelAll {α : Type} (relabel : Nat → α → α) (leaves : α → List Leaf) : Nat → List α → List α
  | _, [] => []
  | k, a :: as => relabel k a :: relabelAll relabel leaves (k + (leaves a).length) as

mutual

/-- Replace the leaves of an expression, the first being number `k`. Each part counts on from the
leaves of the part before it. -/
def Expr.relabel (r : Nat → Leaf) : Nat → Expr → Expr
  | _, .column c => .column c
  | k, .literal _ => (r k).expr
  | k, .bind _ => (r k).expr
  | _, .null => .null
  | k, .comparison left op right =>
    .comparison (left.relabel r k) op (right.relabel r (k + left.leaves.length))
  | k, .and left right => .and (left.relabel r k) (right.relabel r (k + left.leaves.length))
  | k, .or left right => .or (left.relabel r k) (right.relabel r (k + left.leaves.length))
  | k, .not e => .not (e.relabel r k)
  | k, .paren e => .paren (e.relabel r k)
  | k, .func ⟨name, distinct, args⟩ => .func ⟨name, distinct, SelectItem.relabelList r k args⟩
  | k, .isIn e negated list =>
    .isIn (e.relabel r k) negated (Expr.relabelList r (k + e.leaves.length) list)
  | k, .isNull e negated => .isNull (e.relabel r k) negated

/-- Replace the leaves of a list of expressions. -/
def Expr.relabelList (r : Nat → Leaf) : Nat → List Expr → List Expr
  | _, [] => []
  | k, e :: rest => e.relabel r k :: Expr.relabelList r (k + e.leaves.length) rest

/-- Replace the leaves of an entry of a select list. -/
def SelectItem.relabel (r : Nat → Leaf) : Nat → SelectItem → SelectItem
  | _, .star => .star
  | _, .qualifiedStar table => .qualifiedStar table
  | k, .expr e asName => .expr (e.relabel r k) asName

/-- Replace the leaves of a select list. -/
def SelectItem.relabelList (r : Nat → Leaf) : Nat → List SelectItem → List SelectItem
  | _, [] => []
  | k, i :: rest => i.relabel r k :: SelectItem.relabelList r (k + i.leaves.length) rest

end

/-- Replace the leaves of a `LIMIT` clause. -/
def Limit.relabel (r : Nat → Leaf) (k : Nat) (l : Limit) : Limit :=
  ⟨l.rowcount.relabel r k, l.offset.map (Expr.relabel r (k + l.rowcount.leaves.length))⟩

/-- Replace the leaves of an entry of an `ORDER BY` list. -/
def OrderItem.relabel (r : Nat → Leaf) (k : Nat) (o : OrderItem) : OrderItem :=
  ⟨o.expr.relabel r k, o.direction⟩

/-- Replace the leaves of the value. -/
def Assignment.relabel (r : Nat → Leaf) (k : Nat) (a : Assignment) : Assignment :=
  ⟨a.column, a.value.relabel r k⟩

/-- Replace the leaves of a row. -/
def Row.relabel (r : Nat → Leaf) (k : Nat) (row : Row) : Row :=
  ⟨relabelAll (Expr.relabel r) Expr.leaves k row.values⟩

/-- Replace the leaves of a query, clause by clause in writing order. -/
def Select.relabel (r : Nat → Leaf) (k : Nat) (s : Select) : Select :=
  let columns := (s.columns.flatMap SelectItem.leaves).length
  let filter := columns + (optionLeaves s.filter).length
  let groupBy := filter + (s.groupBy.flatMap Expr.leaves).length
  let having := groupBy + (optionLeaves s.having).length
  let orderBy := having + (s.orderBy.flatMap fun o => o.expr.leaves).length
  { s with
    columns := relabelAll (SelectItem.relabel r) SelectItem.leaves k s.columns
    filter := s.filter.map (Expr.relabel r (k + columns))
    groupBy := relabelAll (Expr.relabel r) Expr.leaves (k + filter) s.groupBy
    having := s.having.map (Expr.relabel r (k + groupBy))
    orderBy := relabelAll (OrderItem.relabel r) (fun o => o.expr.leaves) (k + having) s.orderBy
    limit := s.limit.map (Limit.relabel r (k + orderBy)) }

/-- The statement with its leaves replaced, in writing order, by `r k`, `r (k + 1)`, … -/
def Statement.relabelFrom (r : Nat → Leaf) (k : Nat) : Statement → Statement
  | .select s => .select (s.relabel r k)
  | .insert s => .insert { s with rows := relabelAll (Row.relabel r) Row.leaves k s.rows }
  | .update s =>
    .update { s with
      assignments := relabelAll (Assignment.relabel r) (fun a => a.value.leaves) k s.assignments
      filter := s.filter.map
        (Expr.relabel r (k + (s.assignments.flatMap fun a => a.value.leaves).length)) }
  | .delete s => .delete { s with filter := s.filter.map (Expr.relabel r k) }

/-- The statement with its leaves replaced, in writing order, by `r 0`, `r 1`, … -/
def Statement.relabel (r : Nat → Leaf) (s : Statement) : Statement := s.relabelFrom r 0

/-- The leaves of a list are those of its expressions. -/
theorem Expr.listLeaves_eq (es : List Expr) : Expr.listLeaves es = es.flatMap Expr.leaves := by
  induction es with
  | nil => rw [Expr.listLeaves]; rfl
  | cons e rest ih => rw [Expr.listLeaves, ih]; rfl

theorem SelectItem.listLeaves_eq (is : List SelectItem) :
    SelectItem.listLeaves is = is.flatMap SelectItem.leaves := by
  induction is with
  | nil => rw [SelectItem.listLeaves]; rfl
  | cons i rest ih => rw [SelectItem.listLeaves, ih]; rfl

/-- Expressions in a list are relabelled one after the other. -/
theorem Expr.relabelList_eq (r : Nat → Leaf) : ∀ (k : Nat) (es : List Expr),
    Expr.relabelList r k es = relabelAll (Expr.relabel r) Expr.leaves k es
  | k, [] => by rw [Expr.relabelList]; rfl
  | k, e :: rest => by rw [Expr.relabelList, Expr.relabelList_eq r _ rest]; rfl

theorem SelectItem.relabelList_eq (r : Nat → Leaf) : ∀ (k : Nat) (is : List SelectItem),
    SelectItem.relabelList r k is = relabelAll (SelectItem.relabel r) SelectItem.leaves k is
  | k, [] => by rw [SelectItem.relabelList]; rfl
  | k, i :: rest => by rw [SelectItem.relabelList, SelectItem.relabelList_eq r _ rest]; rfl

/-! ## Relabelling glyphs -/

namespace Glyph

/-- The tracked literals among glyphs. -/
def literals : List Glyph → List String
  | [] => []
  | .char _ :: gs => literals gs
  | .tracked s :: gs => s :: literals gs

/-- Put `t k`, `t (k + 1)`, … in place of the tracked literals. -/
def relabel (t : Nat → String) : Nat → List Glyph → List Glyph
  | _, [] => []
  | k, .char c :: gs => .char c :: relabel t k gs
  | k, .tracked _ :: gs => .tracked (t k) :: relabel t (k + 1) gs

theorem literals_append : ∀ gs hs : List Glyph, literals (gs ++ hs) = literals gs ++ literals hs
  | [], _ => rfl
  | .char _ :: gs, hs => literals_append gs hs
  | .tracked s :: gs, hs => congrArg (s :: ·) (literals_append gs hs)

/-- Relabelling counts on over what comes behind. -/
theorem relabel_append (t : Nat → String) : ∀ (k : Nat) (gs hs : List Glyph),
    relabel t k (gs ++ hs) = relabel t k gs ++ relabel t (k + (literals gs).length) hs
  | k, [], hs => rfl
  | k, .char c :: gs, hs => by
      rw [List.cons_append, relabel, relabel_append t k gs hs, relabel, literals, List.cons_append]
  | k, .tracked s :: gs, hs => by
      rw [List.cons_append, relabel, relabel_append t (k + 1) gs hs, relabel, literals,
        List.length_cons, Nat.add_assoc k 1, Nat.add_comm 1, List.cons_append]

/-- Plain text holds no literal. -/
theorem literals_plain (s : String) : literals (plain s) = [] := by
  rw [plain]
  induction s.toList with
  | nil => rfl
  | cons c cs ih => exact ih

theorem relabel_plain (t : Nat → String) (k : Nat) (s : String) :
    relabel t k (plain s) = plain s := by
  rw [plain]
  induction s.toList with
  | nil => rfl
  | cons c cs ih => exact congrArg (.char c :: ·) ih

end Glyph

/-! ## From trees to glyphs -/

/-- A leaf is one tracked literal. -/
theorem Leaf.layout_lexemes (l : Leaf) : layout l.expr.lexemes = [.tracked l.sql] := by
  cases l with
  | literal l =>
    rw [Leaf.expr, Expr.lexemes]
    cases l <;> rfl
  | bind v =>
    rw [Leaf.expr, Expr.lexemes]
    rfl

/-- The lexemes `ms` are the lexemes `ls` with their `n` literals replaced by `r k`, `r (k + 1)`,
… -/
structure Relabels (r : Nat → Leaf) (k n : Nat) (ls ms : List Lexeme) : Prop where
  count : (Glyph.literals (layout ls)).length = n
  layout_eq : layout ms = Glyph.relabel (fun i => (r i).sql) k (layout ls)

namespace Relabels

variable {r : Nat → Leaf} {k n n' : Nat} {ls ls' ms ms' : List Lexeme}

/-- What comes behind is numbered after what comes before. -/
theorem append (h : Relabels r k n ls ms) (h' : Relabels r (k + n) n' ls' ms') :
    Relabels r k (n + n') (ls ++ ls') (ms ++ ms') where
  count := by rw [layout_append, literals_append, List.length_append, h.count, h'.count]
  layout_eq := by
    rw [layout_append, layout_append, relabel_append, h.count, h.layout_eq, h'.layout_eq]

/-- Without literals there is nothing to replace. -/
theorem plain (k : Nat) (hplain : ls.all isPlain = true) : Relabels r k 0 ls ls where
  count := by rw [layout_of_isPlain hplain, literals_plain]; rfl
  layout_eq := by rw [layout_of_isPlain hplain, relabel_plain]

theorem append_plain (h : Relabels r k n ls ms) (hplain : ls'.all isPlain = true) :
    Relabels r k n (ls ++ ls') (ms ++ ls') := h.append (plain _ hplain)

/-- Plain lexemes may stand in front; they take no number. -/
theorem plain_append (hplain : ls.all isPlain = true) (h : Relabels r k n ls' ms') :
    Relabels r k n (ls ++ ls') (ls ++ ms') := by
  have happend := (plain k hplain).append h
  rwa [Nat.zero_add] at happend

/-- A leaf is relabelled to the leaf of its number. -/
theorem leaf {t : Token} (ht : t.isLiteral = true) :
    Relabels r k 1 [.token t] (r k).expr.lexemes where
  count := by
    rw [layout, List.flatMap_singleton, glyphs, ht]
    rfl
  layout_eq := by
    rw [Leaf.layout_lexemes, layout, List.flatMap_singleton, glyphs, ht]
    rfl

/-- A comma list is relabelled item by item. -/
theorem commaList_all {α : Type} {relabel : Nat → α → α} {leaves : α → List Leaf}
    {lexemes : α → List Lexeme} : ∀ (as : List α) (k : Nat),
    (∀ a ∈ as, ∀ k, Relabels r k (leaves a).length (lexemes a) (lexemes (relabel k a))) →
      Relabels r k (as.flatMap leaves).length (commaList (as.map lexemes))
        (commaList ((relabelAll relabel leaves k as).map lexemes))
  | [], k, _ => plain k rfl
  | [a], k, h => by
      have ha := h a (by simp) k
      rw [List.flatMap_singleton]
      exact ha
  | a :: b :: rest, k, h => by
      have hcomma : [punct ',', .blank].all isPlain = true := rfl
      have ha := (h a (by simp) k).append_plain hcomma
      have hrest := commaList_all (b :: rest) (k + (leaves a).length)
        fun x hx => h x (List.mem_cons_of_mem _ hx)
      rw [List.flatMap_cons, List.length_append]
      exact ha.append hrest

/-- Parentheses are asked for by the strength of an expression, which the new leaves leave as it
is. -/
theorem operand {e e' : Expr} (hprec : e'.precedence = e.precedence) (least : Precedence)
    (h : Relabels r k n ls ms) :
    Relabels r k n (operandLexemes e least ls) (operandLexemes e' least ms) := by
  rw [operandLexemes, operandLexemes, hprec]
  split
  · exact (plain_append rfl h).append_plain rfl
  · exact h

end Relabels

/-- **A leaf binds as tightly as the leaf it replaces**, so relabelling moves no parenthesis. -/
theorem Expr.precedence_relabel (r : Nat → Leaf) (k : Nat) (e : Expr) :
    (e.relabel r k).precedence = e.precedence := by
  have hleaf : ∀ l : Leaf, l.expr.precedence = .atom := fun l => by cases l <;> rfl
  cases e with
  | literal l =>
    rw [Expr.relabel]
    exact hleaf _
  | bind v =>
    rw [Expr.relabel]
    exact hleaf _
  | func f =>
    obtain ⟨name, distinct, args⟩ := f
    rw [Expr.relabel]
    rfl
  | column c => rw [Expr.relabel]
  | null => rw [Expr.relabel]
  | _ =>
    rw [Expr.relabel]
    rfl

theorem relabels_aliasLexemes (r : Nat → Leaf) {k n : Nat} {ls ms : List Lexeme}
    (h : Relabels r k n ls ms) (asName : Option Ident) :
    Relabels r k n (ls ++ aliasLexemes asName) (ms ++ aliasLexemes asName) :=
  h.append_plain (by cases asName <;> rfl)

theorem isPlain_qualifiedLexemes (qualifier : Option Ident) (name : Ident) :
    (qualifiedLexemes qualifier name).all isPlain = true := by cases qualifier <;> rfl

/-- What an entry adds to its expression, for the induction over expressions. -/
theorem SelectItem.relabels_of (r : Nat → Leaf) (i : SelectItem)
    (h : ∀ e asName, i = .expr e asName →
      ∀ k, Relabels r k e.leaves.length e.lexemes (e.relabel r k).lexemes) (k : Nat) :
    Relabels r k i.leaves.length i.lexemes (i.relabel r k).lexemes := by
  cases i with
  | star =>
    rw [SelectItem.leaves, SelectItem.relabel, SelectItem.lexemes]
    exact .plain k rfl
  | qualifiedStar table =>
    rw [SelectItem.leaves, SelectItem.relabel, SelectItem.lexemes]
    exact .plain k rfl
  | expr e asName =>
    rw [SelectItem.leaves, SelectItem.relabel, SelectItem.lexemes, SelectItem.lexemes]
    exact relabels_aliasLexemes r (h e asName rfl k) asName

/-- **Relabelling an expression relabels its lexemes.** -/
theorem Expr.relabels (r : Nat → Leaf) (e : Expr) :
    ∀ k, Relabels r k e.leaves.length e.lexemes (e.relabel r k).lexemes := by
  induction e using Expr.tree_induction with
  | column c =>
    intro k
    rw [Expr.leaves, Expr.relabel, Expr.lexemes]
    exact .plain k (isPlain_qualifiedLexemes c.qualifier c.name)
  | literal l =>
    intro k
    rw [Expr.leaves, Expr.relabel, Expr.lexemes]
    exact .leaf (by cases l <;> rfl)
  | bind v =>
    intro k
    rw [Expr.leaves, Expr.relabel, Expr.lexemes]
    exact .leaf rfl
  | null =>
    intro k
    rw [Expr.leaves, Expr.relabel, Expr.lexemes]
    exact .plain k rfl
  | comparison left op right hleft hright =>
    intro k
    have hop : ([Lexeme.blank] ++ op.lexemes ++ [Lexeme.blank]).all isPlain = true := by
      cases op <;> rfl
    rw [Expr.leaves, Expr.relabel, Expr.lexemes, Expr.lexemes, List.length_append]
    exact (((hleft k).operand (precedence_relabel r k left) .atom).append_plain hop).append
      ((hright _).operand (precedence_relabel r _ right) .atom)
  | and left right hleft hright =>
    intro k
    rw [Expr.leaves, Expr.relabel, Expr.lexemes, Expr.lexemes, List.length_append]
    exact (((hleft k).operand (precedence_relabel r k left) .and).append_plain rfl).append
      ((hright _).operand (precedence_relabel r _ right) .and)
  | or left right hleft hright =>
    intro k
    rw [Expr.leaves, Expr.relabel, Expr.lexemes, Expr.lexemes, List.length_append]
    exact (((hleft k).operand (precedence_relabel r k left) .or).append_plain rfl).append
      ((hright _).operand (precedence_relabel r _ right) .or)
  | not e he =>
    intro k
    rw [Expr.leaves, Expr.relabel, Expr.lexemes, Expr.lexemes]
    exact .plain_append rfl ((he k).operand (precedence_relabel r k e) .not)
  | paren e he =>
    intro k
    rw [Expr.leaves, Expr.relabel, Expr.lexemes, Expr.lexemes]
    exact (Relabels.plain_append rfl (he k)).append_plain rfl
  | func name distinct args hargs =>
    intro k
    have hlist := Relabels.commaList_all args k fun i hi =>
      i.relabels_of r fun e asName h => hargs e asName (h ▸ hi)
    rw [Expr.leaves, Expr.relabel, Expr.lexemes, Expr.lexemes, FuncCall.lexemes, FuncCall.lexemes,
      SelectItem.lexemeLists_eq_map, SelectItem.lexemeLists_eq_map, SelectItem.listLeaves_eq,
      SelectItem.relabelList_eq]
    exact (Relabels.plain_append (by cases distinct <;> rfl) hlist).append_plain rfl
  | isIn e negated list he hlist =>
    intro k
    have hitems := Relabels.commaList_all list (k + e.leaves.length) hlist
    rw [Expr.leaves, Expr.relabel, Expr.lexemes, Expr.lexemes, Expr.lexemeLists_eq_map,
      Expr.lexemeLists_eq_map, Expr.listLeaves_eq, Expr.relabelList_eq, List.length_append]
    exact ((((he k).operand (precedence_relabel r k e) .atom).append_plain
      (by cases negated <;> rfl)).append hitems).append_plain rfl
  | isNull e negated he =>
    intro k
    rw [Expr.leaves, Expr.relabel, Expr.lexemes, Expr.lexemes]
    exact ((he k).operand (precedence_relabel r k e) .atom).append_plain (by cases negated <;> rfl)

theorem SelectItem.relabels (r : Nat → Leaf) (i : SelectItem) (k : Nat) :
    Relabels r k i.leaves.length i.lexemes (i.relabel r k).lexemes :=
  i.relabels_of r (fun e _ _ => e.relabels r) k

theorem OrderItem.relabels (r : Nat → Leaf) (o : OrderItem) (k : Nat) :
    Relabels r k o.expr.leaves.length o.lexemes (o.relabel r k).lexemes := by
  refine (o.expr.relabels r k).append_plain ?_
  split <;> rfl

theorem Assignment.relabels (r : Nat → Leaf) (a : Assignment) (k : Nat) :
    Relabels r k a.value.leaves.length a.lexemes (a.relabel r k).lexemes := by
  refine .plain_append ?_ (a.value.relabels r k)
  rw [List.all_append, ColumnName.lexemes, isPlain_qualifiedLexemes]
  rfl

theorem Row.relabels (r : Nat → Leaf) (row : Row) (k : Nat) :
    Relabels r k row.leaves.length row.lexemes (row.relabel r k).lexemes :=
  (Relabels.plain_append rfl
    (Relabels.commaList_all row.values k fun e _ => e.relabels r)).append_plain rfl

theorem relabels_optionClause (r : Nat → Leaf) (keyword : String) (e : Option Expr) (k : Nat) :
    Relabels r k (optionLeaves e).length (optionClause keyword e)
      (optionClause keyword (e.map (Expr.relabel r k))) := by
  cases e with
  | none => exact .plain k rfl
  | some e => exact .plain_append rfl (e.relabels r k)

theorem relabels_listClause {r : Nat → Leaf} {keywords : List Lexeme}
    (hplain : keywords.all isPlain = true) {α : Type} {relabel : Nat → α → α}
    {leaves : α → List Leaf} {lexemes : α → List Lexeme}
    (h : ∀ a k, Relabels r k (leaves a).length (lexemes a) (lexemes (relabel k a)))
    (as : List α) (k : Nat) :
    Relabels r k (as.flatMap leaves).length (listClause keywords (as.map lexemes))
      (listClause keywords ((relabelAll relabel leaves k as).map lexemes)) := by
  cases as with
  | nil => exact .plain k rfl
  | cons a as => exact .plain_append hplain (.commaList_all (a :: as) k fun a _ => h a)

/-- The offset is numbered after the row count. -/
theorem Limit.relabels (r : Nat → Leaf) (l : Limit) (k : Nat) :
    Relabels r k l.leaves.length l.lexemes (l.relabel r k).lexemes := by
  rw [Limit.leaves, List.length_append]
  exact (Relabels.plain_append rfl (l.rowcount.relabels r k)).append
    (relabels_optionClause r "OFFSET" l.offset _)

theorem relabels_limit (r : Nat → Leaf) (l : Option Limit) (k : Nat) :
    Relabels r k (l.elim [] Limit.leaves).length (l.elim [] fun l => .blank :: l.lexemes)
      ((l.map (Limit.relabel r k)).elim [] fun l => .blank :: l.lexemes) := by
  cases l with
  | none => exact .plain k rfl
  | some l =>
    have hblank : [Lexeme.blank].all isPlain = true := rfl
    exact .plain_append hblank (l.relabels r k)

theorem isPlain_commaList : ∀ {items : List (List Lexeme)},
    (∀ ls ∈ items, ls.all isPlain = true) → (commaList items).all isPlain = true
  | [], _ => rfl
  | [ls], h => h ls (by simp)
  | ls :: ms :: rest, h => by
      have hrest := isPlain_commaList fun x hx => h x (List.mem_cons_of_mem ls hx)
      rw [commaList, List.all_append, List.all_append, h ls (by simp), hrest]
      · rfl
      · simp

/-- Tables are names, so their clause is plain. -/
theorem isPlain_tables (tables : List TableExpr) :
    (listClause [.blank, word "FROM", .blank] (tables.map TableExpr.lexemes)).all isPlain
      = true := by
  have hitems : (commaList (tables.map TableExpr.lexemes)).all isPlain = true := by
    refine isPlain_commaList fun ls hls => ?_
    obtain ⟨t, -, rfl⟩ := List.mem_map.mp hls
    rw [TableExpr.lexemes, List.all_append, TableName.lexemes, isPlain_qualifiedLexemes]
    cases t.asName <;> rfl
  rw [listClause]
  split
  · rfl
  · rw [List.all_append, hitems]
    rfl

/-! The beginnings of statements carry no literal. -/

theorem Select.isPlain_head (s : Select) : ([word "SELECT", .blank] ++
    (if s.distinct then [word "DISTINCT", .blank] else [])).all isPlain = true := by
  cases s.distinct <;> rfl

theorem Insert.isPlain_head (s : Insert) :
    ([word "INSERT", .blank, word "INTO", .blank] ++ s.table.lexemes ++
      (if s.columns.isEmpty then []
        else [.blank, punct '('] ++ commaList (s.columns.map fun i => [i.lexeme]) ++
          [punct ')']) ++ [.blank, word "VALUES", .blank]).all isPlain = true := by
  have hcolumns : (commaList (s.columns.map fun i => [i.lexeme])).all isPlain = true := by
    refine isPlain_commaList fun ls hls => ?_
    obtain ⟨i, -, rfl⟩ := List.mem_map.mp hls
    rfl
  rw [List.all_append, List.all_append, List.all_append, TableName.lexemes,
    isPlain_qualifiedLexemes]
  split
  · rfl
  · rw [List.all_append, List.all_append, hcolumns]
    rfl

theorem Update.isPlain_head (s : Update) : ([word "UPDATE", .blank] ++ s.table.lexemes ++
    [.blank, word "SET", .blank]).all isPlain = true := by
  rw [List.all_append, List.all_append, TableName.lexemes, isPlain_qualifiedLexemes]
  rfl

theorem Delete.isPlain_head (s : Delete) :
    ([word "DELETE", .blank, word "FROM", .blank] ++ s.table.lexemes).all isPlain = true := by
  rw [List.all_append, TableName.lexemes, isPlain_qualifiedLexemes]
  rfl

/-- A query is relabelled clause by clause. -/
theorem Select.relabels (r : Nat → Leaf) (s : Select) (k : Nat) :
    Relabels r k (Statement.leaves (.select s)).length s.lexemes (s.relabel r k).lexemes := by
  simp only [Statement.leaves, List.length_append]
  exact ((((((Relabels.plain_append s.isPlain_head
    (.commaList_all s.columns k fun i _ => i.relabels r)).append_plain
    (isPlain_tables s.tables)).append
    (relabels_optionClause r "WHERE" s.filter _)).append
    (relabels_listClause rfl (Expr.relabels r) s.groupBy _)).append
    (relabels_optionClause r "HAVING" s.having _)).append
    (relabels_listClause rfl (OrderItem.relabels r) s.orderBy _)).append
    (relabels_limit r s.limit _)

theorem Insert.relabels (r : Nat → Leaf) (s : Insert) (k : Nat) :
    Relabels r k (s.rows.flatMap Row.leaves).length s.lexemes
      { s with rows := relabelAll (Row.relabel r) Row.leaves k s.rows : Insert }.lexemes :=
  .plain_append s.isPlain_head (.commaList_all s.rows k fun row _ => row.relabels r)

/-- **Relabelling a statement relabels its lexemes.** -/
theorem Statement.relabels (r : Nat → Leaf) (s : Statement) (k : Nat) :
    Relabels r k s.leaves.length s.lexemes (s.relabelFrom r k).lexemes := by
  cases s with
  | select s => exact s.relabels r k
  | insert s => exact s.relabels r k
  | update s =>
    rw [Statement.leaves, List.length_append]
    exact (Relabels.plain_append s.isPlain_head
      (.commaList_all s.assignments k fun a _ => a.relabels r)).append
      (relabels_optionClause r "WHERE" s.filter _)
  | delete s => exact .plain_append s.isPlain_head (relabels_optionClause r "WHERE" s.filter k)

end SqlRender
