import SqlRender.Proofs.Layout

/-!
# Proofs/Canon — the tree that a text stands for

Two things about a tree do not show in its text: whether a parenthesis is a node of the tree or was
put in for an operand that binds too loosely, and how a chain of `AND`, or of `OR`, is nested.
`canon` fixes both, every parenthesis a node and every chain nested to the left, and leaves the text
as it is (`Statement.sql_canon`).
-/

namespace SqlRender

open Lexeme

/-! ## Chains -/

/-- The operators whose chains need no parentheses. -/
inductive Connective where
  | and
  | or
  deriving DecidableEq, Repr

namespace Connective

/-- The expression that joins two operands. -/
def expr : Connective → Expr → Expr → Expr
  | .and => .and
  | .or => .or

/-- The binding strength of the operator, and the least of its operands. -/
def level : Connective → Precedence
  | .and => .and
  | .or => .or

/-- The word between two operands. -/
def keyword : Connective → String
  | .and => "AND"
  | .or => "OR"

/-- The operands of a chain, from left to right. -/
def operands : Connective → Expr → List Expr
  | .and, .and left right => operands .and left ++ operands .and right
  | .or, .or left right => operands .or left ++ operands .or right
  | _, e => [e]

/-- The operands of the right chain hung onto the left one. -/
def graft (k : Connective) (left right : Expr) : Expr := (k.operands right).foldl k.expr left

end Connective

/-- An operand in parentheses if it binds looser than `least`. -/
def Expr.operand (least : Precedence) (e : Expr) : Expr :=
  if e.precedence.rank < least.rank then .paren e else e

/-! ## Canonical trees -/

mutual

/-- The expression with every parenthesis a node and every chain nested to the left. -/
def Expr.canon : Expr → Expr
  | .column c => .column c
  | .literal l => .literal l
  | .bind v => .bind v
  | .null => .null
  | .comparison left op right =>
    .comparison (left.canon.operand .atom) op (right.canon.operand .atom)
  | .and left right => Connective.and.graft (left.canon.operand .and) (right.canon.operand .and)
  | .or left right => Connective.or.graft (left.canon.operand .or) (right.canon.operand .or)
  | .not e => .not (e.canon.operand .not)
  | .paren e => .paren e.canon
  | .func ⟨name, distinct, args⟩ => .func ⟨name, distinct, SelectItem.listCanon args⟩
  | .isIn e negated list => .isIn (e.canon.operand .atom) negated (Expr.listCanon list)
  | .isNull e negated => .isNull (e.canon.operand .atom) negated

/-- The canonical forms of a list of expressions. -/
def Expr.listCanon : List Expr → List Expr
  | [] => []
  | e :: rest => e.canon :: Expr.listCanon rest

/-- The entry with its expression canonical. -/
def SelectItem.canon : SelectItem → SelectItem
  | .star => .star
  | .qualifiedStar table => .qualifiedStar table
  | .expr e asName => .expr e.canon asName

/-- The canonical forms of a select list. -/
def SelectItem.listCanon : List SelectItem → List SelectItem
  | [] => []
  | i :: rest => i.canon :: SelectItem.listCanon rest

end

/-- The entry with its expression canonical. -/
def OrderItem.canon (o : OrderItem) : OrderItem := ⟨o.expr.canon, o.direction⟩

/-- The clause with both expressions canonical. -/
def Limit.canon (l : Limit) : Limit := ⟨l.rowcount.canon, l.offset.map Expr.canon⟩

/-- The assignment with its value canonical. -/
def Assignment.canon (a : Assignment) : Assignment := ⟨a.column, a.value.canon⟩

/-- The row with its values canonical. -/
def Row.canon (r : Row) : Row := ⟨r.values.map Expr.canon⟩

/-- The query with every expression in it canonical. -/
def Select.canon (s : Select) : Select :=
  { s with
    columns := s.columns.map SelectItem.canon
    filter := s.filter.map Expr.canon
    groupBy := s.groupBy.map Expr.canon
    having := s.having.map Expr.canon
    orderBy := s.orderBy.map OrderItem.canon
    limit := s.limit.map Limit.canon }

/-- The insertion with its rows canonical. -/
def Insert.canon (s : Insert) : Insert := { s with rows := s.rows.map Row.canon }

/-- The update with its values and its condition canonical. -/
def Update.canon (s : Update) : Update :=
  { s with assignments := s.assignments.map Assignment.canon, filter := s.filter.map Expr.canon }

/-- The deletion with its condition canonical. -/
def Delete.canon (s : Delete) : Delete := { s with filter := s.filter.map Expr.canon }

/-- The statement with every expression in it canonical. -/
def Statement.canon : Statement → Statement
  | .select s => .select s.canon
  | .insert s => .insert s.canon
  | .update s => .update s.canon
  | .delete s => .delete s.canon

theorem Expr.listCanon_eq_map (es : List Expr) : Expr.listCanon es = es.map Expr.canon := by
  induction es with
  | nil => rw [Expr.listCanon]; rfl
  | cons e rest ih => rw [Expr.listCanon, ih]; rfl

theorem SelectItem.listCanon_eq_map (is : List SelectItem) :
    SelectItem.listCanon is = is.map SelectItem.canon := by
  induction is with
  | nil => rw [SelectItem.listCanon]; rfl
  | cons i rest ih => rw [SelectItem.listCanon, ih]; rfl

/-! ## Operands of chains -/

theorem Precedence.rank_le_atom (p : Precedence) : p.rank ≤ Precedence.atom.rank := by
  cases p <;> decide

/-- A parenthesis lifts an operand to the strength that is asked for. -/
theorem Expr.level_le_operand (least : Precedence) (e : Expr) :
    least.rank ≤ (e.operand least).precedence.rank := by
  rw [Expr.operand]
  split
  · exact least.rank_le_atom
  · omega

namespace Connective

/-- The two connectives bind differently, so each is told by its level. -/
theorem level_injective {k k' : Connective} (h : k.level = k'.level) : k = k' := by
  cases k <;> cases k' <;> simp_all [level]

theorem precedence_expr (k : Connective) (left right : Expr) :
    (k.expr left right).precedence = k.level := by
  cases k <;> rfl

/-- The operands of a chain are those of its two halves. -/
theorem operands_expr (k : Connective) (left right : Expr) :
    k.operands (k.expr left right) = k.operands left ++ k.operands right := by
  cases k <;> rw [expr, operands]

/-- An expression of another binding strength is a chain of its own. -/
theorem operands_of_ne {k : Connective} {e : Expr} (h : e.precedence ≠ k.level) :
    k.operands e = [e] := by
  cases k with
  | and =>
    cases e with
    | and left right => exact absurd rfl h
    | _ => rfl
  | or =>
    cases e with
    | or left right => exact absurd rfl h
    | _ => rfl

/-- Chains are built from operands by induction. -/
theorem chain_induction {k : Connective} {motive : Expr → Prop}
    (operand : ∀ e, e.precedence ≠ k.level → motive e)
    (chain : ∀ left right, motive left → motive right → motive (k.expr left right)) (e : Expr) :
    motive e := by
  induction e using Expr.tree_induction with
  | and left right hleft hright =>
    cases k with
    | and => exact chain left right hleft hright
    | or => exact operand _ (by simp [Expr.precedence, level])
  | or left right hleft hright =>
    cases k with
    | and => exact operand _ (by simp [Expr.precedence, level])
    | or => exact chain left right hleft hright
  | _ => exact operand _ (by cases k <;> simp [Expr.precedence, level])

/-- Whatever is no chain is its own operand, so there is always one. -/
theorem operands_ne_nil (k : Connective) (e : Expr) : k.operands e ≠ [] := by
  induction e using chain_induction (k := k) with
  | operand e h =>
    rw [operands_of_ne h]
    exact List.cons_ne_nil _ _
  | chain left right hleft _ =>
    rw [operands_expr]
    exact List.append_ne_nil_of_left_ne_nil hleft _

/-- An operand of a chain is no chain of the same operator. -/
theorem precedence_of_mem {k : Connective} (e : Expr) :
    ∀ x ∈ k.operands e, x.precedence ≠ k.level := by
  induction e using chain_induction (k := k) with
  | operand e h =>
    intro x hx
    rw [operands_of_ne h, List.mem_singleton] at hx
    rwa [hx]
  | chain left right hleft hright =>
    intro x hx
    rw [operands_expr] at hx
    exact (List.mem_append.mp hx).elim (hleft x) (hright x)

/-- Hanging operands onto a chain appends them, unless one is a chain of the same operator
itself. -/
theorem operands_foldl (k : Connective) : ∀ (xs : List Expr) (e : Expr),
    (∀ x ∈ xs, x.precedence ≠ k.level) → k.operands (xs.foldl k.expr e) = k.operands e ++ xs
  | [], e, _ => (List.append_nil _).symm
  | x :: xs, e, h => by
      rw [List.foldl_cons, operands_foldl k xs _ fun y hy => h y (List.mem_cons_of_mem x hy),
        operands_expr, operands_of_ne (h x (by simp)), List.append_assoc, List.singleton_append]

/-- **Grafting keeps the operands.** -/
theorem operands_graft (k : Connective) (left right : Expr) :
    k.operands (k.graft left right) = k.operands left ++ k.operands right :=
  k.operands_foldl _ _ (precedence_of_mem right)

/-- A grafted chain is still a chain of its operator. -/
theorem precedence_graft (k : Connective) (left right : Expr) :
    (k.graft left right).precedence = k.level := by
  have hfold : ∀ (xs : List Expr) (e : Expr), xs ≠ [] →
      (xs.foldl k.expr e).precedence = k.level := by
    intro xs
    induction xs with
    | nil => exact fun _ h => absurd rfl h
    | cons x xs ih =>
      intro e _
      cases xs with
      | nil => exact k.precedence_expr e x
      | cons y ys => exact ih (k.expr e x) (List.cons_ne_nil _ _)
  exact hfold _ _ (k.operands_ne_nil right)

end Connective

/-- A canonical expression binds as the original does. -/
theorem Expr.precedence_canon (e : Expr) : e.canon.precedence = e.precedence := by
  cases e with
  | and left right =>
    rw [Expr.canon]
    exact Connective.and.precedence_graft _ _
  | or left right =>
    rw [Expr.canon]
    exact Connective.or.precedence_graft _ _
  | func f =>
    obtain ⟨name, distinct, args⟩ := f
    rw [Expr.canon]
    rfl
  | _ => simp only [Expr.canon, Expr.precedence]

/-! ## The text of a chain -/

namespace Connective

/-- The operator between its operands. -/
def separator (k : Connective) : List Lexeme := [.blank, word k.keyword, .blank]

/-- Operands with the operator between neighbours. -/
def joined (k : Connective) : List Expr → List Lexeme
  | [] => []
  | x :: xs => x.lexemes ++ xs.flatMap fun y => k.separator ++ y.lexemes

/-- Two chains that meet have the operator between them. -/
theorem joined_append (k : Connective) {xs ys : List Expr} (hxs : xs ≠ []) (hys : ys ≠ []) :
    k.joined (xs ++ ys) = k.joined xs ++ k.separator ++ k.joined ys := by
  obtain ⟨x, xs, rfl⟩ := List.exists_cons_of_ne_nil hxs
  obtain ⟨y, ys, rfl⟩ := List.exists_cons_of_ne_nil hys
  simp [joined]

/-- No operand of the chain is written in parentheses. -/
def Explicit (k : Connective) (e : Expr) : Prop :=
  ∀ x ∈ k.operands e, k.level.rank ≤ x.precedence.rank

/-- A chain is written as its two operands, in the parentheses that they need. -/
theorem lexemes_expr (k : Connective) (left right : Expr) :
    (k.expr left right).lexemes = operandLexemes left k.level left.lexemes ++ k.separator ++
      operandLexemes right k.level right.lexemes := by
  cases k <;> rw [expr, Expr.lexemes] <;> rfl

/-- An explicit chain binds at least as tightly as its operator. -/
theorem Explicit.level_le {k : Connective} {e : Expr} (h : k.Explicit e) :
    k.level.rank ≤ e.precedence.rank := by
  by_cases he : e.precedence = k.level
  · exact Nat.le_of_eq (congrArg Precedence.rank he.symm)
  · exact h e (by rw [operands_of_ne he]; simp)

/-- **An explicit chain is written as its operands.** -/
theorem Explicit.lexemes_eq {k : Connective} (e : Expr) :
    k.Explicit e → e.lexemes = k.joined (k.operands e) := by
  induction e using chain_induction (k := k) with
  | operand e h =>
    intro _
    rw [operands_of_ne h, joined, List.flatMap_nil, List.append_nil]
  | chain left right hleft hright =>
    intro h
    have hl : k.Explicit left := fun x hx => h x (by rw [operands_expr]; simp [hx])
    have hr : k.Explicit right := fun x hx => h x (by rw [operands_expr]; simp [hx])
    rw [lexemes_expr, operandLexemes, operandLexemes, if_neg (Nat.not_lt.mpr hl.level_le),
      if_neg (Nat.not_lt.mpr hr.level_le), operands_expr,
      joined_append k (k.operands_ne_nil _) (k.operands_ne_nil _), hleft hl, hright hr]

/-- Grafting adds no operand that needs parentheses. -/
theorem Explicit.graft {k : Connective} {left right : Expr} (hl : k.Explicit left)
    (hr : k.Explicit right) : k.Explicit (k.graft left right) := by
  intro x hx
  rw [operands_graft] at hx
  exact (List.mem_append.mp hx).elim (hl x) (hr x)

/-- **Grafting leaves the text as it is.** This is where two trees come to share one text. -/
theorem lexemes_graft {k : Connective} {left right : Expr} (hl : k.Explicit left)
    (hr : k.Explicit right) :
    (k.graft left right).lexemes = left.lexemes ++ k.separator ++ right.lexemes := by
  rw [(hl.graft hr).lexemes_eq, operands_graft,
    joined_append k (k.operands_ne_nil _) (k.operands_ne_nil _), ← hl.lexemes_eq, ← hr.lexemes_eq]

end Connective

/-! ## Canonical trees keep the text -/

/-- Parentheses that are nodes are written like those that an operator asks for. -/
theorem Expr.lexemes_operand (e : Expr) (least : Precedence) :
    (e.operand least).lexemes = operandLexemes e least e.lexemes := by
  rw [Expr.operand, operandLexemes]
  split
  · rw [Expr.lexemes]
  · rfl

/-- The canonical form of either connective, in one equation. -/
theorem Connective.canon_expr (k : Connective) (left right : Expr) :
    (k.expr left right).canon
      = k.graft (left.canon.operand k.level) (right.canon.operand k.level) := by
  cases k <;> rw [Connective.expr, Expr.canon] <;> rfl

/-- Parentheses make no chain of the operator. -/
theorem Connective.precedence_operand_ne {k : Connective} {e : Expr} (h : e.precedence ≠ k.level) :
    (e.operand k.level).precedence ≠ k.level := by
  rw [Expr.operand]
  split
  · cases k <;> simp [Expr.precedence, Connective.level]
  · exact h

/-- The operands of a canonical chain carry their parentheses. -/
theorem Connective.explicit_canon (k : Connective) (e : Expr) :
    k.Explicit (e.canon.operand k.level) := by
  induction e using Connective.chain_induction (k := k) with
  | operand e h =>
    have hne : (e.canon.operand k.level).precedence ≠ k.level :=
      precedence_operand_ne (by rwa [e.precedence_canon])
    intro x hx
    rw [Connective.operands_of_ne hne, List.mem_singleton] at hx
    rw [hx]
    exact e.canon.level_le_operand k.level
  | chain left right hleft hright =>
    rw [Expr.operand, Expr.precedence_canon, k.precedence_expr, if_neg (Nat.lt_irrefl _),
      k.canon_expr]
    exact hleft.graft hright

/-- The operand of a canonical expression has the text of the original operand. -/
theorem Expr.lexemes_operand_canon {e : Expr} (h : e.canon.lexemes = e.lexemes)
    (least : Precedence) :
    (e.canon.operand least).lexemes = operandLexemes e least e.lexemes := by
  rw [Expr.lexemes_operand, operandLexemes, operandLexemes, e.precedence_canon, h]

/-- A canonical chain has the text of the chain if its operands have theirs. -/
theorem Connective.lexemes_canon_expr (k : Connective) {left right : Expr}
    (hleft : left.canon.lexemes = left.lexemes) (hright : right.canon.lexemes = right.lexemes) :
    (k.expr left right).canon.lexemes = (k.expr left right).lexemes := by
  rw [k.canon_expr, Connective.lexemes_graft (k.explicit_canon left) (k.explicit_canon right),
    k.lexemes_expr, Expr.lexemes_operand_canon hleft, Expr.lexemes_operand_canon hright]

/-- An operand that is put in parentheses needs no more. -/
theorem operandLexemes_operand (e : Expr) (least : Precedence) (ls : List Lexeme) :
    operandLexemes (e.operand least) least ls = ls :=
  if_neg (Nat.not_lt.mpr (e.level_le_operand least))

/-- Lists of canonical trees are written as the originals. -/
theorem map_lexemes_canon {α : Type} {canon : α → α} {lexemes : α → List Lexeme} {as : List α}
    (h : ∀ a ∈ as, lexemes (canon a) = lexemes a) :
    (as.map canon).map lexemes = as.map lexemes := by
  rw [List.map_map]
  exact List.map_congr_left h

/-- What an entry adds to its expression, for the induction over expressions. -/
theorem SelectItem.lexemes_canon_of {i : SelectItem}
    (h : ∀ e asName, i = .expr e asName → e.canon.lexemes = e.lexemes) :
    i.canon.lexemes = i.lexemes := by
  cases i with
  | star => rw [SelectItem.canon]
  | qualifiedStar table => rw [SelectItem.canon]
  | expr e asName => rw [SelectItem.canon, SelectItem.lexemes, SelectItem.lexemes, h e asName rfl]

/-- **A canonical expression is written as the original.** -/
theorem Expr.lexemes_canon (e : Expr) : e.canon.lexemes = e.lexemes := by
  induction e using Expr.tree_induction with
  | column c => rw [Expr.canon]
  | literal l => rw [Expr.canon]
  | bind v => rw [Expr.canon]
  | null => rw [Expr.canon]
  | comparison left op right hleft hright =>
    rw [Expr.canon, Expr.lexemes, Expr.lexemes, operandLexemes_operand, operandLexemes_operand,
      Expr.lexemes_operand_canon hleft, Expr.lexemes_operand_canon hright]
  | and left right hleft hright =>
    exact Connective.and.lexemes_canon_expr hleft hright
  | or left right hleft hright =>
    exact Connective.or.lexemes_canon_expr hleft hright
  | not e he =>
    rw [Expr.canon, Expr.lexemes, Expr.lexemes, operandLexemes_operand,
      Expr.lexemes_operand_canon he]
  | paren e he => rw [Expr.canon, Expr.lexemes, Expr.lexemes, he]
  | func name distinct args hargs =>
    have hitems := map_lexemes_canon fun i hi => SelectItem.lexemes_canon_of (i := i)
      fun e asName hie => hargs e asName (hie ▸ hi)
    rw [Expr.canon, Expr.lexemes, Expr.lexemes, FuncCall.lexemes, FuncCall.lexemes,
      SelectItem.lexemeLists_eq_map, SelectItem.lexemeLists_eq_map, SelectItem.listCanon_eq_map,
      hitems]
  | isIn e negated list he hlist =>
    have hitems := map_lexemes_canon hlist
    rw [Expr.canon, Expr.lexemes, Expr.lexemes, Expr.lexemeLists_eq_map, Expr.lexemeLists_eq_map,
      Expr.listCanon_eq_map, hitems, operandLexemes_operand, Expr.lexemes_operand_canon he]
  | isNull e negated he =>
    rw [Expr.canon, Expr.lexemes, Expr.lexemes, operandLexemes_operand,
      Expr.lexemes_operand_canon he]

theorem SelectItem.lexemes_canon (i : SelectItem) : i.canon.lexemes = i.lexemes :=
  SelectItem.lexemes_canon_of fun e _ _ => e.lexemes_canon

theorem OrderItem.lexemes_canon (o : OrderItem) : o.canon.lexemes = o.lexemes := by
  rw [OrderItem.lexemes, OrderItem.lexemes, OrderItem.canon, Expr.lexemes_canon]

theorem Limit.lexemes_canon (l : Limit) : l.canon.lexemes = l.lexemes := by
  rw [Limit.lexemes, Limit.lexemes, Limit.canon, Expr.lexemes_canon]
  cases l.offset with
  | none => rfl
  | some e => rw [Option.map_some, Option.elim, Option.elim, e.lexemes_canon]

theorem Assignment.lexemes_canon (a : Assignment) : a.canon.lexemes = a.lexemes := by
  rw [Assignment.lexemes, Assignment.lexemes, Assignment.canon, Expr.lexemes_canon]

theorem Row.lexemes_canon (r : Row) : r.canon.lexemes = r.lexemes := by
  rw [Row.lexemes, Row.lexemes, Row.canon, map_lexemes_canon fun a _ => Expr.lexemes_canon a]

theorem optionClause_canon (keyword : String) (e : Option Expr) :
    optionClause keyword (e.map Expr.canon) = optionClause keyword e := by
  cases e with
  | none => rfl
  | some e =>
    rw [Option.map_some, optionClause, optionClause, Option.elim, Option.elim, e.lexemes_canon]

/-- **A canonical statement is written as the original.** -/
theorem Statement.lexemes_canon (s : Statement) : s.canon.lexemes = s.lexemes := by
  cases s with
  | select s =>
    have hlimit : ((s.limit.map Limit.canon).elim [] fun l => .blank :: l.lexemes)
        = s.limit.elim [] fun l => .blank :: l.lexemes := by
      cases s.limit with
      | none => rfl
      | some l => rw [Option.map_some, Option.elim, Option.elim, l.lexemes_canon]
    simp only [Statement.canon, Statement.lexemes, Select.lexemes, Select.canon, hlimit,
      map_lexemes_canon fun a _ => SelectItem.lexemes_canon a,
      map_lexemes_canon fun a _ => Expr.lexemes_canon a,
      map_lexemes_canon fun a _ => OrderItem.lexemes_canon a, optionClause_canon]
  | insert s =>
    simp only [Statement.canon, Statement.lexemes, Insert.lexemes, Insert.canon,
      map_lexemes_canon fun a _ => Row.lexemes_canon a]
  | update s =>
    simp only [Statement.canon, Statement.lexemes, Update.lexemes, Update.canon,
      map_lexemes_canon fun a _ => Assignment.lexemes_canon a, optionClause_canon]
  | delete s =>
    simp only [Statement.canon, Statement.lexemes, Delete.lexemes, Delete.canon, optionClause_canon]

/-- **A statement and its canonical form have one text.** -/
theorem Statement.sql_canon (s : Statement) : s.canon.sql = s.sql := by
  rw [Statement.sql, Statement.sql, s.lexemes_canon]

end SqlRender
