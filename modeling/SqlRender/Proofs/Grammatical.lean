import SqlRender.Proofs.Faithful
import SqlRender.Proofs.Grammar

/-!
# Proofs/Grammatical — which valid statements are written in the grammar

A statement without violations has an item wherever the grammar wants one, with one exception: no
check looks at the arguments of a call that says `DISTINCT`. Its text is grammatical exactly if each
of these calls has an argument (`Statement.grammatical_sql_iff`). One direction derives every
operand in its stratum; the other finds the tokens of an offending call among those of the
statement, where no derivation puts them.
-/

namespace SqlRender

open Lexeme

/-! ## The calls of a tree -/

mutual

/-- The function calls in an expression, at any depth. -/
def Expr.functions : Expr → List FuncCall
  | .column _ | .literal _ | .bind _ | .null => []
  | .comparison left _ right | .and left right | .or left right => left.functions ++ right.functions
  | .not e | .paren e | .isNull e _ => e.functions
  | .func ⟨name, distinct, args⟩ => ⟨name, distinct, args⟩ :: SelectItem.listFunctions args
  | .isIn e _ list => e.functions ++ Expr.listFunctions list

/-- The function calls in a list of expressions. -/
def Expr.listFunctions : List Expr → List FuncCall
  | [] => []
  | e :: rest => e.functions ++ Expr.listFunctions rest

/-- The function calls in an entry of a select list. -/
def SelectItem.functions : SelectItem → List FuncCall
  | .star | .qualifiedStar _ => []
  | .expr e _ => e.functions

/-- The function calls in a select list. -/
def SelectItem.listFunctions : List SelectItem → List FuncCall
  | [] => []
  | i :: rest => i.functions ++ SelectItem.listFunctions rest

end

/-- A call in a list is a call in one of its expressions. -/
theorem Expr.mem_listFunctions {f : FuncCall} {es : List Expr} :
    f ∈ Expr.listFunctions es ↔ ∃ e ∈ es, f ∈ e.functions := by
  induction es with
  | nil => simp [Expr.listFunctions]
  | cons e es ih => simp [Expr.listFunctions, ih]

theorem SelectItem.mem_functions {f : FuncCall} {i : SelectItem} :
    f ∈ i.functions ↔ ∃ e asName, i = .expr e asName ∧ f ∈ e.functions := by
  cases i <;> simp [SelectItem.functions]

theorem SelectItem.mem_listFunctions {f : FuncCall} {is : List SelectItem} :
    f ∈ SelectItem.listFunctions is ↔ ∃ e asName, .expr e asName ∈ is ∧ f ∈ e.functions := by
  induction is with
  | nil => simp [SelectItem.listFunctions]
  | cons i is ih =>
    rw [SelectItem.listFunctions, List.mem_append, ih, SelectItem.mem_functions]
    simp only [List.mem_cons]
    grind

/-- The expression of an entry; a star has none. -/
def SelectItem.expr? : SelectItem → Option Expr
  | .star | .qualifiedStar _ => none
  | .expr e _ => some e

/-- The expressions that stand in a statement, in writing order. -/
def Statement.exprs : Statement → List Expr
  | .select s =>
    s.columns.filterMap SelectItem.expr? ++ s.filter.toList ++ s.groupBy ++ s.having.toList ++
    s.orderBy.map OrderItem.expr ++ s.limit.elim [] fun l => l.rowcount :: l.offset.toList
  | .insert s => s.rows.flatMap Row.values
  | .update s => s.assignments.map Assignment.value ++ s.filter.toList
  | .delete s => s.filter.toList

/-- The function calls in a statement, at any depth. -/
def Statement.functions (s : Statement) : List FuncCall := s.exprs.flatMap Expr.functions

/-- A call has an argument where it says `DISTINCT`. -/
def FuncCall.Complete (f : FuncCall) : Prop := f.distinct = true → f.args ≠ []

/-! ## Every operand in its stratum -/

section Derivations

variable {p q : Phrase} {e : Expr}

/-- An operand is a phrase of the level that its operator asks for, if need be by its
parentheses. -/
theorem Expr.derives_operand (h : Derives (.expr e.precedence) (tokens e.lexemes))
    (least : Precedence) : Derives (.expr least) (tokens (operandLexemes e least e.lexemes)) := by
  rw [operandLexemes]
  split
  case isTrue =>
    have hparens :
        Derives (.parens (.expr .or)) (.punct '(' :: (tokens e.lexemes ++ [.punct ')'])) :=
      .parens (.tighter (Nat.zero_le _) h)
    rw [tokens_append, tokens_append]
    exact .tighter least.rank_le_atom (.group hparens)
  case isFalse hle => exact .tighter (Nat.not_lt.mp hle) h

/-- Items with commas between them are a list, if there is one. -/
theorem derives_commaList {α : Type} {lexemes : α → List Lexeme} : ∀ {as : List α}, as ≠ [] →
    (∀ a ∈ as, Derives p (tokens (lexemes a))) →
    Derives (.list p) (tokens (commaList (as.map lexemes)))
  | [a], _, h => .single (h a (by simp))
  | a :: b :: as, _, h => by
      have hrest : Derives (.list p) (tokens (commaList ((b :: as).map lexemes))) :=
        derives_commaList (by simp) fun c hc => h c (List.mem_cons_of_mem a hc)
      have hts : tokens (commaList ((a :: b :: as).map lexemes))
          = tokens (lexemes a) ++ .punct ',' :: tokens (commaList ((b :: as).map lexemes)) := by
        simp [commaList]
      rw [hts]
      exact .comma (h a (by simp)) hrest

theorem Ident.derives (i : Ident) : Derives .ident (tokens [i.lexeme]) := .ident i.name

theorem derives_qualified (qualifier : Option Ident) (name : Ident) :
    Derives .name (tokens (qualifiedLexemes qualifier name)) := by
  cases qualifier with
  | none => exact .bare name.derives
  | some q => exact .qualified q.derives name.derives

theorem derives_alias (asName : Option Ident) :
    Derives (.optional .asName) (tokens (aliasLexemes asName)) := by
  cases asName with
  | none => exact .absent
  | some a => exact .present (.asName a.derives)

theorem Literal.isLiteral_token (l : Literal) : l.token.isLiteral = true := by cases l <;> rfl

/-- Two atoms with an operator between them are a predicate. -/
theorem derives_comparison {ts us : List Token} (op : Comparison)
    (hts : Derives (.expr .atom) ts) (hus : Derives (.expr .atom) us) :
    Derives (.expr .predicate) (ts ++ (tokens op.lexemes ++ us)) := by
  cases op with
  | like => exact .like false hts hus
  | notLike => exact .like true hts hus
  | _ => exact .comparison (by decide) hts hus

/-- An entry is derivable if its expression is. -/
theorem SelectItem.derives_of {i : SelectItem}
    (h : ∀ e asName, i = .expr e asName → Derives (.expr .or) (tokens e.lexemes)) :
    Derives .item (tokens i.lexemes) := by
  cases i with
  | star =>
    rw [SelectItem.lexemes]
    exact .star
  | qualifiedStar table =>
    rw [SelectItem.lexemes]
    exact .qualifiedStar table.derives
  | expr e asName =>
    rw [SelectItem.lexemes, tokens_append]
    exact .item (h e asName rfl) (derives_alias asName)

/-- A complete call is an atom: behind `DISTINCT` there is an argument. -/
theorem derives_call (name : Ident) {distinct : Bool} {args : List SelectItem}
    (hcomplete : FuncCall.Complete ⟨name, distinct, args⟩)
    (h : ∀ e asName, .expr e asName ∈ args → Derives (.expr .or) (tokens e.lexemes)) :
    Derives (.expr .atom) (tokens (FuncCall.lexemes ⟨name, distinct, args⟩)) := by
  have hitems : args ≠ [] →
      Derives (.list .item) (tokens (commaList (args.map SelectItem.lexemes))) := fun hne =>
    derives_commaList hne fun i hi => SelectItem.derives_of fun e asName hie =>
      h e asName (hie ▸ hi)
  have harguments : Derives .arguments
      (distinctTokens distinct ++ tokens (commaList (args.map SelectItem.lexemes))) := by
    cases distinct with
    | true => exact .distinctArguments (hitems (hcomplete rfl))
    | false =>
      by_cases hargs : args = []
      · subst hargs
        exact .arguments .absent
      · exact .arguments (.present (hitems hargs))
  have hts : tokens (FuncCall.lexemes ⟨name, distinct, args⟩)
      = tokens [name.lexeme] ++ .punct '(' :: (distinctTokens distinct ++
          tokens (commaList (args.map SelectItem.lexemes)) ++ [.punct ')']) := by
    rw [FuncCall.lexemes, SelectItem.lexemeLists_eq_map]
    simp [Ident.lexeme, tokens_distinct]
  rw [hts]
  exact .call name.derives (.parens harguments)

/-- Two operands with a connective between them are a chain. -/
theorem Connective.derives (k : Connective) {left right : Expr}
    (hleft : Derives (.expr left.precedence) (tokens left.lexemes))
    (hright : Derives (.expr right.precedence) (tokens right.lexemes)) :
    Derives (.expr k.level) (tokens (k.expr left right).lexemes) := by
  have hts : tokens (k.expr left right).lexemes
      = tokens (operandLexemes left k.level left.lexemes) ++ .keyword k.keyword ::
          tokens (operandLexemes right k.level right.lexemes) := by
    rw [k.lexemes_expr]
    simp [Connective.separator]
  rw [hts]
  exact (Expr.derives_operand hleft k.level).chain_append k
    (Expr.derives_operand hright k.level) rfl

/-- **Every valid expression is derivable at its own binding strength**, if the calls in it are
complete. -/
theorem Expr.derives (e : Expr) : e.violation? = none → (∀ f ∈ e.functions, f.Complete) →
    Derives (.expr e.precedence) (tokens e.lexemes) := by
  induction e using Expr.tree_induction with
  | column c =>
    intro _ _
    rw [Expr.lexemes]
    exact .column (derives_qualified c.qualifier c.name)
  | literal l =>
    intro _ _
    rw [Expr.lexemes]
    exact .literal l.isLiteral_token
  | bind v =>
    intro _ _
    rw [Expr.lexemes]
    exact .literal rfl
  | null =>
    intro _ _
    rw [Expr.lexemes]
    exact .null
  | comparison left op right hleft hright =>
    intro h hf
    rw [Expr.violation?, Option.or_eq_none_iff] at h
    rw [Expr.functions, List.forall_mem_append] at hf
    have hts : tokens (Expr.comparison left op right).lexemes
        = tokens (operandLexemes left .atom left.lexemes) ++
            (tokens op.lexemes ++ tokens (operandLexemes right .atom right.lexemes)) := by
      rw [Expr.lexemes]
      simp
    rw [hts]
    exact derives_comparison op (derives_operand (hleft h.1 hf.1) .atom)
      (derives_operand (hright h.2 hf.2) .atom)
  | and left right hleft hright =>
    intro h hf
    rw [Expr.violation?, Option.or_eq_none_iff] at h
    rw [Expr.functions, List.forall_mem_append] at hf
    exact Connective.and.derives (hleft h.1 hf.1) (hright h.2 hf.2)
  | or left right hleft hright =>
    intro h hf
    rw [Expr.violation?, Option.or_eq_none_iff] at h
    rw [Expr.functions, List.forall_mem_append] at hf
    exact Connective.or.derives (hleft h.1 hf.1) (hright h.2 hf.2)
  | not e he =>
    intro h hf
    rw [Expr.violation?] at h
    rw [Expr.functions] at hf
    rw [Expr.lexemes, tokens_append]
    exact .not (derives_operand (he h hf) .not)
  | paren e he =>
    intro h hf
    rw [Expr.violation?] at h
    rw [Expr.functions] at hf
    rw [Expr.lexemes, tokens_append, tokens_append]
    exact .group (.parens (.tighter (Nat.zero_le _) (he h hf)))
  | func name distinct args hargs =>
    intro h hf
    rw [Expr.violation?, FuncCall.violation?] at h
    rw [Expr.functions, List.forall_mem_cons] at hf
    rw [Expr.lexemes]
    refine derives_call name hf.1 fun e asName hmem => ?_
    have he := SelectItem.valid_of_mem h _ hmem
    rw [SelectItem.violation?] at he
    exact .tighter (Nat.zero_le _) (hargs e asName hmem he fun f hfe =>
      hf.2 f (SelectItem.mem_listFunctions.mpr ⟨e, asName, hmem, hfe⟩))
  | isIn e negated list he hlist =>
    intro h hf
    rw [Expr.violation?, Option.or_eq_none_iff, Option.or_eq_none_iff] at h
    rw [Expr.functions, List.forall_mem_append] at hf
    have hts : tokens (Expr.isIn e negated list).lexemes
        = tokens (operandLexemes e .atom e.lexemes) ++ (notTokens negated ++ .keyword "IN" ::
            (.punct '(' :: (tokens (commaList (list.map Expr.lexemes)) ++ [.punct ')']))) := by
      rw [Expr.lexemes, Expr.lexemeLists_eq_map]
      cases negated <;> simp [notTokens]
    rw [hts]
    refine .isIn negated (derives_operand (he h.1.1 hf.1) .atom) (.parens ?_)
    refine derives_commaList (ne_nil_of_nonempty h.1.2) fun x hx => ?_
    exact .tighter (Nat.zero_le _) (hlist x hx (Expr.valid_of_mem h.2 x hx) fun f hfx =>
      hf.2 f (Expr.mem_listFunctions.mpr ⟨x, hx, hfx⟩))
  | isNull e negated he =>
    intro h hf
    rw [Expr.violation?] at h
    rw [Expr.functions] at hf
    have hts : tokens (Expr.isNull e negated).lexemes
        = tokens (operandLexemes e .atom e.lexemes) ++
            .keyword "IS" :: (notTokens negated ++ [.keyword "NULL"]) := by
      rw [Expr.lexemes]
      cases negated <;> simp [notTokens]
    rw [hts]
    exact .isNull negated (derives_operand (he h hf) .atom)

/-! ## Clauses -/

/-- A list clause is one if its keywords begin one; an empty list leaves it out. -/
theorem derives_listClause {α : Type} {lexemes : α → List Lexeme} {keywords : List Lexeme}
    (hclause : ∀ {ts}, Derives (.list p) ts → Derives q (tokens keywords ++ ts)) {as : List α}
    (h : ∀ a ∈ as, Derives p (tokens (lexemes a))) :
    Derives (.optional q) (tokens (listClause keywords (as.map lexemes))) := by
  rw [listClause]
  split
  case isTrue => exact .absent
  case isFalse hne =>
    rw [tokens_append]
    exact .present (hclause (derives_commaList (fun has => hne (by rw [has]; rfl)) h))

/-- A clause is one if its keyword begins one; it may be left out. -/
theorem derives_optionClause {w : String}
    (hclause : ∀ {ts}, Derives (.expr .or) ts → Derives q (.keyword w :: ts)) {e : Option Expr}
    (h : ∀ x ∈ e.toList, Derives (.expr .or) (tokens x.lexemes)) :
    Derives (.optional q) (tokens (optionClause w e)) := by
  cases e with
  | none => exact .absent
  | some e => exact .present (hclause (h e (by simp)))

theorem derives_filter {e : Option Expr}
    (h : ∀ x ∈ e.toList, Derives (.expr .or) (tokens x.lexemes)) :
    Derives (.optional .filter) (tokens (optionClause "WHERE" e)) := derives_optionClause .filter h

theorem TableExpr.derives (t : TableExpr) : Derives .table (tokens t.lexemes) := by
  rw [TableExpr.lexemes, tokens_append]
  exact .table (derives_qualified _ _) (derives_alias t.asName)

theorem OrderItem.derives {o : OrderItem} (h : Derives (.expr .or) (tokens o.expr.lexemes)) :
    Derives .order (tokens o.lexemes) := by
  rw [OrderItem.lexemes, tokens_append]
  split
  · exact .descending h
  · rw [tokens_nil, List.append_nil]
    exact .ascending h

theorem Limit.derives {l : Limit} (hrowcount : Derives (.expr .or) (tokens l.rowcount.lexemes))
    (hoffset : ∀ x ∈ l.offset.toList, Derives (.expr .or) (tokens x.lexemes)) :
    Derives .limit (tokens l.lexemes) := by
  have hts : tokens l.lexemes
      = .keyword "LIMIT" ::
        (tokens l.rowcount.lexemes ++ tokens (optionClause "OFFSET" l.offset)) := by
    rw [Limit.lexemes]
    simp [optionClause]
  rw [hts]
  exact .limit hrowcount (derives_optionClause .offset hoffset)

/-- Values in parentheses are a row, if there is one. -/
theorem Row.derives {r : Row} (hne : r.values ≠ [])
    (h : ∀ e ∈ r.values, Derives (.expr .or) (tokens e.lexemes)) :
    Derives (.parens (.list (.expr .or))) (tokens r.lexemes) := by
  rw [Row.lexemes, tokens_append, tokens_append]
  exact .parens (derives_commaList hne h)

theorem Assignment.derives {a : Assignment} (h : Derives (.expr .or) (tokens a.value.lexemes)) :
    Derives .assignment (tokens a.lexemes) := by
  have hts : tokens a.lexemes = tokens a.column.lexemes ++ .op "=" :: tokens a.value.lexemes := by
    rw [Assignment.lexemes]
    simp
  rw [hts]
  exact .assignment (derives_qualified _ _) h

theorem derives_columns (is : List Ident) :
    Derives (.optional (.parens (.list .ident))) (tokens (columnLexemes is)) := by
  rw [columnLexemes]
  split
  case isTrue => exact .absent
  case isFalse hne =>
    rw [tokens_append, tokens_append]
    exact .present (.parens (derives_commaList (fun his => hne (by rw [his]; rfl))
      fun i _ => i.derives))

/-! ## Statements -/

/-- A query over expressions of the grammar is a statement of the grammar, if it has a column. -/
theorem Select.derives {s : Select} (hcolumns : s.columns ≠ [])
    (h : ∀ e ∈ (Statement.select s).exprs, Derives (.expr .or) (tokens e.lexemes)) :
    Derives .statement (tokens s.lexemes) := by
  simp only [Statement.exprs, List.forall_mem_append] at h
  obtain ⟨⟨⟨⟨⟨hitems, hfilter⟩, hgroupBy⟩, hhaving⟩, horderBy⟩, hlimit⟩ := h
  have hlimitClause : Derives (.optional .limit)
      (tokens (s.limit.elim [] fun l => Lexeme.blank :: l.lexemes)) := by
    cases hl : s.limit with
    | none => exact .absent
    | some l =>
      rw [hl, Option.elim_some, List.forall_mem_cons] at hlimit
      exact .present (Limit.derives hlimit.1 hlimit.2)
  have hts : tokens s.lexemes = .keyword "SELECT" :: (distinctTokens s.distinct ++
      tokens (commaList (s.columns.map SelectItem.lexemes)) ++
      tokens (listClause [.blank, word "FROM", .blank] (s.tables.map TableExpr.lexemes)) ++
      tokens (optionClause "WHERE" s.filter) ++
      tokens (listClause [.blank, word "GROUP", .blank, word "BY", .blank]
        (s.groupBy.map Expr.lexemes)) ++
      tokens (optionClause "HAVING" s.having) ++
      tokens (listClause [.blank, word "ORDER", .blank, word "BY", .blank]
        (s.orderBy.map OrderItem.lexemes)) ++
      tokens (s.limit.elim [] fun l => Lexeme.blank :: l.lexemes)) := by
    rw [Select.lexemes]
    simp [tokens_distinct]
  rw [hts]
  refine .select s.distinct (derives_commaList hcolumns fun i hi => ?_)
    (derives_listClause .tables fun t _ => t.derives) (derives_filter hfilter)
    (derives_listClause .groupBy hgroupBy) (derives_optionClause .having hhaving)
    (derives_listClause .orderBy fun o ho => OrderItem.derives ?_) hlimitClause
  · refine SelectItem.derives_of fun e asName hie => hitems e ?_
    exact List.mem_filterMap.mpr ⟨i, hi, by rw [hie]; rfl⟩
  · exact horderBy o.expr (List.mem_map_of_mem ho)

/-- An insertion over expressions of the grammar is a statement of the grammar, if it has a row and
no row is empty. -/
theorem Insert.derives {s : Insert} (hrows : s.rows ≠ []) (hvalues : ∀ r ∈ s.rows, r.values ≠ [])
    (h : ∀ e ∈ (Statement.insert s).exprs, Derives (.expr .or) (tokens e.lexemes)) :
    Derives .statement (tokens s.lexemes) := by
  have hts : tokens s.lexemes = .keyword "INSERT" :: .keyword "INTO" :: (tokens s.table.lexemes ++
      tokens (columnLexemes s.columns) ++
      .keyword "VALUES" :: tokens (commaList (s.rows.map Row.lexemes))) := by
    rw [Insert.lexemes, columnLexemes]
    simp
  rw [hts]
  refine .insert (derives_qualified _ _) (derives_columns s.columns)
    (derives_commaList hrows fun r hr => Row.derives (hvalues r hr) fun e he => ?_)
  exact h e (List.mem_flatMap.mpr ⟨r, hr, he⟩)

theorem Update.derives {s : Update} (hassignments : s.assignments ≠ [])
    (h : ∀ e ∈ (Statement.update s).exprs, Derives (.expr .or) (tokens e.lexemes)) :
    Derives .statement (tokens s.lexemes) := by
  simp only [Statement.exprs, List.forall_mem_append] at h
  have hts : tokens s.lexemes = .keyword "UPDATE" :: (tokens s.table.lexemes ++ .keyword "SET" ::
      (tokens (commaList (s.assignments.map Assignment.lexemes)) ++
        tokens (optionClause "WHERE" s.filter))) := by
    rw [Update.lexemes]
    simp
  rw [hts]
  refine .update (derives_qualified _ _)
    (derives_commaList hassignments fun a ha => Assignment.derives ?_) (derives_filter h.2)
  exact h.1 a.value (List.mem_map_of_mem ha)

theorem Delete.derives {s : Delete}
    (h : ∀ e ∈ (Statement.delete s).exprs, Derives (.expr .or) (tokens e.lexemes)) :
    Derives .statement (tokens s.lexemes) := by
  have hts : tokens s.lexemes = .keyword "DELETE" :: .keyword "FROM" :: (tokens s.table.lexemes ++
      tokens (optionClause "WHERE" s.filter)) := by
    rw [Delete.lexemes]
    simp
  rw [hts]
  exact .delete (derives_qualified _ _) (derives_filter h)

end Derivations

/-- The expressions of a valid statement are valid. -/
theorem Statement.valid_of_mem {s : Statement} (h : s.violation? = none) :
    ∀ e ∈ s.exprs, e.violation? = none := by
  have hoption : ∀ {o : Option Expr}, o.bind Expr.violation? = none →
      ∀ e ∈ o.toList, e.violation? = none := by
    intro o ho e he
    rw [Option.mem_toList.mp he] at ho
    exact ho
  cases s with
  | select s =>
    simp only [Statement.violation?, Select.violation?, Option.or_eq_none_iff,
      List.findSome?_eq_none_iff] at h
    obtain ⟨⟨⟨⟨⟨⟨_, hcolumns⟩, hfilter⟩, hgroupBy⟩, hhaving⟩, horderBy⟩, hlimit⟩ := h
    simp only [Statement.exprs, List.forall_mem_append]
    refine ⟨⟨⟨⟨⟨fun e he => ?_, hoption hfilter⟩, Expr.valid_of_mem hgroupBy⟩, hoption hhaving⟩,
      List.forall_mem_map.mpr horderBy⟩, ?_⟩
    · obtain ⟨i, hi, hie⟩ := List.mem_filterMap.mp he
      have hvalid := SelectItem.valid_of_mem hcolumns i hi
      cases i with
      | star | qualifiedStar => exact absurd hie (by simp [SelectItem.expr?])
      | expr x asName =>
        rw [← Option.some.inj hie]
        rwa [SelectItem.violation?] at hvalid
    · cases hl : s.limit with
      | none => simp
      | some l =>
        rw [hl, Option.bind_some, Limit.violation?, Option.or_eq_none_iff] at hlimit
        exact List.forall_mem_cons.mpr ⟨hlimit.1, hoption hlimit.2⟩
  | insert s =>
    simp only [Statement.violation?, Insert.violation?, Option.or_eq_none_iff,
      List.findSome?_eq_none_iff] at h
    intro e he
    obtain ⟨r, hr, her⟩ := List.mem_flatMap.mp he
    have hrow := h.2 r hr
    rw [Row.violation?, Option.or_eq_none_iff] at hrow
    exact Expr.valid_of_mem hrow.2 e her
  | update s =>
    simp only [Statement.violation?, Update.violation?, Option.or_eq_none_iff,
      List.findSome?_eq_none_iff] at h
    exact List.forall_mem_append.mpr ⟨List.forall_mem_map.mpr h.1.2, hoption h.2⟩
  | delete s => exact hoption h

/-- **A valid statement is derivable**, if the calls in it are complete. -/
theorem Statement.derives {s : Statement} (h : s.violation? = none)
    (hf : ∀ f ∈ s.functions, f.Complete) : Derives .statement (tokens s.lexemes) := by
  have hexprs : ∀ e ∈ s.exprs, Derives (.expr .or) (tokens e.lexemes) := by
    intro e he
    refine .tighter (Nat.zero_le _) (e.derives (Statement.valid_of_mem h e he) fun f hfe => ?_)
    exact hf f (List.mem_flatMap.mpr ⟨e, he, hfe⟩)
  cases s with
  | select s =>
    simp only [Statement.violation?, Select.violation?, Option.or_eq_none_iff] at h
    exact Select.derives (ne_nil_of_nonempty h.1.1.1.1.1.1) hexprs
  | insert s =>
    simp only [Statement.violation?, Insert.violation?, Option.or_eq_none_iff,
      List.findSome?_eq_none_iff] at h
    refine Insert.derives (ne_nil_of_nonempty h.1) (fun r hr => ?_) hexprs
    have hrow := h.2 r hr
    rw [Row.violation?, Option.or_eq_none_iff] at hrow
    exact ne_nil_of_nonempty hrow.1
  | update s =>
    simp only [Statement.violation?, Update.violation?, Option.or_eq_none_iff] at h
    exact Update.derives (ne_nil_of_nonempty h.1.1) hexprs
  | delete s => exact Delete.derives hexprs

/-! ## The tokens of every call are among those of the tree -/

section Infix

variable {ls : List Lexeme} {f : FuncCall}

/-- An item is written in one piece in its list. -/
theorem infix_commaList {α : Type} {lexemes : α → List Lexeme} {a : α} :
    ∀ {as : List α}, a ∈ as → lexemes a <:+: commaList (as.map lexemes)
  | [b], h => by
      obtain rfl := List.mem_singleton.mp h
      exact List.infix_rfl
  | b :: c :: as, h => by
      have hts : commaList ((b :: c :: as).map lexemes)
          = lexemes b ++ ([punct ',', .blank] ++ commaList ((c :: as).map lexemes)) := by
        simp [commaList]
      rw [hts]
      rcases List.mem_cons.mp h with rfl | h
      · exact List.infix_append_left
      · exact List.infix_append_of_infix_right
          (List.infix_append_of_infix_right (infix_commaList h))

/-- An expression is written in one piece between its parentheses. -/
theorem infix_operand (e : Expr) (least : Precedence) :
    e.lexemes <:+: operandLexemes e least e.lexemes := by
  rw [operandLexemes]
  split
  · exact List.infix_append _ _ _
  · exact List.infix_rfl

/-- What is written in one piece in an operand is so in the operation. -/
theorem infix_operator {left right : Expr} (least : Precedence) (op : List Lexeme)
    (h : ls <:+: left.lexemes ∨ ls <:+: right.lexemes) :
    ls <:+: operandLexemes left least left.lexemes ++ op ++
      operandLexemes right least right.lexemes := by
  rcases h with h | h
  · exact List.infix_append_of_infix_left (List.infix_append_of_infix_left
      (h.trans (infix_operand left least)))
  · exact List.infix_append_of_infix_right (h.trans (infix_operand right least))

theorem SelectItem.infix_expr (e : Expr) (asName : Option Ident) :
    e.lexemes <:+: (SelectItem.expr e asName).lexemes := by
  rw [SelectItem.lexemes]
  exact List.infix_append_left

/-- **A call is written in one piece in the expression that holds it.** -/
theorem Expr.infix_of_mem (e : Expr) : f ∈ e.functions → f.lexemes <:+: e.lexemes := by
  induction e using Expr.tree_induction with
  | column | literal | bind | null => simp [Expr.functions]
  | comparison left op right hleft hright =>
    rw [Expr.functions, Expr.lexemes, List.mem_append]
    exact fun h => infix_operator .atom _ (h.imp hleft hright)
  | and left right hleft hright =>
    rw [Expr.functions, Expr.lexemes, List.mem_append]
    exact fun h => infix_operator .and _ (h.imp hleft hright)
  | or left right hleft hright =>
    rw [Expr.functions, Expr.lexemes, List.mem_append]
    exact fun h => infix_operator .or _ (h.imp hleft hright)
  | not e he =>
    rw [Expr.functions, Expr.lexemes]
    exact fun h => List.infix_append_of_infix_right ((he h).trans (infix_operand e .not))
  | paren e he =>
    rw [Expr.functions, Expr.lexemes]
    exact fun h => (he h).trans (List.infix_append _ _ _)
  | func name distinct args hargs =>
    rw [Expr.functions, Expr.lexemes, List.mem_cons]
    rintro (rfl | h)
    · exact List.infix_rfl
    · obtain ⟨e, asName, hmem, hfe⟩ := SelectItem.mem_listFunctions.mp h
      rw [FuncCall.lexemes, SelectItem.lexemeLists_eq_map]
      refine List.infix_append_of_infix_left (List.infix_append_of_infix_right ?_)
      exact ((hargs e asName hmem hfe).trans (SelectItem.infix_expr e asName)).trans
        (infix_commaList hmem)
  | isIn e negated list he hlist =>
    rw [Expr.functions, Expr.lexemes, Expr.lexemeLists_eq_map, List.mem_append]
    rintro (h | h)
    · exact List.infix_append_of_infix_left (List.infix_append_of_infix_left
        (List.infix_append_of_infix_left ((he h).trans (infix_operand e .atom))))
    · obtain ⟨x, hx, hfx⟩ := Expr.mem_listFunctions.mp h
      exact List.infix_append_of_infix_left (List.infix_append_of_infix_right
        ((hlist x hx hfx).trans (infix_commaList hx)))
  | isNull e negated he =>
    rw [Expr.functions, Expr.lexemes]
    exact fun h => List.infix_append_of_infix_left ((he h).trans (infix_operand e .atom))

theorem infix_optionClause {w : String} {e : Expr} {o : Option Expr} (h : e ∈ o.toList) :
    e.lexemes <:+: optionClause w o := by
  rw [Option.mem_toList.mp h]
  exact List.infix_append_of_infix_right List.infix_rfl

theorem infix_listClause {α : Type} {lexemes : α → List Lexeme} {a : α} {as : List α}
    {keywords : List Lexeme} (h : a ∈ as) :
    lexemes a <:+: listClause keywords (as.map lexemes) := by
  have hne : ¬ (as.map lexemes).isEmpty = true := by
    cases as with
    | nil => exact absurd h (by simp)
    | cons => simp
  rw [listClause, if_neg hne]
  exact List.infix_append_of_infix_right (infix_commaList h)

theorem Select.infix_of_mem {s : Select} {e : Expr} (h : e ∈ (Statement.select s).exprs) :
    e.lexemes <:+: s.lexemes := by
  simp only [Statement.exprs, List.mem_append] at h
  rw [Select.lexemes]
  rcases h with ((((hitems | hfilter) | hgroupBy) | hhaving) | horderBy) | hlimit
  · obtain ⟨i, hi, hie⟩ := List.mem_filterMap.mp hitems
    have hitem : e.lexemes <:+: i.lexemes := by
      cases i with
      | star | qualifiedStar => exact absurd hie (by simp [SelectItem.expr?])
      | expr x asName =>
        rw [← Option.some.inj hie]
        exact SelectItem.infix_expr x asName
    refine List.infix_append_of_infix_left (List.infix_append_of_infix_left
      (List.infix_append_of_infix_left (List.infix_append_of_infix_left
        (List.infix_append_of_infix_left (List.infix_append_of_infix_left ?_)))))
    exact List.infix_append_of_infix_right (hitem.trans (infix_commaList hi))
  · refine List.infix_append_of_infix_left (List.infix_append_of_infix_left
      (List.infix_append_of_infix_left (List.infix_append_of_infix_left ?_)))
    exact List.infix_append_of_infix_right (infix_optionClause hfilter)
  · refine List.infix_append_of_infix_left (List.infix_append_of_infix_left
      (List.infix_append_of_infix_left ?_))
    exact List.infix_append_of_infix_right (infix_listClause hgroupBy)
  · refine List.infix_append_of_infix_left (List.infix_append_of_infix_left ?_)
    exact List.infix_append_of_infix_right (infix_optionClause hhaving)
  · obtain ⟨o, ho, rfl⟩ := List.mem_map.mp horderBy
    have horder : o.expr.lexemes <:+: o.lexemes := List.infix_append_left
    refine List.infix_append_of_infix_left ?_
    exact List.infix_append_of_infix_right (horder.trans (infix_listClause ho))
  · cases hl : s.limit with
    | none => exact absurd hlimit (by simp [hl])
    | some l =>
      rw [hl, Option.elim_some, List.mem_cons] at hlimit
      refine List.infix_append_of_infix_right (List.infix_cons ?_)
      rcases hlimit with rfl | hoffset
      · exact List.infix_append _ _ _
      · exact List.infix_append_of_infix_right (infix_optionClause (w := "OFFSET") hoffset)

/-- An expression is written in one piece in its statement. -/
theorem Statement.infix_of_mem {s : Statement} {e : Expr} (h : e ∈ s.exprs) :
    e.lexemes <:+: s.lexemes := by
  cases s with
  | select s => exact Select.infix_of_mem h
  | insert s =>
    obtain ⟨r, hr, her⟩ := List.mem_flatMap.mp h
    have hrow : e.lexemes <:+: r.lexemes :=
      (infix_commaList her).trans (List.infix_append _ _ _)
    exact List.infix_append_of_infix_right (hrow.trans (infix_commaList hr))
  | update s =>
    rcases List.mem_append.mp h with h | h
    · obtain ⟨a, ha, rfl⟩ := List.mem_map.mp h
      have hvalue : a.value.lexemes <:+: a.lexemes :=
        List.infix_append_of_infix_right List.infix_rfl
      exact List.infix_append_of_infix_left (List.infix_append_of_infix_right
        (hvalue.trans (infix_commaList ha)))
    · exact List.infix_append_of_infix_right (infix_optionClause h)
  | delete s => exact List.infix_append_of_infix_right (infix_optionClause h)

/-- The tokens of a call are among those of the statement, next to each other. -/
theorem Statement.tokens_infix_of_mem {s : Statement} (h : f ∈ s.functions) :
    tokens f.lexemes <:+: tokens s.lexemes := by
  obtain ⟨e, he, hfe⟩ := List.mem_flatMap.mp h
  exact ((e.infix_of_mem hfe).trans (Statement.infix_of_mem he)).filterMap token?

end Infix

/-- A call that says `DISTINCT` and has no argument closes its parenthesis behind that word. -/
theorem FuncCall.not_isChain {f : FuncCall} (h : ¬ f.Complete) :
    ¬ (tokens f.lexemes).IsChain Token.Precedes := by
  obtain ⟨name, distinct, args⟩ := f
  have hbare : distinct = true ∧ args = [] := by
    simpa [FuncCall.Complete, FuncCall.distinct, FuncCall.args] using h
  obtain ⟨rfl, rfl⟩ := hbare
  intro hchain
  have hts : tokens (FuncCall.lexemes ⟨name, true, []⟩)
      = [.ident name.name, .punct '('] ++ [.keyword "DISTINCT", .punct ')'] := by
    rw [FuncCall.lexemes, SelectItem.lexemeLists]
    rfl
  rw [hts] at hchain
  have hpair := (List.isChain_append.mp hchain).2.1
  exact (List.isChain_pair.mp hpair) rfl rfl

/-- **The text of a valid statement is grammatical exactly if the calls in it are complete.** -/
theorem Statement.grammatical_sql_iff {s : Statement} (h : s.violation? = none) :
    Grammatical s.sql ↔ ∀ f ∈ s.functions, f.Complete := by
  constructor
  · rintro ⟨ts, hlex, hderives⟩ f hf
    rw [Statement.lex_sql h] at hlex
    obtain rfl := Option.some.inj hlex
    by_contra hcomplete
    obtain ⟨front, back, hsplit⟩ := Statement.tokens_infix_of_mem hf
    have hchain := hderives.tidy.chain
    rw [← hsplit] at hchain
    exact FuncCall.not_isChain hcomplete
      (List.isChain_append.mp (List.isChain_append.mp hchain).1).2.1
  · exact fun hf => ⟨_, Statement.lex_sql h, Statement.derives h hf⟩

/-- **A valid statement is written in the grammar exactly if every call in it that says `DISTINCT`
has an argument.** All other lists that need an item have one, at any depth and in any clause. -/
theorem text_grammatical_iff (s : Statement) (h : s.violation? = none) :
    ∃ text, s.node.text = .ok text ∧
      (Grammatical text ↔ ∀ f ∈ s.functions, f.distinct = true → f.args ≠ []) :=
  ⟨s.sql, s.text_node, Statement.grammatical_sql_iff h⟩

/-- A query for a count and for what `more` adds to it. -/
def countSelect (args : List SelectItem) (more : List SelectItem) : Statement := .select {
  columns := .expr (.func ⟨⟨"count"⟩, true, args⟩) none :: more
  tables := [⟨⟨none, ⟨"t"⟩⟩, none⟩] }

/-- `SELECT count(DISTINCT id), now() FROM t` is written in the grammar. -/
theorem text_grammatical_iff_countSelect :
    ∃ text, (countSelect [.expr (.column ⟨none, ⟨"id"⟩⟩) none]
        [.expr (.func ⟨⟨"now"⟩, false, []⟩) none]).node.text = .ok text ∧ Grammatical text := by
  obtain ⟨text, htext, hiff⟩ := text_grammatical_iff
    (countSelect [.expr (.column ⟨none, ⟨"id"⟩⟩) none]
      [.expr (.func ⟨⟨"now"⟩, false, []⟩) none]) rfl
  refine ⟨text, htext, hiff.mpr ?_⟩
  simp [Statement.functions, Statement.exprs, countSelect, SelectItem.expr?, Expr.functions,
    SelectItem.listFunctions, SelectItem.functions, FuncCall.distinct, FuncCall.args]

/-- `SELECT count(DISTINCT ) FROM t` has no violation and is not written in the grammar. -/
theorem countSelect_bare_not_grammatical :
    (countSelect [] []).violation? = none ∧
      (countSelect [] []).node.text = .ok "SELECT count(DISTINCT ) FROM t" ∧
      ¬ Grammatical "SELECT count(DISTINCT ) FROM t" := by
  have hvalid : (countSelect [] []).violation? = none := rfl
  have hsql : (countSelect [] []).sql = "SELECT count(DISTINCT ) FROM t" := by decide +kernel
  have htext := (countSelect [] []).text_node
  rw [hsql] at htext
  refine ⟨hvalid, htext, fun hgrammatical => ?_⟩
  rw [← hsql, Statement.grammatical_sql_iff hvalid] at hgrammatical
  exact hgrammatical ⟨⟨"count"⟩, true, []⟩ (by
    simp [Statement.functions, Statement.exprs, countSelect, SelectItem.expr?, Expr.functions]) rfl
    rfl

end SqlRender
