import SqlRender.Proofs.Legible

/-!
# Proofs/Injection — data never becomes syntax

A tree holds data: names, strings, numbers and the names of bind variables. `shape` is the tree
without it. The kinds of the tokens, and every keyword, operator and punctuation mark, depend on the
shape alone, while the data comes back unchanged from its own tokens, in writing order. So no
choice of data changes how the text of a valid statement is read (`lex_of_shape_eq`).
-/

namespace SqlRender

open Lexeme

/-! ## Data of a tree -/

/-- A piece of text that a tree holds as data. -/
inductive Datum where
  | name (s : String)
  | string (s : String)
  | bind (s : String)
  deriving DecidableEq, Repr

namespace Datum

/-- The datum as a name. -/
def name? : Datum → Option String
  | .name s => some s
  | _ => none

/-- The datum as the content of a string. -/
def string? : Datum → Option String
  | .string s => some s
  | _ => none

/-- The datum as the name of a bind variable. -/
def bind? : Datum → Option String
  | .bind s => some s
  | _ => none

end Datum

/-- The parts of a possibly qualified name. -/
def qualifiedData (qualifier : Option Ident) (name : Ident) : List Datum :=
  (qualifier.toList.map fun q => Datum.name q.name) ++ [Datum.name name.name]

/-- The name of an alias, if there is one. -/
def aliasData (asName : Option Ident) : List Datum := asName.toList.map fun a => .name a.name

/-- The content of a string literal. Numbers hold no text of their own. -/
def Literal.data : Literal → List Datum
  | .str s => [.string s]
  | .int _ | .float _ => []

mutual

/-- The names, strings and bind names of an expression, in writing order. -/
def Expr.data : Expr → List Datum
  | .column c => qualifiedData c.qualifier c.name
  | .literal l => l.data
  | .bind v => [.bind v.name]
  | .null => []
  | .comparison left _ right | .and left right | .or left right => left.data ++ right.data
  | .not e | .paren e => e.data
  | .func ⟨name, _, args⟩ => .name name.name :: SelectItem.listData args
  | .isIn e _ list => e.data ++ Expr.listData list
  | .isNull e _ => e.data

/-- The data of a list of expressions, in writing order. -/
def Expr.listData : List Expr → List Datum
  | [] => []
  | e :: rest => e.data ++ Expr.listData rest

/-- The data of an entry: the table of a star, or an expression and its alias. -/
def SelectItem.data : SelectItem → List Datum
  | .star => []
  | .qualifiedStar table => [.name table.name]
  | .expr e asName => e.data ++ aliasData asName

/-- The data of a select list, in writing order. -/
def SelectItem.listData : List SelectItem → List Datum
  | [] => []
  | i :: rest => i.data ++ SelectItem.listData rest

end

/-- The parts of the name of a table. -/
def TableName.data (t : TableName) : List Datum := qualifiedData t.qualifier t.name

/-- The name of a table, then its alias. -/
def TableExpr.data (t : TableExpr) : List Datum := t.table.data ++ aliasData t.asName

/-- The data of an optional expression. -/
def optionData (e : Option Expr) : List Datum := e.elim [] Expr.data

/-- The data of the row count, then of the offset. -/
def Limit.data (l : Limit) : List Datum := l.rowcount.data ++ optionData l.offset

/-- The names of the column, then the data of the value. -/
def Assignment.data (a : Assignment) : List Datum :=
  qualifiedData a.column.qualifier a.column.name ++ a.value.data

/-- The data of a row, in writing order. -/
def Row.data (r : Row) : List Datum := r.values.flatMap Expr.data

/-- The names, strings and bind names of a statement, in writing order. -/
def Statement.data : Statement → List Datum
  | .select s =>
    s.columns.flatMap SelectItem.data ++ s.tables.flatMap TableExpr.data ++ optionData s.filter ++
    s.groupBy.flatMap Expr.data ++ optionData s.having ++
    s.orderBy.flatMap (fun o => o.expr.data) ++ s.limit.elim [] Limit.data
  | .insert s =>
    s.table.data ++ (s.columns.map fun i => .name i.name) ++ s.rows.flatMap Row.data
  | .update s => s.table.data ++ s.assignments.flatMap Assignment.data ++ optionData s.filter
  | .delete s => s.table.data ++ optionData s.filter

/-! ## Shape of a tree -/

/-- A name with its text erased. -/
def Ident.shape (_ : Ident) : Ident := ⟨""⟩

/-- A column with its text erased; a qualifier stays one. -/
def ColumnName.shape (c : ColumnName) : ColumnName := ⟨c.qualifier.map Ident.shape, c.name.shape⟩

/-- A table with its text erased; a qualifier stays one. -/
def TableName.shape (t : TableName) : TableName := ⟨t.qualifier.map Ident.shape, t.name.shape⟩

/-- A table with its text erased; an alias stays one. -/
def TableExpr.shape (t : TableExpr) : TableExpr := ⟨t.table.shape, t.asName.map Ident.shape⟩

/-- A literal of the same type with its value erased. -/
def Literal.shape : Literal → Literal
  | .str _ => .str ""
  | .int _ => .int 0
  | .float _ => .float (.zero false)

/-- A bind variable with its name erased. -/
def BindVar.shape (_ : BindVar) : BindVar := ⟨""⟩

mutual

/-- An expression with its data erased. -/
def Expr.shape : Expr → Expr
  | .column c => .column c.shape
  | .literal l => .literal l.shape
  | .bind v => .bind v.shape
  | .null => .null
  | .comparison left op right => .comparison left.shape op right.shape
  | .and left right => .and left.shape right.shape
  | .or left right => .or left.shape right.shape
  | .not e => .not e.shape
  | .paren e => .paren e.shape
  | .func ⟨name, distinct, args⟩ => .func ⟨name.shape, distinct, SelectItem.listShape args⟩
  | .isIn e negated list => .isIn e.shape negated (Expr.listShape list)
  | .isNull e negated => .isNull e.shape negated

/-- The expressions of a list with their data erased. -/
def Expr.listShape : List Expr → List Expr
  | [] => []
  | e :: rest => e.shape :: Expr.listShape rest

/-- An entry of a select list with its data erased. -/
def SelectItem.shape : SelectItem → SelectItem
  | .star => .star
  | .qualifiedStar table => .qualifiedStar table.shape
  | .expr e asName => .expr e.shape (asName.map Ident.shape)

/-- The entries of a select list with their data erased. -/
def SelectItem.listShape : List SelectItem → List SelectItem
  | [] => []
  | i :: rest => i.shape :: SelectItem.listShape rest

end

/-- An entry of an `ORDER BY` list with its data erased; the direction stays. -/
def OrderItem.shape (o : OrderItem) : OrderItem := ⟨o.expr.shape, o.direction⟩

/-- A `LIMIT` clause with its data erased. -/
def Limit.shape (l : Limit) : Limit := ⟨l.rowcount.shape, l.offset.map Expr.shape⟩

/-- An assignment with its data erased. -/
def Assignment.shape (a : Assignment) : Assignment := ⟨a.column.shape, a.value.shape⟩

/-- A row with its data erased; the number of values stays. -/
def Row.shape (r : Row) : Row := ⟨r.values.map Expr.shape⟩

/-- A statement with its data erased. -/
def Statement.shape : Statement → Statement
  | .select s => .select {
      distinct := s.distinct
      columns := s.columns.map SelectItem.shape
      tables := s.tables.map TableExpr.shape
      filter := s.filter.map Expr.shape
      groupBy := s.groupBy.map Expr.shape
      having := s.having.map Expr.shape
      orderBy := s.orderBy.map OrderItem.shape
      limit := s.limit.map Limit.shape }
  | .insert s => .insert ⟨s.table.shape, s.columns.map Ident.shape, s.rows.map Row.shape⟩
  | .update s =>
    .update ⟨s.table.shape, s.assignments.map Assignment.shape, s.filter.map Expr.shape⟩
  | .delete s => .delete ⟨s.table.shape, s.filter.map Expr.shape⟩

/-! ## Data and kinds of tokens -/

namespace Token

/-- The data that a token stands for. -/
def datum? : Token → Option Datum
  | .ident name => some (.name name)
  | .str content => some (.string content)
  | .bind name => some (.bind name)
  | .keyword _ | .number _ | .op _ | .punct _ => none

/-- The token with its data erased: keywords, operators and punctuation stay. -/
def kind : Token → Token
  | .ident _ => .ident ""
  | .str _ => .str ""
  | .number _ => .number ""
  | .bind _ => .bind ""
  | .keyword word => .keyword word
  | .op text => .op text
  | .punct c => .punct c

end Token

namespace Lexeme

/-- The data that the tokens stand for. -/
def tokenData (ls : List Lexeme) : List Datum := (tokens ls).filterMap Token.datum?

@[simp] theorem tokenData_nil : tokenData [] = [] := rfl

@[simp] theorem tokenData_append (ls ms : List Lexeme) :
    tokenData (ls ++ ms) = tokenData ls ++ tokenData ms := by
  rw [tokenData, tokens_append, List.filterMap_append]
  rfl

@[simp] theorem tokenData_blank (ls : List Lexeme) : tokenData (.blank :: ls) = tokenData ls := rfl

@[simp] theorem tokenData_keyword (w : String) (ls : List Lexeme) :
    tokenData (word w :: ls) = tokenData ls := rfl

@[simp] theorem tokenData_punct (c : Char) (ls : List Lexeme) :
    tokenData (punct c :: ls) = tokenData ls := rfl

@[simp] theorem tokenData_op (text : String) (ls : List Lexeme) :
    tokenData (.token (.op text) :: ls) = tokenData ls := rfl

@[simp] theorem tokenData_ident (i : Ident) (ls : List Lexeme) :
    tokenData (i.lexeme :: ls) = .name i.name :: tokenData ls := rfl

/-- Commas hold no data. -/
theorem tokenData_commaList : ∀ lists : List (List Lexeme),
    tokenData (commaList lists) = lists.flatMap tokenData
  | [] => rfl
  | [ls] => by simp [commaList]
  | ls :: ms :: lists => by
      have ih := tokenData_commaList (ms :: lists)
      simp [commaList, ih]

/-- The tokens with their data erased. -/
def kinds (ls : List Lexeme) : List Token := (tokens ls).map Token.kind

/-- Kinds are taken token by token. -/
@[simp] theorem kinds_append (ls ms : List Lexeme) : kinds (ls ++ ms) = kinds ls ++ kinds ms := by
  rw [kinds, tokens_append, List.map_append]
  rfl

/-- Items of the same kinds give comma lists of the same kinds. -/
theorem kinds_commaList {α : Type} {f g : α → List Lexeme} : ∀ {as : List α},
    (∀ a ∈ as, kinds (f a) = kinds (g a)) →
      kinds (commaList (as.map f)) = kinds (commaList (as.map g))
  | [], _ => rfl
  | [a], h => h a (by simp)
  | a :: b :: as, h => by
      have ih := kinds_commaList fun c hc => h c (List.mem_cons_of_mem a hc)
      simp only [List.map_cons, commaList, kinds_append] at ih ⊢
      rw [h a (by simp), ih]

end Lexeme

/-! ## The data of a tree is the data of its tokens -/

/-- The point of a qualified name holds no data. -/
theorem tokenData_qualified (qualifier : Option Ident) (name : Ident) :
    tokenData (qualifiedLexemes qualifier name) = qualifiedData qualifier name := by
  cases qualifier <;> rfl

/-- Of an alias, only the name is data. -/
theorem tokenData_alias (asName : Option Ident) :
    tokenData (aliasLexemes asName) = aliasData asName := by
  cases asName <;> rfl

/-- A string literal's content is its datum. A number's text is none. -/
theorem tokenData_literal (l : Literal) : tokenData [.token l.token] = l.data := by
  cases l <;> rfl

/-- Operators hold no data, not even those that are words. -/
theorem tokenData_comparison (op : Comparison) : tokenData op.lexemes = [] := by
  cases op <;> rfl

/-- Parentheses hold no data. -/
theorem tokenData_operand (e : Expr) (least : Precedence) :
    tokenData (operandLexemes e least e.lexemes) = tokenData e.lexemes := by
  rw [operandLexemes]
  split <;> simp

/-- The data of a list is the data of its expressions. -/
theorem Expr.listData_eq_flatMap (es : List Expr) : Expr.listData es = es.flatMap Expr.data := by
  induction es with
  | nil => rw [Expr.listData]; rfl
  | cons e rest ih => rw [Expr.listData, ih]; rfl

/-- The data of a select list is the data of its entries. -/
theorem SelectItem.listData_eq_flatMap (is : List SelectItem) :
    SelectItem.listData is = is.flatMap SelectItem.data := by
  induction is with
  | nil => rw [SelectItem.listData]; rfl
  | cons i rest ih => rw [SelectItem.listData, ih]; rfl

/-- The data of a comma list, item by item. -/
theorem tokenData_map {α : Type} {f : α → List Lexeme} {g : α → List Datum} {as : List α}
    (h : ∀ a ∈ as, tokenData (f a) = g a) : tokenData (commaList (as.map f)) = as.flatMap g := by
  rw [tokenData_commaList, List.flatMap_map]
  exact List.flatMap_congr h

/-- What an entry adds to its expression. It is stated apart because calls need it inside the
induction over expressions. -/
theorem SelectItem.data_lexemes_of {i : SelectItem}
    (h : ∀ e asName, i = .expr e asName → tokenData e.lexemes = e.data) :
    tokenData i.lexemes = i.data := by
  cases i with
  | star => simp [SelectItem.lexemes, SelectItem.data]
  | qualifiedStar table => simp [SelectItem.lexemes, SelectItem.data]
  | expr e asName => simp [SelectItem.lexemes, SelectItem.data, h e asName rfl, tokenData_alias]

/-- **The data of an expression is the data of its tokens.** -/
theorem Expr.data_lexemes (e : Expr) : tokenData e.lexemes = e.data := by
  induction e using Expr.tree_induction with
  | column c =>
    rw [Expr.lexemes, Expr.data]
    exact tokenData_qualified _ _
  | literal l =>
    rw [Expr.lexemes, Expr.data]
    exact tokenData_literal l
  | bind v =>
    rw [Expr.lexemes, Expr.data]
    rfl
  | null => simp [Expr.lexemes, Expr.data]
  | comparison left op right hleft hright =>
    simp [Expr.lexemes, Expr.data, tokenData_operand, tokenData_comparison, hleft, hright]
  | and left right hleft hright | or left right hleft hright =>
    simp [Expr.lexemes, Expr.data, tokenData_operand, hleft, hright]
  | not e he => simp [Expr.lexemes, Expr.data, tokenData_operand, he]
  | paren e he => simp [Expr.lexemes, Expr.data, he]
  | func name distinct args hargs =>
    have hitems := tokenData_map fun i hi => SelectItem.data_lexemes_of (i := i) fun e asName hie =>
      hargs e asName (hie ▸ hi)
    rw [Expr.lexemes, FuncCall.lexemes, Expr.data, SelectItem.lexemeLists_eq_map,
      SelectItem.listData_eq_flatMap]
    cases distinct <;> simp [hitems]
  | isIn e negated list he hlist =>
    rw [Expr.lexemes, Expr.data, Expr.lexemeLists_eq_map, Expr.listData_eq_flatMap]
    cases negated <;> simp [tokenData_operand, he, tokenData_map hlist]
  | isNull e negated he =>
    rw [Expr.lexemes, Expr.data]
    cases negated <;> simp [tokenData_operand, he]

/-- The data of an entry is the data of its tokens. -/
theorem SelectItem.data_lexemes (i : SelectItem) : tokenData i.lexemes = i.data :=
  SelectItem.data_lexemes_of fun e _ _ => e.data_lexemes

/-- The data of a table's name is the data of its tokens. -/
theorem TableName.data_lexemes (t : TableName) : tokenData t.lexemes = t.data :=
  tokenData_qualified _ _

/-- The data of a table with its alias is the data of its tokens. -/
theorem TableExpr.data_lexemes (t : TableExpr) : tokenData t.lexemes = t.data := by
  rw [TableExpr.lexemes, tokenData_append, t.table.data_lexemes, tokenData_alias]
  rfl

/-- A direction holds no data. -/
theorem OrderItem.data_lexemes (o : OrderItem) : tokenData o.lexemes = o.expr.data := by
  rw [OrderItem.lexemes]
  split <;> simp [o.expr.data_lexemes]

/-- The keywords of a `LIMIT` clause hold no data. -/
theorem Limit.data_lexemes (l : Limit) : tokenData l.lexemes = l.data := by
  rw [Limit.lexemes, Limit.data]
  cases l.offset <;> simp [optionData, Expr.data_lexemes]

/-- The equals sign of an assignment holds no data. -/
theorem Assignment.data_lexemes (a : Assignment) : tokenData a.lexemes = a.data := by
  rw [Assignment.lexemes, tokenData_append, tokenData_append, ColumnName.lexemes,
    tokenData_qualified, a.value.data_lexemes]
  simp [Assignment.data]

/-- The parentheses of a row hold no data. -/
theorem Row.data_lexemes (r : Row) : tokenData r.lexemes = r.data := by
  simp [Row.lexemes, Row.data, tokenData_map fun e _ => Expr.data_lexemes e]

/-- The keyword of a clause holds no data. -/
theorem tokenData_optionClause (keyword : String) (e : Option Expr) :
    tokenData (optionClause keyword e) = optionData e := by
  cases e <;> simp [optionClause, optionData, Expr.data_lexemes]

/-- The keywords and commas of a list clause hold no data. -/
theorem tokenData_listClause {α : Type} {f : α → List Lexeme} {g : α → List Datum}
    (keywords : List Lexeme) (hkeywords : tokenData keywords = []) (h : ∀ a, tokenData (f a) = g a)
    (as : List α) : tokenData (listClause keywords (as.map f)) = as.flatMap g := by
  cases as with
  | nil => rfl
  | cons a as =>
    have hitems := tokenData_map fun b (_ : b ∈ a :: as) => h b
    rw [listClause, List.map_cons, List.isEmpty_cons, if_neg (by decide), tokenData_append,
      hkeywords, ← List.map_cons, hitems, List.nil_append]

/-- The data of a query is the data of its tokens, clause by clause. -/
theorem Select.data_lexemes (s : Select) :
    tokenData s.lexemes = (Statement.select s).data := by
  have hdistinct : tokenData (if s.distinct then [word "DISTINCT", .blank] else []) = [] := by
    cases s.distinct <;> rfl
  have hlimit : tokenData (s.limit.elim [] fun l => .blank :: l.lexemes)
      = s.limit.elim [] Limit.data := by
    cases s.limit <;> simp [Limit.data_lexemes]
  have hfrom := tokenData_listClause [.blank, word "FROM", .blank] rfl TableExpr.data_lexemes
    s.tables
  have hgroup := tokenData_listClause [.blank, word "GROUP", .blank, word "BY", .blank] rfl
    Expr.data_lexemes s.groupBy
  have horder := tokenData_listClause [.blank, word "ORDER", .blank, word "BY", .blank] rfl
    OrderItem.data_lexemes s.orderBy
  simp [Select.lexemes, Statement.data, hdistinct, hlimit, hfrom, hgroup, horder,
    tokenData_optionClause, tokenData_map fun i _ => SelectItem.data_lexemes i]

/-- The data of an insertion is the data of its tokens. -/
theorem Insert.data_lexemes (s : Insert) :
    tokenData s.lexemes = (Statement.insert s).data := by
  have hcolumns : tokenData (if s.columns.isEmpty then []
      else [.blank, punct '('] ++ commaList (s.columns.map fun i => [i.lexeme]) ++ [punct ')'])
        = s.columns.map fun i => .name i.name := by
    cases s.columns with
    | nil => rfl
    | cons i is =>
      have hitems : tokenData (commaList ((i :: is).map fun i => [i.lexeme]))
          = (i :: is).flatMap fun i => [.name i.name] := tokenData_map fun _ _ => rfl
      rw [List.isEmpty_cons, if_neg (by decide), tokenData_append, tokenData_append, hitems,
        List.map_eq_flatMap]
      simp
  have hrows := tokenData_map fun r (_ : r ∈ s.rows) => r.data_lexemes
  rw [Insert.lexemes, tokenData_append, tokenData_append, tokenData_append, hcolumns, hrows]
  simp [Statement.data, TableName.data_lexemes]

/-- The data of an update is the data of its tokens. -/
theorem Update.data_lexemes (s : Update) :
    tokenData s.lexemes = (Statement.update s).data := by
  simp [Update.lexemes, Statement.data, TableName.data_lexemes, tokenData_optionClause,
    tokenData_map fun a _ => Assignment.data_lexemes a]

/-- The data of a deletion is the data of its tokens. -/
theorem Delete.data_lexemes (s : Delete) :
    tokenData s.lexemes = (Statement.delete s).data := by
  simp [Delete.lexemes, Statement.data, TableName.data_lexemes, tokenData_optionClause]

/-- **The data of a statement is the data of its tokens.** -/
theorem Statement.data_lexemes (s : Statement) : tokenData s.lexemes = s.data := by
  cases s with
  | select s => exact s.data_lexemes
  | insert s => exact s.data_lexemes
  | update s => exact s.data_lexemes
  | delete s => exact s.data_lexemes

/-! ## The kinds of tokens depend on the shape -/

/-- A name is a name, whatever it says and whether or not it needs quotes. -/
theorem kinds_qualified (qualifier : Option Ident) (name : Ident) :
    kinds (qualifiedLexemes (qualifier.map Ident.shape) name.shape)
      = kinds (qualifiedLexemes qualifier name) := by
  cases qualifier <;> rfl

/-- An alias is an alias, whatever it is called. -/
theorem kinds_alias (asName : Option Ident) :
    kinds (aliasLexemes (asName.map Ident.shape)) = kinds (aliasLexemes asName) := by
  cases asName <;> rfl

/-- All integers and floats are one kind of token, and so are all strings. -/
theorem kinds_literal (l : Literal) :
    kinds [.token l.shape.token] = kinds [.token l.token] := by
  cases l <;> rfl

/-- Data has no say in how tightly an expression binds. -/
theorem Expr.precedence_shape (e : Expr) : e.shape.precedence = e.precedence := by
  cases e with
  | func f =>
    obtain ⟨name, distinct, args⟩ := f
    rw [Expr.shape]
    rfl
  | _ => simp only [Expr.shape, Expr.precedence]

/-- So data has no say in where parentheses are written. -/
theorem kinds_operand {e : Expr} (h : kinds e.shape.lexemes = kinds e.lexemes)
    (least : Precedence) :
    kinds (operandLexemes e.shape least e.shape.lexemes)
      = kinds (operandLexemes e least e.lexemes) := by
  rw [operandLexemes, operandLexemes, e.precedence_shape]
  split
  · rw [kinds_append, kinds_append, kinds_append, kinds_append, h]
  · exact h

/-- A list keeps its length and its expressions their places. -/
theorem Expr.listShape_eq_map (es : List Expr) : Expr.listShape es = es.map Expr.shape := by
  induction es with
  | nil => rw [Expr.listShape]; rfl
  | cons e rest ih => rw [Expr.listShape, ih]; rfl

/-- A select list keeps its length and its entries their places. -/
theorem SelectItem.listShape_eq_map (is : List SelectItem) :
    SelectItem.listShape is = is.map SelectItem.shape := by
  induction is with
  | nil => rw [SelectItem.listShape]; rfl
  | cons i rest ih => rw [SelectItem.listShape, ih]; rfl

/-- The kinds of a comma list of shapes. -/
theorem kinds_map {α : Type} {shape : α → α} {lexemes : α → List Lexeme} {as : List α}
    (h : ∀ a ∈ as, kinds (lexemes (shape a)) = kinds (lexemes a)) :
    kinds (commaList ((as.map shape).map lexemes)) = kinds (commaList (as.map lexemes)) := by
  rw [List.map_map]
  exact kinds_commaList h

/-- What an entry adds to its expression, for the induction over expressions. -/
theorem SelectItem.kinds_shape_of {i : SelectItem}
    (h : ∀ e asName, i = .expr e asName → kinds e.shape.lexemes = kinds e.lexemes) :
    kinds i.shape.lexemes = kinds i.lexemes := by
  cases i with
  | star => rw [SelectItem.shape]
  | qualifiedStar table =>
    rw [SelectItem.shape, SelectItem.lexemes, SelectItem.lexemes]
    rfl
  | expr e asName =>
    rw [SelectItem.shape, SelectItem.lexemes, SelectItem.lexemes, kinds_append, kinds_append,
      h e asName rfl, kinds_alias]

/-- **The kinds of the tokens of an expression are those of its shape.** -/
theorem Expr.kinds_shape (e : Expr) : kinds e.shape.lexemes = kinds e.lexemes := by
  induction e using Expr.tree_induction with
  | column c =>
    rw [Expr.shape, Expr.lexemes, Expr.lexemes]
    exact kinds_qualified _ _
  | literal l =>
    rw [Expr.shape, Expr.lexemes, Expr.lexemes]
    exact kinds_literal l
  | bind v =>
    rw [Expr.shape, Expr.lexemes, Expr.lexemes]
    rfl
  | null => rw [Expr.shape]
  | comparison left op right hleft hright =>
    simp only [Expr.shape, Expr.lexemes, kinds_append, kinds_operand hleft, kinds_operand hright]
  | and left right hleft hright | or left right hleft hright =>
    simp only [Expr.shape, Expr.lexemes, kinds_append, kinds_operand hleft, kinds_operand hright]
  | not e he => simp only [Expr.shape, Expr.lexemes, kinds_append, kinds_operand he]
  | paren e he => simp only [Expr.shape, Expr.lexemes, kinds_append, he]
  | func name distinct args hargs =>
    have hitems := kinds_map fun i hi => SelectItem.kinds_shape_of (i := i) fun e asName hie =>
      hargs e asName (hie ▸ hi)
    simp only [Expr.shape, Expr.lexemes, FuncCall.lexemes, SelectItem.lexemeLists_eq_map,
      SelectItem.listShape_eq_map, kinds_append, hitems]
    rfl
  | isIn e negated list he hlist =>
    simp only [Expr.shape, Expr.lexemes, Expr.lexemeLists_eq_map, Expr.listShape_eq_map,
      kinds_append, kinds_operand he, kinds_map hlist]
  | isNull e negated he => simp only [Expr.shape, Expr.lexemes, kinds_append, kinds_operand he]

/-- The kinds of a table's tokens depend on its shape. -/
theorem TableName.kinds_shape (t : TableName) : kinds t.shape.lexemes = kinds t.lexemes :=
  kinds_qualified _ _

/-- The kinds of the tokens of a table with its alias depend on its shape. -/
theorem TableExpr.kinds_shape (t : TableExpr) : kinds t.shape.lexemes = kinds t.lexemes := by
  simp only [TableExpr.lexemes, TableExpr.shape, kinds_append, TableName.kinds_shape, kinds_alias]

/-- The kinds of an entry's tokens depend on its shape. -/
theorem SelectItem.kinds_shape (i : SelectItem) : kinds i.shape.lexemes = kinds i.lexemes :=
  SelectItem.kinds_shape_of fun e _ _ => e.kinds_shape

/-- The direction is part of the shape. -/
theorem OrderItem.kinds_shape (o : OrderItem) : kinds o.shape.lexemes = kinds o.lexemes := by
  simp only [OrderItem.lexemes, OrderItem.shape, kinds_append, Expr.kinds_shape]
  rfl

/-- Whether there is an offset is part of the shape. -/
theorem Limit.kinds_shape (l : Limit) : kinds l.shape.lexemes = kinds l.lexemes := by
  simp only [Limit.lexemes, Limit.shape, kinds_append, Expr.kinds_shape]
  cases l.offset with
  | none => rfl
  | some e => simp only [Option.map_some, Option.elim, kinds_append, Expr.kinds_shape]

/-- The kinds of an assignment's tokens depend on its shape. -/
theorem Assignment.kinds_shape (a : Assignment) : kinds a.shape.lexemes = kinds a.lexemes := by
  simp only [Assignment.lexemes, Assignment.shape, kinds_append, Expr.kinds_shape,
    ColumnName.lexemes, ColumnName.shape, kinds_qualified]

/-- The number of values is part of the shape. -/
theorem Row.kinds_shape (r : Row) : kinds r.shape.lexemes = kinds r.lexemes := by
  simp only [Row.lexemes, Row.shape, kinds_append, kinds_map fun e _ => Expr.kinds_shape e]

/-- Whether a clause is there is part of the shape. -/
theorem kinds_optionClause (keyword : String) (e : Option Expr) :
    kinds (optionClause keyword (e.map Expr.shape)) = kinds (optionClause keyword e) := by
  cases e with
  | none => rfl
  | some e => simp only [optionClause, Option.map_some, Option.elim, kinds_append, Expr.kinds_shape]

/-- The length of a list is part of the shape. -/
theorem kinds_listClause {α : Type} {shape : α → α} {lexemes : α → List Lexeme}
    (h : ∀ a, kinds (lexemes (shape a)) = kinds (lexemes a)) (keywords : List Lexeme)
    (as : List α) :
    kinds (listClause keywords ((as.map shape).map lexemes))
      = kinds (listClause keywords (as.map lexemes)) := by
  simp only [listClause, List.isEmpty_map]
  split
  · rfl
  · rw [kinds_append, kinds_append, kinds_map fun a _ => h a]

/-- **The kinds of the tokens of a statement are those of its shape.** -/
theorem Statement.kinds_shape (s : Statement) : kinds s.shape.lexemes = kinds s.lexemes := by
  cases s with
  | select s =>
    have hlimit : kinds ((s.limit.map Limit.shape).elim [] fun l => .blank :: l.lexemes)
        = kinds (s.limit.elim [] fun l => .blank :: l.lexemes) := by
      cases s.limit with
      | none => rfl
      | some l => exact l.kinds_shape
    simp only [Statement.shape, Statement.lexemes, Select.lexemes, kinds_append, hlimit,
      kinds_map fun i _ => SelectItem.kinds_shape i, kinds_listClause TableExpr.kinds_shape,
      kinds_listClause Expr.kinds_shape, kinds_listClause OrderItem.kinds_shape, kinds_optionClause]
  | insert s =>
    have hcolumns : kinds (commaList ((s.columns.map Ident.shape).map fun i => [i.lexeme]))
        = kinds (commaList (s.columns.map fun i => [i.lexeme])) := kinds_map fun _ _ => rfl
    simp only [Statement.shape, Statement.lexemes, Insert.lexemes, kinds_append,
      TableName.kinds_shape, kinds_map fun r _ => Row.kinds_shape r, List.isEmpty_map]
    split
    · rfl
    · simp only [kinds_append, hcolumns]
  | update s =>
    simp only [Statement.shape, Statement.lexemes, Update.lexemes, kinds_append,
      TableName.kinds_shape, kinds_map fun a _ => Assignment.kinds_shape a, kinds_optionClause]
  | delete s =>
    simp only [Statement.shape, Statement.lexemes, Delete.lexemes, kinds_append,
      TableName.kinds_shape, kinds_optionClause]

/-! ## Reading statements of one shape -/

/-- The name that an identifier stands for. -/
def Token.name? : Token → Option String
  | .ident name => some name
  | _ => none

/-- The content of a string token. -/
def Token.string? : Token → Option String
  | .str content => some content
  | _ => none

/-- The name of a bind variable's token. -/
def Token.bind? : Token → Option String
  | .bind name => some name
  | _ => none

/-- **Data never becomes syntax.** Valid statements of one shape are read to the end, as tokens of
the same kinds with the same keywords, operators and punctuation, and the identifiers, strings and
bind variables among the tokens are, in order, those of the statement. -/
theorem lex_of_shape_eq {s s' : Statement} (hs : s.violation? = none) (hs' : s'.violation? = none)
    (hshape : s'.shape = s.shape) :
    ∃ text text' ts ts', s.node.text = .ok text ∧ s'.node.text = .ok text' ∧
      lex text = some ts ∧ lex text' = some ts' ∧ ts'.map Token.kind = ts.map Token.kind ∧
      ts'.filterMap Token.name? = s'.data.filterMap Datum.name? ∧
      ts'.filterMap Token.string? = s'.data.filterMap Datum.string? ∧
      ts'.filterMap Token.bind? = s'.data.filterMap Datum.bind? := by
  have hkinds : (tokens s'.lexemes).map Token.kind = (tokens s.lexemes).map Token.kind := by
    have h' := s'.kinds_shape
    rw [hshape, s.kinds_shape] at h'
    exact h'.symm
  refine ⟨s.sql, s'.sql, _, _, s.text_node, s'.text_node, Statement.lex_sql hs,
    Statement.lex_sql hs', hkinds, ?_, ?_, ?_⟩
  all_goals
    rw [← s'.data_lexemes, tokenData, List.filterMap_filterMap]
    congr 1
    funext t
    cases t <;> rfl

/-- An update with plain data. -/
def plainUpdate : Statement :=
  .update ⟨⟨none, ⟨"accounts"⟩⟩, [⟨⟨none, ⟨"owner"⟩⟩, .literal (.str "me")⟩],
    some (.and (.comparison (.column ⟨none, ⟨"id"⟩⟩) .eq (.literal (.int 1)))
      (.comparison (.column ⟨none, ⟨"rate"⟩⟩) .lt (.bind ⟨"limit"⟩)))⟩

/-- The same update with quotes, comment marks and reserved words in its data. -/
def hostileUpdate : Statement :=
  .update ⟨⟨none, ⟨"a\x60; DROP TABLE b --"⟩⟩,
    [⟨⟨none, ⟨"Select"⟩⟩, .literal (.str "' OR '1' = '1")⟩],
    some (.and (.comparison (.column ⟨none, ⟨""⟩⟩) .eq (.literal (.int (-1))))
      (.comparison (.column ⟨none, ⟨"a.b"⟩⟩) .lt (.bind ⟨"WHERE"⟩)))⟩

/-- An update full of quotes, keywords and comment marks, against a harmless one of its shape. -/
theorem lex_of_shape_eq_hostileUpdate :
    plainUpdate.violation? = none ∧ hostileUpdate.violation? = none ∧
    hostileUpdate.shape = plainUpdate.shape ∧
    ∃ text text' ts ts', plainUpdate.node.text = .ok text ∧ hostileUpdate.node.text = .ok text' ∧
      lex text = some ts ∧ lex text' = some ts' ∧ ts'.map Token.kind = ts.map Token.kind ∧
      ts'.filterMap Token.name? = ["a\x60; DROP TABLE b --", "Select", "", "a.b"] ∧
      ts'.filterMap Token.string? = ["' OR '1' = '1"] ∧
      ts'.filterMap Token.bind? = ["WHERE"] :=
  have hplain : plainUpdate.violation? = none := by decide +kernel
  have hhostile : hostileUpdate.violation? = none := by decide +kernel
  ⟨hplain, hhostile, rfl, lex_of_shape_eq hplain hhostile rfl⟩

end SqlRender
