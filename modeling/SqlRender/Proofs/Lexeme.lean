import SqlRender.Sql.Node

/-!
# Proofs/Lexeme — a tree as the tokens and blanks it is written with

The text of a tree is read off one list: its tokens in order, with a blank wherever two of them are
kept apart. The list carries more than the text does — which characters belong to one token, and
which tokens are tracked literals — and that is what the facts about the text need.
-/

namespace SqlRender

/-- A lexical unit of SQL text. -/
inductive Token where
  /-- A reserved word, as it is written. -/
  | keyword (word : String)
  /-- The name an identifier stands for, without its quotes. -/
  | ident (name : String)
  /-- The content of a string, without its quotes. -/
  | str (content : String)
  /-- A number, as it is written. -/
  | number (text : String)
  /-- The name of a bind variable, without its colon. -/
  | bind (name : String)
  /-- A comparison operator that is no word. -/
  | op (text : String)
  | punct (c : Char)
  deriving DecidableEq, Repr

namespace Token

/-- The text of a token. -/
def sql : Token → String
  | .keyword word => word
  | .ident name =>
    if isPlainName name then name else "\x60" ++ doubled '\x60' name ++ "\x60"
  | .str content => "'" ++ doubled '\'' content ++ "'"
  | .number text => text
  | .bind name => ":" ++ name
  | .op text => text
  | .punct c => c.toString

/-- The tokens that are tracked. -/
def isLiteral : Token → Bool
  | .str _ | .number _ | .bind _ => true
  | .keyword _ | .ident _ | .op _ | .punct _ => false

end Token

/-- A blank or a token. -/
inductive Lexeme where
  | blank
  | token (t : Token)
  deriving DecidableEq, Repr

namespace Lexeme

/-- A keyword. -/
abbrev word (w : String) : Lexeme := .token (.keyword w)

/-- A punctuation mark. -/
abbrev punct (c : Char) : Lexeme := .token (.punct c)

/-- The token, unless it is a blank. -/
def token? : Lexeme → Option Token
  | .blank => none
  | .token t => some t

/-- The tokens, without the blanks. -/
def tokens (ls : List Lexeme) : List Token := ls.filterMap token?

/-- The text of one lexeme. -/
def sql : Lexeme → String
  | .blank => " "
  | .token t => t.sql

/-- The text of lexemes. -/
def chars (ls : List Lexeme) : List Char := ls.flatMap fun l => l.sql.toList

/-- Lists with a comma between neighbours. -/
def commaList : List (List Lexeme) → List Lexeme
  | [] => []
  | [l] => l
  | l :: rest => l ++ [punct ',', .blank] ++ commaList rest

@[simp] theorem tokens_nil : tokens [] = [] := rfl

@[simp] theorem tokens_blank (ls : List Lexeme) : tokens (.blank :: ls) = tokens ls := rfl

@[simp] theorem tokens_token (t : Token) (ls : List Lexeme) :
    tokens (.token t :: ls) = t :: tokens ls := rfl

/-- The tokens of neighbours are neighbours. -/
@[simp] theorem tokens_append (ls ms : List Lexeme) : tokens (ls ++ ms) = tokens ls ++ tokens ms :=
  List.filterMap_append

@[simp] theorem chars_nil : chars [] = [] := rfl

@[simp] theorem chars_cons (l : Lexeme) (ls : List Lexeme) :
    chars (l :: ls) = l.sql.toList ++ chars ls := rfl

end Lexeme

open Lexeme

/-! ## Names, literals, operators -/

/-- A name on its own. -/
def Ident.lexeme (i : Ident) : Lexeme := .token (.ident i.name)

/-- A possibly qualified name. -/
def qualifiedLexemes (qualifier : Option Ident) (name : Ident) : List Lexeme :=
  (qualifier.elim [] fun q => [q.lexeme, punct '.']) ++ [name.lexeme]

/-- A column with its qualifier. -/
def ColumnName.lexemes (c : ColumnName) : List Lexeme := qualifiedLexemes c.qualifier c.name

/-- A table with its qualifier. -/
def TableName.lexemes (t : TableName) : List Lexeme := qualifiedLexemes t.qualifier t.name

/-- An alias, if there is one. -/
def aliasLexemes (asName : Option Ident) : List Lexeme :=
  asName.elim [] fun a => [.blank, word "AS", .blank, a.lexeme]

/-- A table with its alias. -/
def TableExpr.lexemes (t : TableExpr) : List Lexeme := t.table.lexemes ++ aliasLexemes t.asName

/-- The one token of a literal; an integer and a float are both numbers. -/
def Literal.token : Literal → Token
  | .str s => .str s
  | .int n => .number (toString n.toInt)
  | .float x => .number (sqlFloat.write x)

/-- The one token of a bind variable. -/
def BindVar.token (v : BindVar) : Token := .bind v.name

/-- An operator, which may be two words. -/
def Comparison.lexemes : Comparison → List Lexeme
  | .like => [word "LIKE"]
  | .notLike => [word "NOT", .blank, word "LIKE"]
  | .eq => [.token (.op "=")]
  | .notEq => [.token (.op "!=")]
  | .lt => [.token (.op "<")]
  | .ltEq => [.token (.op "<=")]
  | .gt => [.token (.op ">")]
  | .gtEq => [.token (.op ">=")]

/-! ## Expressions -/

/-- An operand that must bind at least as tightly as `least`. -/
def operandLexemes (e : Expr) (least : Precedence) (ls : List Lexeme) : List Lexeme :=
  if e.precedence.rank < least.rank then [punct '('] ++ ls ++ [punct ')'] else ls

mutual

/-- An expression. -/
def Expr.lexemes : Expr → List Lexeme
  | .column c => c.lexemes
  | .literal l => [.token l.token]
  | .bind v => [.token v.token]
  | .null => [word "NULL"]
  | .comparison left op right =>
    operandLexemes left .atom left.lexemes ++ ([.blank] ++ op.lexemes ++ [.blank]) ++
    operandLexemes right .atom right.lexemes
  | .and left right =>
    operandLexemes left .and left.lexemes ++ [.blank, word "AND", .blank] ++
    operandLexemes right .and right.lexemes
  | .or left right =>
    operandLexemes left .or left.lexemes ++ [.blank, word "OR", .blank] ++
    operandLexemes right .or right.lexemes
  | .not e => [word "NOT", .blank] ++ operandLexemes e .not e.lexemes
  | .paren e => [punct '('] ++ e.lexemes ++ [punct ')']
  | .func f => f.lexemes
  | .isIn e negated list =>
    operandLexemes e .atom e.lexemes ++
    (if negated then [.blank, word "NOT", .blank, word "IN", .blank, punct '(']
      else [.blank, word "IN", .blank, punct '(']) ++
    commaList (Expr.lexemeLists list) ++ [punct ')']
  | .isNull e negated =>
    operandLexemes e .atom e.lexemes ++
    (if negated then [.blank, word "IS", .blank, word "NOT", .blank, word "NULL"]
      else [.blank, word "IS", .blank, word "NULL"])

/-- The expressions of a list, each with lexemes of its own. -/
def Expr.lexemeLists : List Expr → List (List Lexeme)
  | [] => []
  | e :: rest => e.lexemes :: Expr.lexemeLists rest

/-- A function call. -/
def FuncCall.lexemes : FuncCall → List Lexeme
  | ⟨name, distinct, args⟩ =>
    [name.lexeme, punct '('] ++ (if distinct then [word "DISTINCT", .blank] else []) ++
    commaList (SelectItem.lexemeLists args) ++ [punct ')']

/-- An entry of a select list. -/
def SelectItem.lexemes : SelectItem → List Lexeme
  | .star => [punct '*']
  | .qualifiedStar table => [table.lexeme, punct '.', punct '*']
  | .expr e asName => e.lexemes ++ aliasLexemes asName

/-- The entries of a select list, each with lexemes of its own. -/
def SelectItem.lexemeLists : List SelectItem → List (List Lexeme)
  | [] => []
  | i :: rest => i.lexemes :: SelectItem.lexemeLists rest

end

/-- The lexemes of a list are those of its expressions, one by one. -/
theorem Expr.lexemeLists_eq_map (es : List Expr) : Expr.lexemeLists es = es.map Expr.lexemes := by
  induction es with
  | nil => rw [Expr.lexemeLists]; rfl
  | cons e rest ih => rw [Expr.lexemeLists, ih]; rfl

/-- The lexemes of a select list are those of its entries, one by one. -/
theorem SelectItem.lexemeLists_eq_map (is : List SelectItem) :
    SelectItem.lexemeLists is = is.map SelectItem.lexemes := by
  induction is with
  | nil => rw [SelectItem.lexemeLists]; rfl
  | cons i rest ih => rw [SelectItem.lexemeLists, ih]; rfl

/-! ## Induction over expressions

Expressions occur in lists of expressions and in arguments of calls. The principle hands over both
kinds of sub-expression by membership, so that a proof over all expressions is one induction. -/

/-- Induction over an expression: `func` and `isIn` know it of every expression they hold. -/
theorem Expr.tree_induction {motive : Expr → Prop} (column : ∀ c, motive (.column c))
    (literal : ∀ l, motive (.literal l)) (bind : ∀ v, motive (.bind v)) (null : motive .null)
    (comparison : ∀ left op right, motive left → motive right → motive (.comparison left op right))
    (and : ∀ left right, motive left → motive right → motive (.and left right))
    (or : ∀ left right, motive left → motive right → motive (.or left right))
    (not : ∀ e, motive e → motive (.not e)) (paren : ∀ e, motive e → motive (.paren e))
    (func : ∀ name distinct args, (∀ e asName, .expr e asName ∈ args → motive e) →
      motive (.func ⟨name, distinct, args⟩))
    (isIn : ∀ e negated list, motive e → (∀ x ∈ list, motive x) → motive (.isIn e negated list))
    (isNull : ∀ e negated, motive e → motive (.isNull e negated)) (e : Expr) : motive e := by
  refine @Expr.rec motive (fun f => motive (.func f))
    (fun i => ∀ e asName, i = .expr e asName → motive e) (fun es => ∀ x ∈ es, motive x)
    (fun args => ∀ e asName, .expr e asName ∈ args → motive e) column literal bind null comparison
    and or not paren (fun _ h => h) isIn isNull func ?star ?qualifiedStar ?expr ?nil ?cons ?noArgs
    ?args e
  case star => exact fun _ _ h => nomatch h
  case qualifiedStar => exact fun _ _ _ h => nomatch h
  case expr =>
    intro e _ he x _ h
    rwa [← (SelectItem.expr.inj h).1]
  case nil => simp
  case cons => exact fun _ _ he hes => List.forall_mem_cons.mpr ⟨he, hes⟩
  case noArgs => simp
  case args =>
    intro i is hi his x asName h
    rcases List.mem_cons.mp h with h | h
    · exact hi x asName h.symm
    · exact his x asName h

/-! ## Clauses -/

/-- An entry of an `ORDER BY` list. Ascending order has no word of its own. -/
def OrderItem.lexemes (o : OrderItem) : List Lexeme :=
  o.expr.lexemes ++ (if o.direction = .desc then [.blank, word "DESC"] else [])

/-- A `LIMIT` clause with its offset, if it has one. -/
def Limit.lexemes (l : Limit) : List Lexeme :=
  [word "LIMIT", .blank] ++ l.rowcount.lexemes ++
  (l.offset.elim [] fun e => [.blank, word "OFFSET", .blank] ++ e.lexemes)

/-- A column and its new value. -/
def Assignment.lexemes (a : Assignment) : List Lexeme :=
  a.column.lexemes ++ [Lexeme.blank, .token (.op "="), .blank] ++ a.value.lexemes

/-- A row in its parentheses. -/
def Row.lexemes (r : Row) : List Lexeme :=
  [punct '('] ++ commaList (r.values.map Expr.lexemes) ++ [punct ')']

/-- A keyword and an expression, nothing when there is none. -/
def optionClause (keyword : String) (e : Option Expr) : List Lexeme :=
  e.elim [] fun e => [.blank, word keyword, .blank] ++ e.lexemes

/-- Keywords and a comma list, nothing when the list is empty. -/
def listClause (keywords : List Lexeme) (items : List (List Lexeme)) : List Lexeme :=
  if items.isEmpty then [] else keywords ++ commaList items

/-! ## Statements -/

/-- A query with the clauses it has, in their one order. -/
def Select.lexemes (s : Select) : List Lexeme :=
  [word "SELECT", .blank] ++ (if s.distinct then [word "DISTINCT", .blank] else []) ++
  commaList (s.columns.map SelectItem.lexemes) ++
  listClause [.blank, word "FROM", .blank] (s.tables.map TableExpr.lexemes) ++
  optionClause "WHERE" s.filter ++
  listClause [.blank, word "GROUP", .blank, word "BY", .blank] (s.groupBy.map Expr.lexemes) ++
  optionClause "HAVING" s.having ++
  listClause [.blank, word "ORDER", .blank, word "BY", .blank] (s.orderBy.map OrderItem.lexemes) ++
  s.limit.elim [] fun l => .blank :: l.lexemes

/-- An insertion. The columns stand in parentheses or are left out. -/
def Insert.lexemes (s : Insert) : List Lexeme :=
  [word "INSERT", .blank, word "INTO", .blank] ++ s.table.lexemes ++
  (if s.columns.isEmpty then []
    else [.blank, punct '('] ++ commaList (s.columns.map fun i => [i.lexeme]) ++ [punct ')']) ++
  [.blank, word "VALUES", .blank] ++ commaList (s.rows.map Row.lexemes)

/-- An update. -/
def Update.lexemes (s : Update) : List Lexeme :=
  [word "UPDATE", .blank] ++ s.table.lexemes ++ [.blank, word "SET", .blank] ++
  commaList (s.assignments.map Assignment.lexemes) ++ optionClause "WHERE" s.filter

/-- A deletion. -/
def Delete.lexemes (s : Delete) : List Lexeme :=
  [word "DELETE", .blank, word "FROM", .blank] ++ s.table.lexemes ++ optionClause "WHERE" s.filter

/-- A statement. -/
def Statement.lexemes : Statement → List Lexeme
  | .select s => s.lexemes
  | .insert s => s.lexemes
  | .update s => s.lexemes
  | .delete s => s.lexemes

end SqlRender
