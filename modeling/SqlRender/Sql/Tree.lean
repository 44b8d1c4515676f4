import SqlRender.Decimal.Double

/-!
# Sql/Tree — statements of the supported SQL subset as trees
-/

namespace SqlRender

/-- A column, table, alias or function name. Any text is a name. -/
structure Ident where
  name : String
  deriving DecidableEq, Repr, Inhabited

/-- A column name, possibly qualified. -/
structure ColumnName where
  qualifier : Option Ident
  name : Ident
  deriving DecidableEq, Repr, Inhabited

/-- A table name, possibly qualified. -/
structure TableName where
  qualifier : Option Ident
  name : Ident
  deriving DecidableEq, Repr, Inhabited

/-- A table of a `FROM` list, possibly aliased. -/
structure TableExpr where
  table : TableName
  asName : Option Ident
  deriving DecidableEq, Repr, Inhabited

/-- A literal value. -/
inductive Literal where
  | str (s : String)
  | int (n : Int64)
  | float (x : Double)
  deriving DecidableEq, Repr, Inhabited

/-- A named bind variable. -/
structure BindVar where
  name : String
  deriving DecidableEq, Repr, Inhabited

/-- A comparison operator. -/
inductive Comparison where
  | eq
  | notEq
  | lt
  | ltEq
  | gt
  | gtEq
  | like
  | notLike
  deriving DecidableEq, Repr, Inhabited

mutual

/-- An expression. -/
inductive Expr where
  | column (c : ColumnName)
  | literal (l : Literal)
  | bind (v : BindVar)
  | null
  | comparison (left : Expr) (op : Comparison) (right : Expr)
  | and (left right : Expr)
  | or (left right : Expr)
  | not (e : Expr)
  | paren (e : Expr)
  | func (f : FuncCall)
  | isIn (e : Expr) (negated : Bool) (list : List Expr)
  | isNull (e : Expr) (negated : Bool)

/-- A function call. -/
inductive FuncCall where
  | mk (name : Ident) (distinct : Bool) (args : List SelectItem)

/-- An entry of a select list, or an argument of a function. -/
inductive SelectItem where
  | star
  | qualifiedStar (table : Ident)
  | expr (e : Expr) (asName : Option Ident)

end

instance : Inhabited Expr := ⟨.null⟩

/-- The direction of an `ORDER BY` entry. -/
inductive Direction where
  | asc
  | desc
  deriving DecidableEq, Repr, Inhabited

/-- An entry of an `ORDER BY` list. -/
structure OrderItem where
  expr : Expr
  direction : Direction

/-- A `LIMIT` clause. -/
structure Limit where
  rowcount : Expr
  offset : Option Expr

/-- An entry of an `UPDATE … SET` list. -/
structure Assignment where
  column : ColumnName
  value : Expr

/-- One tuple of an `INSERT … VALUES` list. -/
structure Row where
  values : List Expr

/-- A `SELECT` query. -/
structure Select where
  distinct : Bool := false
  columns : List SelectItem
  tables : List TableExpr := []
  filter : Option Expr := none
  groupBy : List Expr := []
  having : Option Expr := none
  orderBy : List OrderItem := []
  limit : Option Limit := none

/-- An `INSERT` statement with the rows it adds. -/
structure Insert where
  table : TableName
  columns : List Ident := []
  rows : List Row

/-- An `UPDATE` statement. -/
structure Update where
  table : TableName
  assignments : List Assignment
  filter : Option Expr := none

/-- A `DELETE` statement. -/
structure Delete where
  table : TableName
  filter : Option Expr := none

/-- A statement, the root of a document. -/
inductive Statement where
  | select (s : Select)
  | insert (s : Insert)
  | update (s : Update)
  | delete (s : Delete)

namespace FuncCall

/-- The name of the function. -/
def name : FuncCall → Ident
  | ⟨name, _, _⟩ => name

/-- Whether `DISTINCT` stands before the arguments. -/
def distinct : FuncCall → Bool
  | ⟨_, distinct, _⟩ => distinct

/-- The arguments, which may be stars. -/
def args : FuncCall → List SelectItem
  | ⟨_, _, args⟩ => args

end FuncCall

/-- The operator in SQL text. -/
def Comparison.sql : Comparison → String
  | .eq => "="
  | .notEq => "!="
  | .lt => "<"
  | .ltEq => "<="
  | .gt => ">"
  | .gtEq => ">="
  | .like => "LIKE"
  | .notLike => "NOT LIKE"

/-- Binding strength of an expression, loosest first. -/
inductive Precedence where
  | or
  | and
  | not
  | predicate
  | atom
  deriving DecidableEq, Repr

/-- The place in the order of binding strengths. -/
def Precedence.rank : Precedence → Nat
  | .or => 0
  | .and => 1
  | .not => 2
  | .predicate => 3
  | .atom => 4

/-- How tightly an expression binds. Whatever has delimiters of its own is an atom. -/
def Expr.precedence : Expr → Precedence
  | .or .. => .or
  | .and .. => .and
  | .not _ => .not
  | .comparison .. | .isIn .. | .isNull .. => .predicate
  | .column _ | .literal _ | .bind _ | .null | .paren _ | .func _ => .atom

end SqlRender
