import SqlRender.Json.Value
import SqlRender.Sql.Tree

/-!
# Sql/Encode — trees as JSON values

Fields come in a fixed order. What is absent is left out where leaving it out means the same; the
flags, the `from` list and the arguments of a call are always written.
-/

namespace SqlRender

/-- A name is a string. -/
def Ident.json (i : Ident) : Json := .string i.name

/-- A bind variable is a string, its name without the colon. -/
def BindVar.json (v : BindVar) : Json := .string v.name

/-- A member that is left out when there is nothing to write. -/
def optionalMember {α : Type} (name : String) (write : α → Json) (value : Option α) :
    List (String × Json) :=
  value.toList.map fun a => (name, write a)

/-- A member that is left out when its list is empty. -/
def listMember (name : String) (items : List Json) : List (String × Json) :=
  if items.isEmpty then [] else [(name, .array items)]

/-- An alternative that holds something. -/
def Json.tagged (name : String) (value : Json) : Json := .object [(name, value)]

/-- A column; without a qualifier only its name. -/
def ColumnName.json (c : ColumnName) : Json :=
  .object (optionalMember "qualifier" Ident.json c.qualifier ++ [("name", c.name.json)])

/-- A table; without a qualifier only its name. -/
def TableName.json (t : TableName) : Json :=
  .object (optionalMember "qualifier" Ident.json t.qualifier ++ [("name", t.name.json)])

/-- A table and its alias, if it has one. -/
def TableExpr.json (t : TableExpr) : Json :=
  .object (("table", t.table.json) :: optionalMember "alias" Ident.json t.asName)

/-- A literal under the name of its type. -/
def Literal.json : Literal → Json
  | .str s => .tagged "str" (.string s)
  | .int n => .tagged "int" (.int n.toInt)
  | .float x => .tagged "float" (.float x)

/-- The name of an operator: its symbol, or its words in lower case. -/
def Comparison.json : Comparison → Json
  | .eq => .string "="
  | .notEq => .string "!="
  | .lt => .string "<"
  | .ltEq => .string "<="
  | .gt => .string ">"
  | .gtEq => .string ">="
  | .like => .string "like"
  | .notLike => .string "not_like"

mutual

/-- An expression under the name of its alternative; `NULL` holds nothing and is only a name. -/
def Expr.json : Expr → Json
  | .column c => .tagged "column" c.json
  | .literal l => .tagged "literal" l.json
  | .bind v => .tagged "bind" v.json
  | .null => .string "null"
  | .comparison left op right =>
    .tagged "comparison" (.object [("left", left.json), ("op", op.json), ("right", right.json)])
  | .and left right => .tagged "and" (.object [("left", left.json), ("right", right.json)])
  | .or left right => .tagged "or" (.object [("left", left.json), ("right", right.json)])
  | .not e => .tagged "not" e.json
  | .paren e => .tagged "paren" e.json
  | .func f => .tagged "func" f.json
  | .isIn e negated list =>
    .tagged "in"
      (.object [("expr", e.json), ("negated", .bool negated), ("list", .array (Expr.jsons list))])
  | .isNull e negated =>
    .tagged "is_null" (.object [("expr", e.json), ("negated", .bool negated)])

/-- The values of a list of expressions. -/
def Expr.jsons : List Expr → List Json
  | [] => []
  | e :: rest => e.json :: Expr.jsons rest

/-- A function call. The flag and the arguments are written even where they say nothing, so a call
without arguments still holds an array. -/
def FuncCall.json : FuncCall → Json
  | ⟨name, distinct, args⟩ =>
    .object [("name", name.json), ("distinct", .bool distinct),
      ("args", .array (SelectItem.jsons args))]

/-- An entry of a select list; a bare star is only a name. -/
def SelectItem.json : SelectItem → Json
  | .star => .string "star"
  | .qualifiedStar table => .tagged "qualified_star" table.json
  | .expr e asName =>
    .tagged "expr" (.object (("expr", e.json) :: optionalMember "alias" Ident.json asName))

/-- The values of a select list. -/
def SelectItem.jsons : List SelectItem → List Json
  | [] => []
  | i :: rest => i.json :: SelectItem.jsons rest

end

/-- The name of a direction. -/
def Direction.json : Direction → Json
  | .asc => .string "asc"
  | .desc => .string "desc"

/-- An entry of an `ORDER BY` list, always with its direction. -/
def OrderItem.json (o : OrderItem) : Json :=
  .object [("expr", o.expr.json), ("direction", o.direction.json)]

/-- A row count, and an offset if there is one. -/
def Limit.json (l : Limit) : Json :=
  .object (("rowcount", l.rowcount.json) :: optionalMember "offset" Expr.json l.offset)

/-- A column and its new value. -/
def Assignment.json (a : Assignment) : Json :=
  .object [("column", a.column.json), ("value", a.value.json)]

/-- A row as the array of its values. -/
def Row.json (r : Row) : Json := .array (r.values.map Expr.json)

/-- A query. The flag, the columns and the tables are always there; the clauses only if they are not
empty. -/
def Select.json (s : Select) : Json :=
  .object ([("distinct", .bool s.distinct), ("columns", .array (s.columns.map SelectItem.json)),
      ("from", .array (s.tables.map TableExpr.json))] ++
    optionalMember "where" Expr.json s.filter ++
    listMember "group_by" (s.groupBy.map Expr.json) ++
    optionalMember "having" Expr.json s.having ++
    listMember "order_by" (s.orderBy.map OrderItem.json) ++
    optionalMember "limit" Limit.json s.limit)

/-- An insertion. The columns are left out when none are named. -/
def Insert.json (s : Insert) : Json :=
  .object ([("table", s.table.json)] ++ listMember "columns" (s.columns.map Ident.json) ++
    [("rows", .array (s.rows.map Row.json))])

/-- An update and its condition, if it has one. -/
def Update.json (s : Update) : Json :=
  .object ([("table", s.table.json), ("set", .array (s.assignments.map Assignment.json))] ++
    optionalMember "where" Expr.json s.filter)

/-- A deletion and its condition, if it has one. -/
def Delete.json (s : Delete) : Json :=
  .object (("table", s.table.json) :: optionalMember "where" Expr.json s.filter)

/-- A statement under the name of its kind. -/
def Statement.json : Statement → Json
  | .select s => .tagged "select" s.json
  | .insert s => .tagged "insert" s.json
  | .update s => .tagged "update" s.json
  | .delete s => .tagged "delete" s.json

end SqlRender
