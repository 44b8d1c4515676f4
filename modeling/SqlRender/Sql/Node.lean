import SqlRender.Template.Node
import SqlRender.Decimal.Layout
import SqlRender.Sql.Tree
import SqlRender.Sql.Word

/-!
# Sql/Node — trees as nodes that write SQL

Keywords are in upper case, and names are quoted only where they have to be. Literals and bind
variables are tracked. An operand that binds looser than its operator asks for is written in
parentheses.
-/

namespace SqlRender

/-- The type that faults report for a tree. -/
def treeType (name : String) : String := "querytext_sql::ast::" ++ name

/-- Floats are positional from 0.0001 up to 10 ^ 16; a positive exponent has no sign. -/
def sqlFloat : Decimal.Layout := ⟨some (-4), some 15, false, .up⟩

/-- A call that fills `template` with one node. -/
def Call.one (template : String) (n : Node) : Call := ⟨template, [.node n]⟩

/-- A call that copies `text`, which holds no marker. -/
def Call.text (text : String) : Call := ⟨text, []⟩

/-- A call that writes a tracked literal. -/
def Call.tracked (text : String) : Call := ⟨"%a", [.str text]⟩

/-- A name as it is, or between backticks with the backticks in it doubled. -/
def Ident.node (i : Ident) : Node :=
  ⟨treeType "Ident",
    if isPlainName i.name then [⟨"%s", [.str i.name]⟩]
    else [⟨"%c%s%c", [.byte 0x60, .str (doubled '\x60' i.name), .byte 0x60]⟩]⟩

/-- The calls for a possibly qualified name. -/
def qualifiedCalls (qualifier : Option Ident) (name : Ident) : List Call :=
  (qualifier.toList.map fun q => Call.one "%v." q.node) ++ [Call.one "%v" name.node]

/-- A column, behind its qualifier if it has one. -/
def ColumnName.node (c : ColumnName) : Node :=
  ⟨treeType "ColName", qualifiedCalls c.qualifier c.name⟩

/-- A table, behind its qualifier if it has one. -/
def TableName.node (t : TableName) : Node :=
  ⟨treeType "TableName", qualifiedCalls t.qualifier t.name⟩

/-- The call for an alias, if there is one. -/
def aliasCalls (asName : Option Ident) : List Call :=
  asName.toList.map fun a => Call.one " AS %v" a.node

/-- A table and its alias. -/
def TableExpr.node (t : TableExpr) : Node :=
  ⟨treeType "TableExpr", Call.one "%v" t.table.node :: aliasCalls t.asName⟩

/-- A literal in SQL text. -/
def Literal.sql : Literal → String
  | .str s => "'" ++ doubled '\'' s ++ "'"
  | .int n => toString n.toInt
  | .float x => sqlFloat.write x

/-- A literal is one tracked literal, quotes and sign included. -/
def Literal.node (l : Literal) : Node := ⟨treeType "Literal", [Call.tracked l.sql]⟩

/-- A bind variable in SQL text. -/
def BindVar.sql (v : BindVar) : String := ":" ++ v.name

/-- A bind variable is one tracked literal, colon included. -/
def BindVar.node (v : BindVar) : Node := ⟨treeType "BindVar", [Call.tracked v.sql]⟩

/-- The call for an operand that must bind at least as tightly as `least`. -/
def operandCall (e : Expr) (least : Precedence) (n : Node) : Call :=
  Call.one (if e.precedence.rank < least.rank then "(%v)" else "%v") n

mutual

/-- The calls that write an expression. -/
def Expr.calls : Expr → List Call
  | .column c => [Call.one "%v" c.node]
  | .literal l => [Call.one "%v" l.node]
  | .bind v => [Call.one "%v" v.node]
  | .null => [Call.text "NULL"]
  | .comparison left op right =>
    [operandCall left .atom ⟨treeType "Expr", left.calls⟩, ⟨" %s ", [.str op.sql]⟩,
      operandCall right .atom ⟨treeType "Expr", right.calls⟩]
  | .and left right =>
    [operandCall left .and ⟨treeType "Expr", left.calls⟩, Call.text " AND ",
      operandCall right .and ⟨treeType "Expr", right.calls⟩]
  | .or left right =>
    [operandCall left .or ⟨treeType "Expr", left.calls⟩, Call.text " OR ",
      operandCall right .or ⟨treeType "Expr", right.calls⟩]
  | .not e => [Call.text "NOT ", operandCall e .not ⟨treeType "Expr", e.calls⟩]
  | .paren e => [Call.one "(%v)" ⟨treeType "Expr", e.calls⟩]
  | .func f => [Call.one "%v" ⟨treeType "FuncExpr", f.calls⟩]
  | .isIn e negated list =>
    [operandCall e .atom ⟨treeType "Expr", e.calls⟩,
      ⟨"%s", [.str (if negated then " NOT IN (" else " IN (")]⟩] ++
    Node.list (Expr.nodes list) ++ [Call.text ")"]
  | .isNull e negated =>
    [operandCall e .atom ⟨treeType "Expr", e.calls⟩,
      ⟨"%s", [.str (if negated then " IS NOT NULL" else " IS NULL")]⟩]

/-- The nodes of a list of expressions. -/
def Expr.nodes : List Expr → List Node
  | [] => []
  | e :: rest => ⟨treeType "Expr", e.calls⟩ :: Expr.nodes rest

/-- The calls that write a function call. -/
def FuncCall.calls : FuncCall → List Call
  | ⟨name, distinct, args⟩ =>
    [Call.one "%v(" name.node] ++ (if distinct then [Call.text "DISTINCT "] else []) ++
    Node.list (SelectItem.nodes args) ++ [⟨"%c", [.byte 0x29]⟩]

/-- The calls that write an entry of a select list. -/
def SelectItem.calls : SelectItem → List Call
  | .star => [⟨"%c", [.char '*']⟩]
  | .qualifiedStar table => [Call.one "%v.*" table.node]
  | .expr e asName => Call.one "%v" ⟨treeType "Expr", e.calls⟩ :: aliasCalls asName

/-- The nodes of a select list. -/
def SelectItem.nodes : List SelectItem → List Node
  | [] => []
  | i :: rest => ⟨treeType "SelectExpr", i.calls⟩ :: SelectItem.nodes rest

end

/-- An expression on its own, without the parentheses that an operator would ask for. -/
def Expr.node (e : Expr) : Node := ⟨treeType "Expr", e.calls⟩

/-- A function call. -/
def FuncCall.node (f : FuncCall) : Node := ⟨treeType "FuncExpr", f.calls⟩

/-- An entry of a select list. -/
def SelectItem.node (i : SelectItem) : Node := ⟨treeType "SelectExpr", i.calls⟩

/-- An entry of an `ORDER BY` list. Only descending order is written. -/
def OrderItem.node (o : OrderItem) : Node :=
  ⟨treeType "OrderBy",
    Call.one "%v" o.expr.node :: (if o.direction = .desc then [Call.text " DESC"] else [])⟩

/-- A `LIMIT` clause. -/
def Limit.node (l : Limit) : Node :=
  ⟨treeType "Limit",
    Call.one "LIMIT %v" l.rowcount.node ::
      l.offset.toList.map fun e => Call.one " OFFSET %v" e.node⟩

/-- A column and its new value. -/
def Assignment.node (a : Assignment) : Node :=
  ⟨treeType "Assignment", [⟨"%v = %v", [.node a.column.node, .node a.value.node]⟩]⟩

/-- A row in parentheses. -/
def Row.node (r : Row) : Node :=
  ⟨treeType "Row", [Call.text "("] ++ Node.list (r.values.map Expr.node) ++ [Call.text ")"]⟩

/-- The call for a `WHERE` clause, if there is one. -/
def filterCalls (filter : Option Expr) : List Call :=
  filter.toList.map fun e => Call.one " WHERE %v" e.node

/-- A keyword and a comma list, nothing when the list is empty. -/
def clauseCalls (keyword : String) (nodes : List Node) : List Call :=
  if nodes.isEmpty then [] else Call.text keyword :: Node.list nodes

/-- A query, its clauses in the order of the grammar. -/
def Select.node (s : Select) : Node :=
  ⟨treeType "Select",
    [Call.text "SELECT "] ++ (if s.distinct then [Call.text "DISTINCT "] else []) ++
    Node.list (s.columns.map SelectItem.node) ++
    clauseCalls " FROM " (s.tables.map TableExpr.node) ++
    filterCalls s.filter ++
    clauseCalls " GROUP BY " (s.groupBy.map Expr.node) ++
    (s.having.toList.map fun e => Call.one " HAVING %v" e.node) ++
    clauseCalls " ORDER BY " (s.orderBy.map OrderItem.node) ++
    (s.limit.toList.map fun l => Call.one " %v" l.node)⟩

/-- An insertion. Without columns there are no parentheses for them. -/
def Insert.node (s : Insert) : Node :=
  ⟨treeType "Insert",
    [Call.one "INSERT INTO %v" s.table.node] ++
    (if s.columns.isEmpty then []
      else [Call.text " ("] ++ Node.list (s.columns.map Ident.node) ++ [Call.text ")"]) ++
    [Call.text " VALUES "] ++ Node.list (s.rows.map Row.node)⟩

/-- An update. -/
def Update.node (s : Update) : Node :=
  ⟨treeType "Update",
    [Call.one "UPDATE %v SET " s.table.node] ++ Node.list (s.assignments.map Assignment.node) ++
    filterCalls s.filter⟩

/-- A deletion. -/
def Delete.node (s : Delete) : Node :=
  ⟨treeType "Delete", Call.one "DELETE FROM %v" s.table.node :: filterCalls s.filter⟩

/-- A statement hands everything to the node of its kind. -/
def Statement.node : Statement → Node
  | .select s => ⟨treeType "Statement", [Call.one "%v" s.node]⟩
  | .insert s => ⟨treeType "Statement", [Call.one "%v" s.node]⟩
  | .update s => ⟨treeType "Statement", [Call.one "%v" s.node]⟩
  | .delete s => ⟨treeType "Statement", [Call.one "%v" s.node]⟩

end SqlRender
