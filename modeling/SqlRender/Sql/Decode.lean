import SqlRender.Document.Decoder
import SqlRender.Sql.Tree

/-!
# Sql/Decode — trees from documents

Records are objects or arrays of their fields; choices are a name or an object with one member. The
names of fields and alternatives are those that `Sql/Encode` writes.
-/

namespace SqlRender

/-- A name is a string. -/
def Ident.decoder : Decoder Ident := Decoder.string.map Ident.mk

/-- A bind variable is a string, its name without the colon. -/
def BindVar.decoder : Decoder BindVar := Decoder.string.map BindVar.mk

/-- A column with a qualifier or without. -/
def ColumnName.decoder : Decoder ColumnName :=
  ((Fields.defaulted "qualifier" (Decoder.option Ident.decoder) none).and
    (Fields.required "name" Ident.decoder)).map (fun (qualifier, name) => ⟨qualifier, name⟩)
  |>.decoder "struct ColName"

/-- A table with a qualifier or without. -/
def TableName.decoder : Decoder TableName :=
  ((Fields.defaulted "qualifier" (Decoder.option Ident.decoder) none).and
    (Fields.required "name" Ident.decoder)).map (fun (qualifier, name) => ⟨qualifier, name⟩)
  |>.decoder "struct TableName"

/-- A table with an alias or without. -/
def TableExpr.decoder : Decoder TableExpr :=
  ((Fields.required "table" TableName.decoder).and
    (Fields.defaulted "alias" (Decoder.option Ident.decoder) none)).map
      (fun (table, asName) => ⟨table, asName⟩)
  |>.decoder "struct TableExpr"

/-- A literal under the name of its type. -/
def Literal.decoder : Decoder Literal := Variant.decoder [
  ("str", .holds (Decoder.string.map .str)),
  ("int", .holds (Decoder.int64.map .int)),
  ("float", .holds (Decoder.double.map .float))]

/-- An operator by its name. -/
def Comparison.decoder : Decoder Comparison := Variant.decoder [
  ("=", .unit .eq), ("!=", .unit .notEq), ("<", .unit .lt), ("<=", .unit .ltEq),
  (">", .unit .gt), (">=", .unit .gtEq), ("like", .unit .like), ("not_like", .unit .notLike)]

/-! ## Expressions

The parts of an expression are decoded by the decoder `e` of one level less. -/

/-- An entry of a select list over expressions that `e` decodes. -/
def SelectItem.decoderOver (e : Decoder Expr) : Decoder SelectItem := Variant.decoder [
  ("star", .unit .star),
  ("qualified_star", .holds (Ident.decoder.map .qualifiedStar)),
  ("expr", .ofFields "struct variant SelectExpr::Expr"
    (((Fields.required "expr" e).and
      (Fields.defaulted "alias" (Decoder.option Ident.decoder) none)).map
        (fun (e, asName) => .expr e asName)))]

/-- A function call over expressions that `e` decodes. -/
def FuncCall.decoderOver (e : Decoder Expr) : Decoder FuncCall :=
  ((Fields.required "name" Ident.decoder).and
    ((Fields.defaulted "distinct" Decoder.bool false).and
      (Fields.defaulted "args" (Decoder.list (SelectItem.decoderOver e)) []))).map
        (fun (name, distinct, args) => ⟨name, distinct, args⟩)
  |>.decoder "struct FuncExpr"

/-- Two operands. -/
def operandFields (e : Decoder Expr) (make : Expr → Expr → Expr) :
    Fields (Option Expr × Option Expr) Expr :=
  ((Fields.required "left" e).and (Fields.required "right" e)).map
    (fun (left, right) => make left right)

/-- The alternatives of an expression over expressions that `e` decodes. -/
def Expr.variants (e : Decoder Expr) : List (String × Variant Expr) := [
  ("column", .holds (ColumnName.decoder.map .column)),
  ("literal", .holds (Literal.decoder.map .literal)),
  ("bind", .holds (BindVar.decoder.map .bind)),
  ("null", .unit .null),
  ("comparison", .ofFields "struct variant Expr::Comparison"
    (((Fields.required "left" e).and
      ((Fields.required "op" Comparison.decoder).and (Fields.required "right" e))).map
        (fun (left, op, right) => .comparison left op right))),
  ("and", .ofFields "struct variant Expr::And" (operandFields e .and)),
  ("or", .ofFields "struct variant Expr::Or" (operandFields e .or)),
  ("not", .holds (e.map .not)),
  ("paren", .holds (e.map .paren)),
  ("func", .holds ((FuncCall.decoderOver e).map .func)),
  ("in", .ofFields "struct variant Expr::In"
    (((Fields.required "expr" e).and
      ((Fields.defaulted "negated" Decoder.bool false).and
        (Fields.required "list" (Decoder.list e)))).map
        (fun (e, negated, list) => .isIn e negated list))),
  ("is_null", .ofFields "struct variant Expr::IsNull"
    (((Fields.required "expr" e).and (Fields.defaulted "negated" Decoder.bool false)).map
      (fun (e, negated) => .isNull e negated)))]

/-- Expressions of at most `levels` levels. -/
def Expr.decoderTo : Nat → Decoder Expr
  | 0 => fun _ _ _ => .error .malformed
  | levels + 1 => Variant.decoder (Expr.variants (Expr.decoderTo levels))

/-- Each level of an expression is a container of its own, so the depth bounds the levels. -/
def Expr.decoder : Decoder Expr := fun walk depth r => Expr.decoderTo (depth + 1) walk depth r

/-- An entry of a select list. -/
def SelectItem.decoder : Decoder SelectItem := SelectItem.decoderOver Expr.decoder

/-- A function call. -/
def FuncCall.decoder : Decoder FuncCall := FuncCall.decoderOver Expr.decoder

/-! ## Clauses and statements -/

/-- A direction by its name. -/
def Direction.decoder : Decoder Direction :=
  Variant.decoder [("asc", .unit .asc), ("desc", .unit .desc)]

/-- An entry of an `ORDER BY` list, ascending unless it says otherwise. -/
def OrderItem.decoder : Decoder OrderItem :=
  ((Fields.required "expr" Expr.decoder).and
    (Fields.defaulted "direction" Direction.decoder .asc)).map
      (fun (expr, direction) => ⟨expr, direction⟩)
  |>.decoder "struct OrderBy"

/-- A row count, possibly with an offset. -/
def Limit.decoder : Decoder Limit :=
  ((Fields.required "rowcount" Expr.decoder).and
    (Fields.defaulted "offset" (Decoder.option Expr.decoder) none)).map
      (fun (rowcount, offset) => ⟨rowcount, offset⟩)
  |>.decoder "struct Limit"

/-- A column and the value to give it. -/
def Assignment.decoder : Decoder Assignment :=
  ((Fields.required "column" ColumnName.decoder).and
    (Fields.required "value" Expr.decoder)).map (fun (column, value) => ⟨column, value⟩)
  |>.decoder "struct Assignment"

/-- A row is the list of its values. -/
def Row.decoder : Decoder Row := (Decoder.list Expr.decoder).map Row.mk

/-- The field of a `WHERE` clause. -/
def filterField : Fields (Option (Option Expr)) (Option Expr) :=
  Fields.defaulted "where" (Decoder.option Expr.decoder) none

/-- A query. Only its columns must be given. -/
def Select.decoder : Decoder Select :=
  ((Fields.defaulted "distinct" Decoder.bool false).and
    ((Fields.required "columns" (Decoder.list SelectItem.decoder)).and
      ((Fields.defaulted "from" (Decoder.list TableExpr.decoder) []).and
        (filterField.and
          ((Fields.defaulted "group_by" (Decoder.list Expr.decoder) []).and
            ((Fields.defaulted "having" (Decoder.option Expr.decoder) none).and
              ((Fields.defaulted "order_by" (Decoder.list OrderItem.decoder) []).and
                (Fields.defaulted "limit" (Decoder.option Limit.decoder) none)))))))).map
    (fun (distinct, columns, tables, filter, groupBy, having, orderBy, limit) =>
      ⟨distinct, columns, tables, filter, groupBy, having, orderBy, limit⟩)
  |>.decoder "struct Select"

/-- An insertion. The columns may be left out. -/
def Insert.decoder : Decoder Insert :=
  ((Fields.required "table" TableName.decoder).and
    ((Fields.defaulted "columns" (Decoder.list Ident.decoder) []).and
      (Fields.required "rows" (Decoder.list Row.decoder)))).map
    (fun (table, columns, rows) => ⟨table, columns, rows⟩)
  |>.decoder "struct Insert"

/-- An update, of every row unless there is a condition. -/
def Update.decoder : Decoder Update :=
  ((Fields.required "table" TableName.decoder).and
    ((Fields.required "set" (Decoder.list Assignment.decoder)).and filterField)).map
    (fun (table, assignments, filter) => ⟨table, assignments, filter⟩)
  |>.decoder "struct Update"

/-- A deletion, of every row unless there is a condition. -/
def Delete.decoder : Decoder Delete :=
  ((Fields.required "table" TableName.decoder).and filterField).map
    (fun (table, filter) => ⟨table, filter⟩)
  |>.decoder "struct Delete"

/-- A statement under the name of its kind. -/
def Statement.decoder : Decoder Statement := Variant.decoder [
  ("select", .holds (Select.decoder.map .select)),
  ("insert", .holds (Insert.decoder.map .insert)),
  ("update", .holds (Update.decoder.map .update)),
  ("delete", .holds (Delete.decoder.map .delete))]

end SqlRender
