import SqlRender.Text.Quoted
import SqlRender.Decimal.Layout
import SqlRender.Sql.Tree
import SqlRender.Sql.Word

/-!
# Sql/Violation — trees that would not render as SQL

A tree is checked in the order in which it is written, and the first violation is reported: a bind
name that is no word, a float that is not finite, or a list without items where SQL wants one.
-/

namespace SqlRender

/-- The lists that need at least one item. -/
inductive ListKind where
  | columns
  | inList
  | rows
  | row
  | assignments
  deriving DecidableEq, Repr

/-- The name of the list in messages. -/
def ListKind.label : ListKind → String
  | .columns => "SELECT column list"
  | .inList => "IN list"
  | .rows => "INSERT VALUES list"
  | .row => "VALUES row"
  | .assignments => "UPDATE SET list"

/-- What keeps a tree from being SQL. -/
inductive Violation where
  | bindName (name : String)
  | nonFinite (x : Double)
  | emptyList (kind : ListKind)
  deriving DecidableEq, Repr

/-- What a user is told. -/
def Violation.message : Violation → String
  | .bindName name => "bind variable name " ++ Quoted.text name ++ " must be a plain identifier"
  | .nonFinite x => "float literal " ++ Decimal.Layout.plain.write x ++ " is not finite"
  | .emptyList kind => kind.label ++ " must not be empty"

/-- The violation of an empty list. -/
def emptyViolation? {α : Type} (kind : ListKind) : List α → Option Violation
  | [] => some (.emptyList kind)
  | _ :: _ => none

/-- A float must be finite. -/
def Literal.violation? : Literal → Option Violation
  | .float x => if x.isFinite then none else some (.nonFinite x)
  | _ => none

/-- The name of a bind variable must be a word. -/
def BindVar.violation? (v : BindVar) : Option Violation :=
  if isWord v.name then none else some (.bindName v.name)

mutual

/-- The first violation in an expression. -/
def Expr.violation? : Expr → Option Violation
  | .column _ | .null => none
  | .literal l => l.violation?
  | .bind v => v.violation?
  | .comparison left _ right | .and left right | .or left right =>
    left.violation?.or right.violation?
  | .not e | .paren e => e.violation?
  | .func f => f.violation?
  | .isIn e _ list =>
    (e.violation?.or (emptyViolation? .inList list)).or (Expr.firstViolation? list)
  | .isNull e _ => e.violation?

/-- The first violation in a list of expressions. -/
def Expr.firstViolation? : List Expr → Option Violation
  | [] => none
  | e :: rest => e.violation?.or (Expr.firstViolation? rest)

/-- The first violation in the arguments of a call. -/
def FuncCall.violation? : FuncCall → Option Violation
  | ⟨_, _, args⟩ => SelectItem.firstViolation? args

/-- The first violation in an entry of a select list. -/
def SelectItem.violation? : SelectItem → Option Violation
  | .star | .qualifiedStar _ => none
  | .expr e _ => e.violation?

/-- The first violation in a select list. -/
def SelectItem.firstViolation? : List SelectItem → Option Violation
  | [] => none
  | i :: rest => i.violation?.or (SelectItem.firstViolation? rest)

end

/-- The first violation in a `LIMIT` clause. -/
def Limit.violation? (l : Limit) : Option Violation :=
  l.rowcount.violation?.or (l.offset.bind Expr.violation?)

/-- The first violation in a row, which needs a value. -/
def Row.violation? (r : Row) : Option Violation :=
  (emptyViolation? .row r.values).or (Expr.firstViolation? r.values)

/-- The first violation in a query. Its tables and aliases are names, which cannot be wrong. -/
def Select.violation? (s : Select) : Option Violation :=
  (emptyViolation? .columns s.columns)
    |>.or (SelectItem.firstViolation? s.columns)
    |>.or (s.filter.bind Expr.violation?)
    |>.or (Expr.firstViolation? s.groupBy)
    |>.or (s.having.bind Expr.violation?)
    |>.or (s.orderBy.findSome? fun o => o.expr.violation?)
    |>.or (s.limit.bind Limit.violation?)

/-- The first violation in an insertion, which needs a row. -/
def Insert.violation? (s : Insert) : Option Violation :=
  (emptyViolation? .rows s.rows).or (s.rows.findSome? Row.violation?)

/-- The first violation in an update, which needs an assignment. -/
def Update.violation? (s : Update) : Option Violation :=
  (emptyViolation? .assignments s.assignments)
    |>.or (s.assignments.findSome? fun a => a.value.violation?)
    |>.or (s.filter.bind Expr.violation?)

/-- The first violation in a deletion. -/
def Delete.violation? (s : Delete) : Option Violation := s.filter.bind Expr.violation?

/-- The first violation in a statement, in the order of its text. -/
def Statement.violation? : Statement → Option Violation
  | .select s => s.violation?
  | .insert s => s.violation?
  | .update s => s.violation?
  | .delete s => s.violation?

end SqlRender
