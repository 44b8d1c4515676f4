import SqlRender.Proofs.Legible
import SqlRender.Proofs.Sliced

/-!
# Proofs/Violations — checking a tree reports the first of all its violations

`sites` lists, in writing order, every place of a tree where a violation can be: its literals and
bind variables, and the lists that need an item. The violations of a tree are those of its sites,
and the check of a tree reports the first of them (`Statement.violation?_eq`). It visits every
literal that is written: the sites hold all leaves, and the text of a tree that passes has no other
literal tokens (`violation_first_of_all`).
-/

namespace SqlRender

open Glyph Lexeme

/-! ## Plain words -/

/-- A letter of the English alphabet, small or capital. -/
def IsLetter (c : Char) : Prop := 'a' ≤ c ∧ c ≤ 'z' ∨ 'A' ≤ c ∧ c ≤ 'Z'

/-- One of the ten digits. -/
def IsDecimalDigit (c : Char) : Prop := '0' ≤ c ∧ c ≤ '9'

/-- A letter or an underscore, then letters, digits or underscores, all of them ASCII. -/
def IsPlainWord (name : String) : Prop :=
  ∃ c cs, name.toList = c :: cs ∧ (IsLetter c ∨ c = '_') ∧
    ∀ d ∈ cs, IsLetter d ∨ IsDecimalDigit d ∨ d = '_'

theorem isAlpha_iff (c : Char) : c.isAlpha = true ↔ IsLetter c := by
  have hupper : c.isUpper = true ↔ 'A' ≤ c ∧ c ≤ 'Z' := decide_eq_true_iff
  have hlower : c.isLower = true ↔ 'a' ≤ c ∧ c ≤ 'z' := by
    rw [← decide_eq_true_iff (p := 'a' ≤ c ∧ c ≤ 'z'), Bool.decide_and]
    rfl
  have halpha : c.isAlpha = true ↔ c.isUpper = true ∨ c.isLower = true := Bool.or_eq_true_iff
  rw [halpha, hupper, hlower, or_comm]
  rfl

/-- The program's test for the first character of a word. -/
theorem isWordStart_iff (c : Char) : isWordStart c = true ↔ IsLetter c ∨ c = '_' := by
  rw [isWordStart, Bool.or_eq_true, isAlpha_iff, beq_iff_eq]

/-- The program's test for the other characters of a word. -/
theorem isWordChar_iff (c : Char) :
    isWordChar c = true ↔ IsLetter c ∨ IsDecimalDigit c ∨ c = '_' := by
  have hdigit : c.isDigit = true ↔ IsDecimalDigit c := by
    simp [Char.isDigit, IsDecimalDigit, Char.le_def]
  rw [isWordChar, Bool.or_eq_true, Char.isAlphanum, Bool.or_eq_true, isAlpha_iff, hdigit,
    beq_iff_eq, or_assoc]

/-- **The program's test is the one that is promised.** -/
theorem isWord_iff (name : String) : isWord name = true ↔ IsPlainWord name := by
  rw [isWord, IsPlainWord]
  cases name.toList with
  | nil => simp
  | cons c cs => simp [isWordStart_iff, isWordChar_iff]

instance (name : String) : Decidable (IsPlainWord name) := decidable_of_iff _ (isWord_iff name)

/-! ## Sites and their violations -/

/-- What a violation tells: the bind name, the float, or the label of the list. -/
inductive Violation.Subject where
  | name (name : String)
  | float (x : Double)
  | list (label : String)
  deriving DecidableEq, Repr

/-- What the violation tells. -/
def Violation.subject : Violation → Violation.Subject
  | .bindName name => .name name
  | .nonFinite x => .float x
  | .emptyList kind => .list kind.label

/-- A label belongs to one kind of list. -/
theorem ListKind.label_injective : Function.Injective ListKind.label := by
  intro kind kind' h
  cases kind <;> cases kind' <;> first | rfl | exact absurd h (by decide)

/-- A place of a tree where a violation can be. -/
inductive Site where
  | leaf (l : Leaf)
  /-- A list that needs an item, and how many it has. -/
  | list (kind : ListKind) (length : Nat)
  deriving DecidableEq, Repr

namespace Site

/-- The leaf at a site; a list is none. -/
def leaf? : Site → Option Leaf
  | .leaf l => some l
  | .list .. => none

/-- The violation at a site, if there is one. -/
def violations : Site → List Violation
  | .leaf (.bind v) => if IsPlainWord v.name then [] else [.bindName v.name]
  | .leaf (.literal (.float x)) => if x.isFinite then [] else [.nonFinite x]
  | .leaf (.literal _) => []
  | .list kind length => if length = 0 then [.emptyList kind] else []

/-- What there is to tell of a site: a bind name that is no plain word, a float that is not finite,
or the label of a list without items. -/
def subjects : Site → List Violation.Subject
  | .leaf (.bind v) => if IsPlainWord v.name then [] else [.name v.name]
  | .leaf (.literal (.float x)) => if x.isFinite then [] else [.float x]
  | .leaf (.literal _) => []
  | .list kind length => if length = 0 then [.list kind.label] else []

/-- What a violation tells is what there is to tell of its site. -/
theorem map_subject_violations : ∀ site : Site,
    site.violations.map Violation.subject = site.subjects
  | .leaf (.literal (.str _)) | .leaf (.literal (.int _)) => rfl
  | .leaf (.literal (.float x)) => by
      rw [violations, subjects]
      split <;> rfl
  | .leaf (.bind v) => by
      rw [violations, subjects]
      split <;> rfl
  | .list kind length => by
      rw [violations, subjects]
      split <;> rfl

/-- The literals and bind variables among sites. -/
def leaves (sites : List Site) : List Leaf := sites.filterMap leaf?

@[simp] theorem leaves_nil : leaves [] = [] := rfl

@[simp] theorem leaves_leaf (l : Leaf) (sites : List Site) :
    leaves (.leaf l :: sites) = l :: leaves sites := rfl

@[simp] theorem leaves_list (kind : ListKind) (length : Nat) (sites : List Site) :
    leaves (.list kind length :: sites) = leaves sites := rfl

@[simp] theorem leaves_append (sites more : List Site) :
    leaves (sites ++ more) = leaves sites ++ leaves more := List.filterMap_append

theorem leaves_flatMap {α : Type} (sites : α → List Site) (as : List α) :
    leaves (as.flatMap sites) = as.flatMap fun a => leaves (sites a) := by
  induction as with
  | nil => rfl
  | cons a as ih => rw [List.flatMap_cons, leaves_append, ih, List.flatMap_cons]

/-- The first violation among sites. -/
def first? (sites : List Site) : Option Violation := (sites.flatMap violations).head?

@[simp] theorem first?_nil : first? [] = none := rfl

@[simp] theorem first?_append (sites more : List Site) :
    first? (sites ++ more) = (first? sites).or (first? more) := by
  rw [first?, List.flatMap_append, List.head?_append]
  rfl

@[simp] theorem first?_literal (l : Literal) : first? [.leaf (.literal l)] = l.violation? := by
  cases l with
  | str s => rfl
  | int n => rfl
  | float x =>
    rw [first?, List.flatMap_singleton, violations, Literal.violation?]
    split <;> rfl

@[simp] theorem first?_bind (v : BindVar) : first? [.leaf (.bind v)] = v.violation? := by
  rw [first?, List.flatMap_singleton, violations, BindVar.violation?]
  simp only [isWord_iff]
  split <;> rfl

@[simp] theorem first?_list {α : Type} (kind : ListKind) (as : List α) (sites : List Site) :
    first? (.list kind as.length :: sites) = (emptyViolation? kind as).or (first? sites) := by
  cases as <;> rfl

/-- Checking items one by one finds the first violation of them all. -/
theorem findSome?_eq {α : Type} {check : α → Option Violation} {sites : α → List Site}
    (h : ∀ a, check a = first? (sites a)) (as : List α) :
    as.findSome? check = first? (as.flatMap sites) := by
  induction as with
  | nil => rfl
  | cons a as ih =>
    rw [List.flatMap_cons, first?_append, ← ih, ← h, List.findSome?_cons]
    cases check a <;> rfl

end Site

/-! ## The sites of a tree -/

mutual

/-- The places of an expression where a violation can be, in writing order. -/
def Expr.sites : Expr → List Site
  | .column _ | .null => []
  | .literal l => [.leaf (.literal l)]
  | .bind v => [.leaf (.bind v)]
  | .comparison left _ right | .and left right | .or left right => left.sites ++ right.sites
  | .not e | .paren e => e.sites
  | .func ⟨_, _, args⟩ => SelectItem.listSites args
  | .isIn e _ list => e.sites ++ .list .inList list.length :: Expr.listSites list
  | .isNull e _ => e.sites

/-- The sites of a list of expressions, in writing order. -/
def Expr.listSites : List Expr → List Site
  | [] => []
  | e :: rest => e.sites ++ Expr.listSites rest

/-- The sites of an entry; a star has none. -/
def SelectItem.sites : SelectItem → List Site
  | .star | .qualifiedStar _ => []
  | .expr e _ => e.sites

/-- The sites of a select list, in writing order. -/
def SelectItem.listSites : List SelectItem → List Site
  | [] => []
  | i :: rest => i.sites ++ SelectItem.listSites rest

end

/-- The sites of an optional expression. -/
def optionSites (e : Option Expr) : List Site := e.elim [] Expr.sites

/-- The row itself, which needs a value, and the sites of its values. -/
def Row.sites (r : Row) : List Site := .list .row r.values.length :: r.values.flatMap Expr.sites

/-- The sites of the row count, then of the offset. -/
def Limit.sites (l : Limit) : List Site := l.rowcount.sites ++ optionSites l.offset

/-- The places of a statement where a violation can be, in writing order. -/
def Statement.sites : Statement → List Site
  | .select s =>
    .list .columns s.columns.length :: s.columns.flatMap SelectItem.sites ++ optionSites s.filter ++
    s.groupBy.flatMap Expr.sites ++ optionSites s.having ++
    s.orderBy.flatMap (fun o => o.expr.sites) ++ s.limit.elim [] Limit.sites
  | .insert s => .list .rows s.rows.length :: s.rows.flatMap Row.sites
  | .update s =>
    .list .assignments s.assignments.length :: s.assignments.flatMap (fun a => a.value.sites) ++
    optionSites s.filter
  | .delete s => optionSites s.filter

/-! ## The check reports the first violation -/

mutual

/-- The check of an expression finds the first violation among its sites. -/
theorem Expr.violation?_eq : ∀ e : Expr, e.violation? = Site.first? e.sites
  | .column _ | .null => by rw [Expr.violation?, Expr.sites]; rfl
  | .literal l => by rw [Expr.violation?, Expr.sites, Site.first?_literal]
  | .bind v => by rw [Expr.violation?, Expr.sites, Site.first?_bind]
  | .comparison left _ right | .and left right | .or left right => by
      rw [Expr.violation?, Expr.sites, Site.first?_append, left.violation?_eq, right.violation?_eq]
  | .not e | .paren e => by rw [Expr.violation?, Expr.sites, e.violation?_eq]
  | .func ⟨_, _, args⟩ => by
      rw [Expr.violation?, Expr.sites, FuncCall.violation?, SelectItem.firstViolation?_eq args]
  | .isIn e _ list => by
      rw [Expr.violation?, Expr.sites, Site.first?_append, Site.first?_list,
        e.violation?_eq, Expr.firstViolation?_eq list, Option.or_assoc]
  | .isNull e _ => by rw [Expr.violation?, Expr.sites, e.violation?_eq]

/-- So does the check of a list. -/
theorem Expr.firstViolation?_eq : ∀ es : List Expr,
    Expr.firstViolation? es = Site.first? (Expr.listSites es)
  | [] => by rw [Expr.firstViolation?, Expr.listSites]; rfl
  | e :: rest => by
      rw [Expr.firstViolation?, Expr.listSites, Site.first?_append, e.violation?_eq,
        Expr.firstViolation?_eq rest]

theorem SelectItem.violation?_eq : ∀ i : SelectItem, i.violation? = Site.first? i.sites
  | .star | .qualifiedStar _ => by rw [SelectItem.violation?, SelectItem.sites]; rfl
  | .expr e _ => by rw [SelectItem.violation?, SelectItem.sites, e.violation?_eq]

theorem SelectItem.firstViolation?_eq : ∀ is : List SelectItem,
    SelectItem.firstViolation? is = Site.first? (SelectItem.listSites is)
  | [] => by rw [SelectItem.firstViolation?, SelectItem.listSites]; rfl
  | i :: rest => by
      rw [SelectItem.firstViolation?, SelectItem.listSites, Site.first?_append, i.violation?_eq,
        SelectItem.firstViolation?_eq rest]

end

theorem Expr.listSites_eq (es : List Expr) : Expr.listSites es = es.flatMap Expr.sites := by
  induction es with
  | nil => rw [Expr.listSites]; rfl
  | cons e rest ih => rw [Expr.listSites, ih]; rfl

theorem SelectItem.listSites_eq (is : List SelectItem) :
    SelectItem.listSites is = is.flatMap SelectItem.sites := by
  induction is with
  | nil => rw [SelectItem.listSites]; rfl
  | cons i rest ih => rw [SelectItem.listSites, ih]; rfl

theorem bind_violation?_eq (e : Option Expr) :
    e.bind Expr.violation? = Site.first? (optionSites e) := by
  cases e with
  | none => rfl
  | some e => exact e.violation?_eq

theorem Row.violation?_eq (r : Row) : r.violation? = Site.first? r.sites := by
  rw [Row.violation?, Row.sites, Site.first?_list, Expr.firstViolation?_eq,
    Expr.listSites_eq]

theorem Limit.violation?_eq (l : Limit) : l.violation? = Site.first? l.sites := by
  rw [Limit.violation?, Limit.sites, Site.first?_append, l.rowcount.violation?_eq,
    bind_violation?_eq]

/-- The check of a query goes through its clauses in writing order. -/
theorem Select.violation?_eq (s : Select) :
    s.violation? = Site.first? (Statement.select s).sites := by
  have hlimit : s.limit.bind Limit.violation? = Site.first? (s.limit.elim [] Limit.sites) := by
    cases s.limit with
    | none => rfl
    | some l => exact l.violation?_eq
  have horder : s.orderBy.findSome? (fun o => o.expr.violation?)
      = Site.first? (s.orderBy.flatMap fun o => o.expr.sites) :=
    Site.findSome?_eq (fun o => o.expr.violation?_eq) s.orderBy
  simp only [Select.violation?, Statement.sites, Site.first?_append, Site.first?_list,
    SelectItem.firstViolation?_eq, SelectItem.listSites_eq, bind_violation?_eq,
    Expr.firstViolation?_eq, Expr.listSites_eq, horder, hlimit]

theorem Insert.violation?_eq (s : Insert) :
    s.violation? = Site.first? (Statement.insert s).sites := by
  rw [Insert.violation?, Statement.sites, Site.first?_list, Site.findSome?_eq Row.violation?_eq]

theorem Update.violation?_eq (s : Update) :
    s.violation? = Site.first? (Statement.update s).sites := by
  rw [Update.violation?, Statement.sites, Site.first?_append, Site.first?_list,
    Site.findSome?_eq (fun a => a.value.violation?_eq) s.assignments, bind_violation?_eq]

/-- **The check of a statement reports the first of its violations.** -/
theorem Statement.violation?_eq (s : Statement) : s.violation? = Site.first? s.sites := by
  cases s with
  | select s => exact s.violation?_eq
  | insert s => exact s.violation?_eq
  | update s => exact s.violation?_eq
  | delete s => exact bind_violation?_eq s.filter

/-! ## The sites hold all leaves -/

mutual

/-- The sites of an expression hold all its leaves, in order. -/
theorem Expr.leaves_sites : ∀ e : Expr, Site.leaves e.sites = e.leaves
  | .column _ | .null | .literal _ | .bind _ => by rw [Expr.sites, Expr.leaves]; rfl
  | .comparison left _ right | .and left right | .or left right => by
      rw [Expr.sites, Expr.leaves, Site.leaves_append, left.leaves_sites, right.leaves_sites]
  | .not e | .paren e | .isNull e _ => by rw [Expr.sites, Expr.leaves, e.leaves_sites]
  | .func ⟨_, _, args⟩ => by rw [Expr.sites, Expr.leaves, SelectItem.leaves_listSites args]
  | .isIn e _ list => by
      rw [Expr.sites, Expr.leaves, Site.leaves_append, Site.leaves_list, e.leaves_sites,
        Expr.leaves_listSites list]

theorem Expr.leaves_listSites : ∀ es : List Expr,
    Site.leaves (Expr.listSites es) = Expr.listLeaves es
  | [] => by rw [Expr.listSites, Expr.listLeaves]; rfl
  | e :: rest => by
      rw [Expr.listSites, Expr.listLeaves, Site.leaves_append, e.leaves_sites,
        Expr.leaves_listSites rest]

theorem SelectItem.leaves_sites : ∀ i : SelectItem, Site.leaves i.sites = i.leaves
  | .star | .qualifiedStar _ => by rw [SelectItem.sites, SelectItem.leaves]; rfl
  | .expr e _ => by rw [SelectItem.sites, SelectItem.leaves, e.leaves_sites]

theorem SelectItem.leaves_listSites : ∀ is : List SelectItem,
    Site.leaves (SelectItem.listSites is) = SelectItem.listLeaves is
  | [] => by rw [SelectItem.listSites, SelectItem.listLeaves]; rfl
  | i :: rest => by
      rw [SelectItem.listSites, SelectItem.listLeaves, Site.leaves_append, i.leaves_sites,
        SelectItem.leaves_listSites rest]

end

theorem leaves_optionSites (e : Option Expr) : Site.leaves (optionSites e) = optionLeaves e := by
  cases e with
  | none => rfl
  | some e => exact e.leaves_sites

/-- The sites of a row hold all its leaves, beside the row itself. -/
theorem Row.leaves_sites (r : Row) : Site.leaves r.sites = r.leaves := by
  simp only [Row.sites, Row.leaves, Site.leaves_list, Site.leaves_flatMap, Expr.leaves_sites]

/-- **Every literal and bind variable of a statement is at one of its sites**, and nothing else. -/
theorem Statement.leaves_sites (s : Statement) : Site.leaves s.sites = s.leaves := by
  cases s with
  | select s =>
    have hlimit : Site.leaves (s.limit.elim [] Limit.sites) = s.limit.elim [] Limit.leaves := by
      cases s.limit with
      | none => rfl
      | some l =>
        simp only [Option.elim_some, Limit.sites, Limit.leaves, Site.leaves_append,
          Expr.leaves_sites, leaves_optionSites]
    simp only [Statement.sites, Statement.leaves, Site.leaves_append, Site.leaves_list,
      Site.leaves_flatMap, SelectItem.leaves_sites, Expr.leaves_sites, leaves_optionSites, hlimit]
  | insert s =>
    simp only [Statement.sites, Statement.leaves, Site.leaves_list, Site.leaves_flatMap,
      Row.leaves_sites]
  | update s =>
    simp only [Statement.sites, Statement.leaves, Site.leaves_append, Site.leaves_list,
      Site.leaves_flatMap, Expr.leaves_sites, leaves_optionSites]
  | delete s => exact leaves_optionSites s.filter

/-! ## What is written is checked -/

/-- The tracked literals of lexemes are the texts of their literal tokens. -/
theorem Lexeme.literals_layout_eq (ls : List Lexeme) :
    literals (layout ls) = ((tokens ls).filter Token.isLiteral).map Token.sql := by
  induction ls with
  | nil => rfl
  | cons l ls ih =>
    have hsplit : literals (layout (l :: ls)) = literals l.glyphs ++ literals (layout ls) :=
      literals_append l.glyphs (layout ls)
    rw [hsplit, ih]
    cases l with
    | blank => rw [tokens_blank, Lexeme.glyphs, literals_plain, List.nil_append]
    | token t =>
      rw [tokens_token, List.filter_cons, Lexeme.glyphs]
      cases t.isLiteral with
      | true => rfl
      | false => simp [literals_plain]

/-- A check of a tree over its sites. `found` is the first of their violations, with nothing found
only if there are none, and it tells the bind name, the float or the label of the list. The spans of
the written tree cut out the literals and bind variables among the sites, in order, and if nothing
is found these are all literals that the lexer reads. -/
structure ChecksAll (found : Option Violation) (sites : List Site) (n : Node) : Prop where
  found_eq : found = (sites.flatMap Site.violations).head?
  told : found.map Violation.subject = (sites.flatMap Site.subjects).head?
  written : ∃ sql, n.text = .ok sql ∧
    ((Buffer.new true).write n).buffer.spans.toList.map
        (fun s => slice? sql.toList s.offset (s.offset + s.len))
      = (Site.leaves sites).map (fun l => some l.sql.toList) ∧
    (found = none → ∃ ts, lex sql = some ts ∧
      (ts.filter Token.isLiteral).map Token.sql = (Site.leaves sites).map Leaf.sql)

/-- What the statement about all trees asks of one, from the sites of that tree. -/
theorem SqlTree.checksAll (t : SqlTree) {found : Option Violation} {sites : List Site}
    (hfound : found = Site.first? sites) (hleaves : Site.leaves sites = t.leaves)
    (hlegible : found = none → Legible t.lexemes) : ChecksAll found sites t.node := by
  have htold : found.map Violation.subject = (sites.flatMap Site.subjects).head? := by
    rw [hfound, Site.first?, ← List.head?_map, List.map_flatMap]
    simp only [Site.map_subject_violations]
  refine ⟨hfound, htold, String.ofList (chars t.lexemes), Node.text_eq t.writes, ?_,
    fun hnone => ?_⟩
  · have hslices := t.slice_spans ""
    rw [String.empty_append, String.utf8ByteSize_empty] at hslices
    rw [Node.write_spans t.writes, hslices, hleaves]
  · refine ⟨_, lex_chars (hlegible hnone), ?_⟩
    rw [← literals_layout_eq, t.carries, hleaves]

/-- **A check finds every violation and reports the first.** The violations of a statement, or of an
expression, are those of its sites in writing order: bind names that are no plain words, floats that
are not finite, and the lists that have no item and need one. The check reports the first of them
with its name, its float or the label that tells which list it is, and passes only if there is none.
No literal or bind variable is written that it did not visit. -/
theorem violation_first_of_all :
    (∀ s : Statement, ChecksAll s.violation? s.sites s.node) ∧
      (∀ e : Expr, ChecksAll e.violation? e.sites e.node) ∧ Function.Injective ListKind.label :=
  ⟨fun s => SqlTree.checksAll (.statement s) s.violation?_eq s.leaves_sites Statement.legible,
    fun e => SqlTree.checksAll (.expr e) e.violation?_eq e.leaves_sites e.legible,
    ListKind.label_injective⟩

end SqlRender
