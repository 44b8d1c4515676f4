import SqlRender.Proofs.ReadBack

/-!
# Proofs/Faithful — the text of a statement determines its canonical tree

The parser for statements reads the tokens of a valid statement back as the canonical statement
(`Statement.parsed`); the lexer reads the tokens back from the text. Together with the fact that
the canonical statement has the same text, two valid statements have the same text exactly if they
have the same canonical tree (`text_eq_iff_canon_eq`).
-/

namespace SqlRender

open Lexeme

/-! ## The parser for statements -/

namespace TokenReader

variable {α : Type}

/-- A name, possibly behind a qualifier and a point. -/
def qualified : TokenReader (Option Ident × Ident)
  | .ident qualifier :: .punct '.' :: .ident name :: ts => some ((some ⟨qualifier⟩, ⟨name⟩), ts)
  | .ident name :: ts => some ((none, ⟨name⟩), ts)
  | _ => none

/-- A table, possibly with an alias. -/
def tableExpr : TokenReader TableExpr := fun ts => do
  let (table, ts) ← qualified ts
  let (alias?, ts) ← asName ts
  some (⟨⟨table.1, table.2⟩, alias?⟩, ts)

/-- A list behind `front`, the empty one if the tokens do not start with it. -/
def listBehind (front : List Token) (p : TokenReader (List α)) : TokenReader (List α) := fun ts =>
  (optionally front p ts).map fun r => (r.1.getD [], r.2)

/-- An entry of an `ORDER BY` list. Ascending order has no word of its own. -/
def orderItem (expr : TokenReader Expr) : TokenReader OrderItem := fun ts => do
  let (e, ts) ← expr ts
  match after [.keyword "DESC"] ts with
  | none => some (⟨e, .asc⟩, ts)
  | some ts => some (⟨e, .desc⟩, ts)

/-- What stands behind `LIMIT`. -/
def limit (expr : TokenReader Expr) : TokenReader Limit := fun ts => do
  let (rowcount, ts) ← expr ts
  let (offset, ts) ← optionally [.keyword "OFFSET"] expr ts
  some (⟨rowcount, offset⟩, ts)

/-- A column, an equals sign and a value. -/
def assignment (expr : TokenReader Expr) : TokenReader Assignment := fun ts => do
  let (column, ts) ← qualified ts
  let ts ← after [.op "="] ts
  let (value, ts) ← expr ts
  some (⟨⟨column.1, column.2⟩, value⟩, ts)

/-- Values in parentheses. -/
def row (exprs : TokenReader (List Expr)) : TokenReader Row := fun ts => do
  let ts ← after [.punct '('] ts
  let (values, ts) ← closed exprs ts
  some (⟨values⟩, ts)

/-- What stands behind `SELECT`: the columns, then the clauses in their one order. -/
def select (expr : TokenReader Expr) (n : Nat) : TokenReader Select := fun ts => do
  let (columns, ts) ← maybeDistinct (commaSep (item expr) n) ts
  let (tables, ts) ← listBehind [.keyword "FROM"] (commaSep tableExpr n) ts
  let (filter, ts) ← optionally [.keyword "WHERE"] expr ts
  let (groupBy, ts) ← listBehind [.keyword "GROUP", .keyword "BY"] (commaSep expr n) ts
  let (having, ts) ← optionally [.keyword "HAVING"] expr ts
  let (orderBy, ts) ← listBehind [.keyword "ORDER", .keyword "BY"] (commaSep (orderItem expr) n) ts
  let (limit?, ts) ← optionally [.keyword "LIMIT"] (limit expr) ts
  some (⟨columns.1, columns.2, tables, filter, groupBy, having, orderBy, limit?⟩, ts)

/-- What stands behind `INSERT INTO`. -/
def insert (expr : TokenReader Expr) (n : Nat) : TokenReader Insert := fun ts => do
  let (table, ts) ← qualified ts
  let (columns, ts) ← listBehind [.punct '('] (closed (commaSep ident n)) ts
  let ts ← after [.keyword "VALUES"] ts
  let (rows, ts) ← commaSep (row (commaSep expr n)) n ts
  some (⟨⟨table.1, table.2⟩, columns, rows⟩, ts)

/-- What stands behind `UPDATE`. -/
def update (expr : TokenReader Expr) (n : Nat) : TokenReader Update := fun ts => do
  let (table, ts) ← qualified ts
  let ts ← after [.keyword "SET"] ts
  let (assignments, ts) ← commaSep (assignment expr) n ts
  let (filter, ts) ← optionally [.keyword "WHERE"] expr ts
  some (⟨⟨table.1, table.2⟩, assignments, filter⟩, ts)

/-- What stands behind `DELETE FROM`. -/
def delete (expr : TokenReader Expr) : TokenReader Delete := fun ts => do
  let (table, ts) ← qualified ts
  let (filter, ts) ← optionally [.keyword "WHERE"] expr ts
  some (⟨⟨table.1, table.2⟩, filter⟩, ts)

end TokenReader

open TokenReader in
/-- A statement, told by its first word. -/
def parseStatement (read : String → Option Literal) (n : Nat) : TokenReader Statement
  | .keyword "SELECT" :: ts => (select (parseExpr read n .or) n ts).map fun r => (.select r.1, r.2)
  | .keyword "INSERT" :: .keyword "INTO" :: ts =>
    (insert (parseExpr read n .or) n ts).map fun r => (.insert r.1, r.2)
  | .keyword "UPDATE" :: ts => (update (parseExpr read n .or) n ts).map fun r => (.update r.1, r.2)
  | .keyword "DELETE" :: .keyword "FROM" :: ts =>
    (delete (parseExpr read n .or) ts).map fun r => (.delete r.1, r.2)
  | _ => none

/-! ## What may follow a clause -/

/-- The rest is empty or starts with one of the words. -/
def StartsWith (words : List String) (rest : List Token) : Prop :=
  ∀ t ∈ rest.head?, ∃ w ∈ words, t = .keyword w

section StartsWith

variable {words : List String} {rest : List Token}

theorem startsWith_nil (words : List String) : StartsWith words [] := by simp [StartsWith]

/-- A clause that may be missing, in front of the clauses behind it. -/
theorem StartsWith.cons (h : StartsWith words rest) (w : String) {ts : List Token}
    (hts : ts = [] ∨ ts.head? = some (.keyword w)) : StartsWith (w :: words) (ts ++ rest) := by
  intro t ht
  rcases hts with rfl | hts
  · obtain ⟨v, hv, rfl⟩ := h t ht
    exact ⟨v, List.mem_cons_of_mem w hv, rfl⟩
  · rw [List.head?_append, hts, Option.some_or] at ht
    exact ⟨w, by simp, (Option.some.inj ht).symm⟩

/-- A token that is none of the words does not follow. -/
theorem StartsWith.not_mem (h : StartsWith words rest) {t : Token}
    (ht : (words.all fun w => t ≠ .keyword w) = true) : t ∉ rest.head? := by
  intro hmem
  obtain ⟨w, hw, rfl⟩ := h t hmem
  exact absurd (List.all_eq_true.mp ht w hw) (by simp)

/-- The words of clauses end an expression. -/
theorem StartsWith.ends (h : StartsWith words rest)
    (hwords : (words.all fun w => (Token.keyword w).endsExpr) = true) : Ends .or rest := by
  intro t ht
  obtain ⟨w, hw, rfl⟩ := h t ht
  exact List.all_eq_true.mp hwords w hw

end StartsWith

/-! ## Clauses are read back -/

section Clauses

variable {read : String → Option Literal}

/-- A qualified name is read back if no point follows that would make it a qualifier. -/
theorem qualified_append (qualifier : Option Ident) (name : Ident) {rest : List Token}
    (h : .punct '.' ∉ rest.head?) :
    TokenReader.qualified (tokens (qualifiedLexemes qualifier name) ++ rest)
      = some ((qualifier, name), rest) := by
  cases qualifier with
  | none =>
    have hts : tokens (qualifiedLexemes none name) ++ rest = .ident name.name :: rest := rfl
    rw [hts, TokenReader.qualified]
    rintro name' us rfl
    exact h rfl
  | some q => rfl

/-- What may follow a table of a `FROM` list. -/
def EndsTable (rest : List Token) : Prop := .punct '.' ∉ rest.head? ∧ .keyword "AS" ∉ rest.head?

theorem TableExpr.parsed (t : TableExpr) :
    Parsed (fun _ => TokenReader.tableExpr) EndsTable (tokens t.lexemes) t := by
  intro rest hrest
  refine Filter.Eventually.of_forall fun _ => ?_
  have hpoint : .punct '.' ∉ (tokens (aliasLexemes t.asName) ++ rest).head? := by
    cases t.asName with
    | none => exact hrest.1
    | some a => simp [aliasLexemes]
  have hname : TokenReader.qualified
      (tokens t.table.lexemes ++ (tokens (aliasLexemes t.asName) ++ rest))
      = some ((t.table.qualifier, t.table.name), tokens (aliasLexemes t.asName) ++ rest) :=
    qualified_append _ _ hpoint
  rw [TableExpr.lexemes, tokens_append, List.append_assoc]
  simp [TokenReader.tableExpr, hname, asName_append t.asName hrest.2]

/-- What may follow an entry of an `ORDER BY` list. -/
def EndsOrder (rest : List Token) : Prop := Ends .or rest ∧ .keyword "DESC" ∉ rest.head?

theorem OrderItem.parsed {o : OrderItem} (h : o.expr.Readable read) :
    Parsed (fun n => TokenReader.orderItem (parseExpr read n .or)) EndsOrder (tokens o.lexemes)
      o.canon := by
  intro rest hrest
  obtain ⟨e, direction⟩ := o
  cases direction with
  | asc =>
    filter_upwards [h.whole rest hrest.1] with n hn
    have hts : tokens (OrderItem.lexemes ⟨e, .asc⟩) = tokens e.lexemes := by
      simp [OrderItem.lexemes]
    rw [hts]
    simp [TokenReader.orderItem, hn, after_eq_none hrest.2, OrderItem.canon]
  | desc =>
    filter_upwards [h.whole (.keyword "DESC" :: rest) (ends_cons (by decide) rest)] with n hn
    have hts : tokens (OrderItem.lexemes ⟨e, .desc⟩) ++ rest
        = tokens e.lexemes ++ .keyword "DESC" :: rest := by
      simp [OrderItem.lexemes]
    rw [hts]
    simp [TokenReader.orderItem, hn, after, OrderItem.canon]

/-- A keyword and an expression, if there is one. -/
theorem parsed_optionClause (w : String) {e : Option Expr} (h : ∀ x ∈ e, x.Readable read) :
    Parsed (fun n => TokenReader.optionally [.keyword w] (parseExpr read n .or))
      (fun rest => Ends .or rest ∧ .keyword w ∉ rest.head?) (tokens (optionClause w e))
      (e.map Expr.canon) := by
  intro rest hrest
  cases e with
  | none => exact Filter.Eventually.of_forall fun n => optionally_none _ [] hrest.2
  | some e =>
    filter_upwards [(h e rfl).whole rest hrest.1] with n hn
    exact optionally_some [.keyword w] hn

theorem Limit.parsed {l : Limit} (hrowcount : l.rowcount.Readable read)
    (hoffset : ∀ x ∈ l.offset, x.Readable read) :
    Parsed (fun n => TokenReader.limit (parseExpr read n .or))
      (fun rest => Ends .or rest ∧ .keyword "OFFSET" ∉ rest.head?)
      (tokens (l.rowcount.lexemes ++ optionClause "OFFSET" l.offset)) l.canon := by
  intro rest hrest
  have hends : Ends .or (tokens (optionClause "OFFSET" l.offset) ++ rest) := by
    cases l.offset with
    | none => exact hrest.1
    | some e => exact ends_cons (by decide) _
  filter_upwards [hrowcount.whole _ hends, parsed_optionClause "OFFSET" hoffset rest hrest]
    with n hn hm
  rw [tokens_append, List.append_assoc]
  simp [TokenReader.limit, hn, hm, Limit.canon]

theorem Assignment.parsed {a : Assignment} (h : a.value.Readable read) :
    Parsed (fun n => TokenReader.assignment (parseExpr read n .or)) (Ends .or) (tokens a.lexemes)
      a.canon := by
  intro rest hrest
  filter_upwards [h.whole rest hrest] with n hn
  have hts : tokens a.lexemes ++ rest
      = tokens a.column.lexemes ++ .op "=" :: (tokens a.value.lexemes ++ rest) := by
    rw [Assignment.lexemes]
    simp
  have hcolumn : ∀ us, TokenReader.qualified (tokens a.column.lexemes ++ .op "=" :: us)
      = some ((a.column.qualifier, a.column.name), .op "=" :: us) :=
    fun us => qualified_append _ _ (by simp)
  rw [hts]
  simp [TokenReader.assignment, hcolumn, after, hn, Assignment.canon]

/-- A row that has a value is read back in its canonical form. -/
theorem Row.parsed {r : Row} (hne : r.values ≠ []) (h : ∀ e ∈ r.values, e.Readable read) :
    Parsed (fun n => TokenReader.row (TokenReader.commaSep (parseExpr read n .or) n))
      (fun _ => True) (tokens r.lexemes) r.canon := by
  intro rest _
  filter_upwards [parsed_closedExprs hne h rest trivial] with n hn
  have hts : tokens r.lexemes ++ rest = .punct '(' ::
      (tokens (commaList (r.values.map Expr.lexemes)) ++ [Token.punct ')'] ++ rest) := by
    rw [Row.lexemes]
    simp
  rw [hts]
  simp only [TokenReader.row, after, if_true, Option.bind_eq_bind, Option.bind_some, hn]
  rfl

/-- Keywords and a comma list, nothing for the empty list. -/
theorem parsed_listClause {α β : Type} {item : Nat → TokenReader α} {follow : List Token → Prop}
    (hcomma : ∀ ts, follow (.punct ',' :: ts)) {lexemes : β → List Lexeme} {value : β → α}
    {bs : List β} (h : ∀ b ∈ bs, Parsed item follow (tokens (lexemes b)) (value b))
    (keywords : List Lexeme) {w : String} {front : List Token}
    (hkeywords : tokens keywords = .keyword w :: front) :
    Parsed (fun n => TokenReader.listBehind (.keyword w :: front) (TokenReader.commaSep (item n) n))
      (fun rest => EndsList follow rest ∧ .keyword w ∉ rest.head?)
      (tokens (listClause keywords (bs.map lexemes))) (bs.map value) := by
  intro rest hrest
  cases bs with
  | nil =>
    refine Filter.Eventually.of_forall fun n => ?_
    have hnone := optionally_none (TokenReader.commaSep (item n) n) front hrest.2
    exact (congrArg (Option.map _) hnone).trans rfl
  | cons b bs =>
    filter_upwards [parsed_commaSep hcomma (List.cons_ne_nil b bs) h rest hrest.1] with n hn
    have hts : tokens (listClause keywords ((b :: bs).map lexemes)) ++ rest
        = (.keyword w :: front) ++ (tokens (commaList ((b :: bs).map lexemes)) ++ rest) := by
      rw [listClause, List.map_cons, List.isEmpty_cons, if_neg (by decide), tokens_append,
        hkeywords, List.append_assoc]
    rw [hts, TokenReader.listBehind, optionally_some _ hn]
    rfl

/-- The tables are read back if a clause that may come later follows. -/
theorem parsed_fromClause (ts : List TableExpr) :
    Parsed (fun n => TokenReader.listBehind [.keyword "FROM"]
        (TokenReader.commaSep TokenReader.tableExpr n))
      (StartsWith ["WHERE", "GROUP", "HAVING", "ORDER", "LIMIT"])
      (tokens (listClause [.blank, word "FROM", .blank] (ts.map TableExpr.lexemes))) ts := by
  have h := parsed_listClause (fun _ => ⟨by simp, by simp⟩) (fun t (_ : t ∈ ts) => t.parsed)
    [.blank, word "FROM", .blank] rfl
  rw [List.map_id'] at h
  exact h.mono fun rest hrest => ⟨⟨⟨hrest.not_mem (by decide), hrest.not_mem (by decide)⟩,
    hrest.not_mem (by decide)⟩, hrest.not_mem (by decide)⟩

/-- The `GROUP BY` list is read back if a clause that may come later follows. -/
theorem parsed_groupClause {es : List Expr} (h : ∀ e ∈ es, e.Readable read) :
    Parsed (fun n => TokenReader.listBehind [.keyword "GROUP", .keyword "BY"]
        (TokenReader.commaSep (parseExpr read n .or) n))
      (StartsWith ["HAVING", "ORDER", "LIMIT"])
      (tokens (listClause [.blank, word "GROUP", .blank, word "BY", .blank]
        (es.map Expr.lexemes))) (es.map Expr.canon) :=
  (parsed_listClause (fun us => ends_cons (by decide) us) (fun e he => (h e he).whole)
    [.blank, word "GROUP", .blank, word "BY", .blank] rfl).mono fun rest hrest =>
      ⟨⟨hrest.ends (by decide), hrest.not_mem (by decide)⟩, hrest.not_mem (by decide)⟩

/-- The `ORDER BY` list is read back if nothing or a limit follows. -/
theorem parsed_orderClause {os : List OrderItem} (h : ∀ o ∈ os, o.expr.Readable read) :
    Parsed (fun n => TokenReader.listBehind [.keyword "ORDER", .keyword "BY"]
        (TokenReader.commaSep (TokenReader.orderItem (parseExpr read n .or)) n))
      (StartsWith ["LIMIT"])
      (tokens (listClause [.blank, word "ORDER", .blank, word "BY", .blank]
        (os.map OrderItem.lexemes))) (os.map OrderItem.canon) :=
  (parsed_listClause (fun us => ⟨ends_cons (by decide) us, by simp⟩)
    (fun o ho => OrderItem.parsed (h o ho))
    [.blank, word "ORDER", .blank, word "BY", .blank] rfl).mono fun rest hrest =>
      ⟨⟨⟨hrest.ends (by decide), hrest.not_mem (by decide)⟩, hrest.not_mem (by decide)⟩,
        hrest.not_mem (by decide)⟩

/-- The column list of an `INSERT`, nothing when it is empty. -/
def columnLexemes (is : List Ident) : List Lexeme :=
  if is.isEmpty then []
  else [.blank, punct '('] ++ commaList (is.map fun i => [i.lexeme]) ++ [punct ')']

/-- The columns of an insertion are read back. Their absence is told by the token that follows. -/
theorem parsed_columns (is : List Ident) :
    Parsed (fun n => TokenReader.listBehind [.punct '(']
        (TokenReader.closed (TokenReader.commaSep TokenReader.ident n)))
      (fun rest => .punct '(' ∉ rest.head?) (tokens (columnLexemes is)) is := by
  intro rest hrest
  by_cases his : is = []
  · subst his
    refine Filter.Eventually.of_forall fun n => ?_
    have hnone := optionally_none
      (TokenReader.closed (TokenReader.commaSep TokenReader.ident n)) [] hrest
    exact (congrArg (Option.map _) hnone).trans rfl
  · have hident : ∀ i ∈ is,
        Parsed (fun _ => TokenReader.ident) (fun _ => True) (tokens [i.lexeme]) i :=
      fun i _ _ _ => Filter.Eventually.of_forall fun _ => rfl
    have hclosed := parsed_closed (fun _ => ⟨trivial, by simp⟩)
      (parsed_commaSep (fun _ => trivial) his hident) rest trivial
    filter_upwards [hclosed] with n hn
    have hts : tokens (columnLexemes is) ++ rest = [Token.punct '('] ++
        (tokens (commaList (is.map fun i => [i.lexeme])) ++ [Token.punct ')'] ++ rest) := by
      simp [columnLexemes, his]
    rw [hts, TokenReader.listBehind, optionally_some _ hn, List.map_id']
    rfl

/-- A clause is empty or starts with its word. -/
theorem startsWith_optionClause (w : String) (e : Option Expr) :
    tokens (optionClause w e) = [] ∨ (tokens (optionClause w e)).head? = some (.keyword w) := by
  cases e with
  | none => exact .inl rfl
  | some e => exact .inr rfl

theorem startsWith_listClause (keywords : List Lexeme) {w : String} {front : List Token}
    (hkeywords : tokens keywords = .keyword w :: front) (items : List (List Lexeme)) :
    tokens (listClause keywords items) = [] ∨
      (tokens (listClause keywords items)).head? = some (.keyword w) := by
  rw [listClause]
  split
  · exact .inl rfl
  · rw [tokens_append, hkeywords]
    exact .inr rfl

theorem startsWith_limit (l : Option Limit) :
    tokens (l.elim [] fun l => .blank :: l.lexemes) = [] ∨
      (tokens (l.elim [] fun l => .blank :: l.lexemes)).head? = some (.keyword "LIMIT") := by
  cases l with
  | none => exact .inl rfl
  | some l => exact .inr rfl

theorem ne_nil_of_nonempty {α : Type} {kind : ListKind} {as : List α}
    (h : emptyViolation? kind as = none) : as ≠ [] := by
  rintro rfl
  exact absurd h (by simp [emptyViolation?])

end Clauses

/-! ## Statements are read back -/

section Statements

variable {read : String → Option Literal}
  (hread : ∀ (l : Literal) (text : String), l.violation? = none → l.token = .number text →
    read text = some l)

include hread

/-- A valid optional expression is readable. -/
theorem readable_of_bind {e : Option Expr} (h : e.bind Expr.violation? = none) :
    ∀ x ∈ e, x.Readable read := by
  rintro x rfl
  exact x.readable hread h

/-- The expressions of a valid list are readable. -/
theorem readable_of_mem {es : List Expr} (h : Expr.firstViolation? es = none) :
    ∀ x ∈ es, x.Readable read := fun x hx => x.readable hread (Expr.valid_of_mem h x hx)

theorem Row.parsed_of_valid {r : Row} (h : r.violation? = none) :
    Parsed (fun n => TokenReader.row (TokenReader.commaSep (parseExpr read n .or) n))
      (fun _ => True) (tokens r.lexemes) r.canon := by
  rw [Row.violation?, Option.or_eq_none_iff] at h
  exact Row.parsed (ne_nil_of_nonempty h.1) (readable_of_mem hread h.2)

theorem Delete.parsed {s : Delete} (h : s.violation? = none) :
    Parsed (parseStatement read) (StartsWith []) (tokens s.lexemes) (Statement.delete s).canon := by
  intro rest hrest
  have hwhere := hrest.cons "WHERE" (startsWith_optionClause "WHERE" s.filter)
  have hname : TokenReader.qualified
      (tokens s.table.lexemes ++ (tokens (optionClause "WHERE" s.filter) ++ rest))
      = some ((s.table.qualifier, s.table.name), tokens (optionClause "WHERE" s.filter) ++ rest) :=
    qualified_append _ _ (hwhere.not_mem (by decide))
  filter_upwards [parsed_optionClause "WHERE" (readable_of_bind hread h) rest
    ⟨hrest.ends rfl, hrest.not_mem rfl⟩] with n hn
  have hts : tokens s.lexemes ++ rest = .keyword "DELETE" :: .keyword "FROM" ::
      (tokens s.table.lexemes ++ (tokens (optionClause "WHERE" s.filter) ++ rest)) := by
    rw [Delete.lexemes]
    simp
  rw [hts, parseStatement]
  simp [TokenReader.delete, hname, hn, Statement.canon, Delete.canon]

theorem Update.parsed {s : Update} (h : s.violation? = none) :
    Parsed (parseStatement read) (StartsWith []) (tokens s.lexemes) (Statement.update s).canon := by
  intro rest hrest
  simp only [Update.violation?, Option.or_eq_none_iff, List.findSome?_eq_none_iff] at h
  obtain ⟨⟨hne, hassignments⟩, hfilter⟩ := h
  have hwhere := hrest.cons "WHERE" (startsWith_optionClause "WHERE" s.filter)
  have hlist := parsed_commaSep (fun us => ends_cons (by decide) us) (ne_nil_of_nonempty hne)
    (fun a ha => Assignment.parsed (a.value.readable hread (hassignments a ha)))
    (tokens (optionClause "WHERE" s.filter) ++ rest)
    ⟨hwhere.ends (by decide), hwhere.not_mem (by decide)⟩
  filter_upwards [hlist, parsed_optionClause "WHERE" (readable_of_bind hread hfilter) rest
    ⟨hrest.ends rfl, hrest.not_mem rfl⟩] with n hn hm
  have hts : tokens s.lexemes ++ rest = .keyword "UPDATE" :: (tokens s.table.lexemes ++
      .keyword "SET" :: (tokens (commaList (s.assignments.map Assignment.lexemes)) ++
        (tokens (optionClause "WHERE" s.filter) ++ rest))) := by
    rw [Update.lexemes]
    simp
  have hname : ∀ us, TokenReader.qualified (tokens s.table.lexemes ++ .keyword "SET" :: us)
      = some ((s.table.qualifier, s.table.name), .keyword "SET" :: us) :=
    fun us => qualified_append _ _ (by simp)
  rw [hts, parseStatement]
  simp [TokenReader.update, hname, after, hn, hm, Statement.canon, Update.canon]

theorem Insert.parsed {s : Insert} (h : s.violation? = none) :
    Parsed (parseStatement read) (StartsWith []) (tokens s.lexemes) (Statement.insert s).canon := by
  intro rest hrest
  simp only [Insert.violation?, Option.or_eq_none_iff, List.findSome?_eq_none_iff] at h
  obtain ⟨hne, hrows⟩ := h
  have hlist := parsed_commaSep (fun _ => trivial) (ne_nil_of_nonempty hne)
    (fun r hr => Row.parsed_of_valid hread (hrows r hr)) rest ⟨trivial, hrest.not_mem rfl⟩
  have hcolumns := parsed_columns s.columns (.keyword "VALUES" ::
    (tokens (commaList (s.rows.map Row.lexemes)) ++ rest)) (by simp)
  filter_upwards [hlist, hcolumns] with n hn hm
  have hts : tokens s.lexemes ++ rest = .keyword "INSERT" :: .keyword "INTO" ::
      (tokens s.table.lexemes ++ (tokens (columnLexemes s.columns) ++ Token.keyword "VALUES" ::
        (tokens (commaList (s.rows.map Row.lexemes)) ++ rest))) := by
    rw [Insert.lexemes, columnLexemes]
    simp only [tokens_append, tokens_token, tokens_blank, List.append_assoc,
      List.cons_append, List.nil_append]
  have hname : ∀ us, TokenReader.qualified (tokens s.table.lexemes ++
      (tokens (columnLexemes s.columns) ++ Token.keyword "VALUES" :: us))
      = some ((s.table.qualifier, s.table.name),
          tokens (columnLexemes s.columns) ++ Token.keyword "VALUES" :: us) := by
    intro us
    refine qualified_append _ _ ?_
    cases s.columns <;> simp [columnLexemes]
  rw [hts, parseStatement]
  simp [TokenReader.insert, hname, hm, after, hn, Statement.canon, Insert.canon]

theorem SelectItem.parsed {i : SelectItem} (h : i.violation? = none) :
    Parsed (fun n => TokenReader.item (parseExpr read n .or)) EndsItem (tokens i.lexemes)
      i.canon := by
  refine SelectItem.parsed_of fun e asName hie => ?_
  subst hie
  rw [SelectItem.violation?] at h
  exact e.readable hread h

theorem parsed_limitClause {l : Option Limit} (h : l.bind Limit.violation? = none) :
    Parsed (fun n => TokenReader.optionally [.keyword "LIMIT"]
        (TokenReader.limit (parseExpr read n .or))) (StartsWith [])
      (tokens (l.elim [] fun l => .blank :: l.lexemes)) (l.map Limit.canon) := by
  intro rest hrest
  cases l with
  | none => exact Filter.Eventually.of_forall fun n => optionally_none _ [] (hrest.not_mem rfl)
  | some l =>
    have hvalid : l.violation? = none := h
    rw [Limit.violation?, Option.or_eq_none_iff] at hvalid
    filter_upwards [Limit.parsed (l.rowcount.readable hread hvalid.1)
      (readable_of_bind hread hvalid.2) rest ⟨hrest.ends rfl, hrest.not_mem rfl⟩] with n hn
    exact optionally_some [.keyword "LIMIT"] hn

/-- **A valid query is read back in its canonical form.** Each clause ends where the first word of a
later one stands, so the clauses that are missing take nothing. -/
theorem Select.parsed {s : Select} (h : s.violation? = none) :
    Parsed (parseStatement read) (StartsWith []) (tokens s.lexemes) (Statement.select s).canon := by
  intro rest hrest
  simp only [Select.violation?, Option.or_eq_none_iff, List.findSome?_eq_none_iff] at h
  obtain ⟨⟨⟨⟨⟨⟨hne, hcolumns⟩, hfilter⟩, hgroupBy⟩, hhaving⟩, horderBy⟩, hlimit⟩ := h
  have hcolumns' := parsed_maybeDistinct (parsed_commaSep endsItem_comma (ne_nil_of_nonempty hne)
    (fun i hi => SelectItem.parsed hread (SelectItem.valid_of_mem hcolumns i hi)))
    (fun n us => items_eq_none (.inr rfl) us n) s.distinct
  -- what stands behind each clause, from the last one to the first
  have hafterOrder := hrest.cons "LIMIT" (startsWith_limit s.limit)
  have hafterHaving := hafterOrder.cons "ORDER" (startsWith_listClause
    [.blank, word "ORDER", .blank, word "BY", .blank] rfl (s.orderBy.map OrderItem.lexemes))
  have hafterGroup := hafterHaving.cons "HAVING" (startsWith_optionClause "HAVING" s.having)
  have hafterWhere := hafterGroup.cons "GROUP" (startsWith_listClause
    [.blank, word "GROUP", .blank, word "BY", .blank] rfl (s.groupBy.map Expr.lexemes))
  have hafterFrom := hafterWhere.cons "WHERE" (startsWith_optionClause "WHERE" s.filter)
  have hafterColumns := hafterFrom.cons "FROM" (startsWith_listClause
    [.blank, word "FROM", .blank] rfl (s.tables.map TableExpr.lexemes))
  filter_upwards [
    hcolumns' _ ⟨⟨hafterColumns.ends (by decide), hafterColumns.not_mem (by decide)⟩,
      hafterColumns.not_mem (by decide)⟩,
    parsed_fromClause s.tables _ hafterFrom,
    parsed_optionClause "WHERE" (readable_of_bind hread hfilter) _
      ⟨hafterWhere.ends (by decide), hafterWhere.not_mem (by decide)⟩,
    parsed_groupClause (readable_of_mem hread hgroupBy) _ hafterGroup,
    parsed_optionClause "HAVING" (readable_of_bind hread hhaving) _
      ⟨hafterHaving.ends (by decide), hafterHaving.not_mem (by decide)⟩,
    parsed_orderClause (fun o ho => o.expr.readable hread (horderBy o ho)) _ hafterOrder,
    parsed_limitClause hread hlimit rest hrest] with n hn1 hn2 hn3 hn4 hn5 hn6 hn7
  have hts : tokens s.lexemes ++ rest = .keyword "SELECT" ::
      (distinctTokens s.distinct ++ tokens (commaList (s.columns.map SelectItem.lexemes)) ++
        (tokens (listClause [.blank, word "FROM", .blank] (s.tables.map TableExpr.lexemes)) ++
          (tokens (optionClause "WHERE" s.filter) ++
            (tokens (listClause [.blank, word "GROUP", .blank, word "BY", .blank]
                (s.groupBy.map Expr.lexemes)) ++
              (tokens (optionClause "HAVING" s.having) ++
                (tokens (listClause [.blank, word "ORDER", .blank, word "BY", .blank]
                    (s.orderBy.map OrderItem.lexemes)) ++
                  (tokens (s.limit.elim [] fun l => .blank :: l.lexemes) ++ rest))))))) := by
    rw [Select.lexemes]
    simp only [tokens_append, tokens_distinct, tokens_token, tokens_blank, List.append_assoc,
      List.cons_append, List.nil_append]
  rw [hts, parseStatement]
  simp only [TokenReader.select, Option.bind_eq_bind, Option.bind_some, hn1, hn2, hn3, hn4, hn5,
    hn6, hn7, Option.map_some]
  rfl

/-- **A valid statement is read back from its tokens**, up to its canonical form. -/
theorem Statement.parsed {s : Statement} (h : s.violation? = none) :
    Parsed (parseStatement read) (StartsWith []) (tokens s.lexemes) s.canon := by
  cases s with
  | select s => exact Select.parsed hread h
  | insert s => exact Insert.parsed hread h
  | update s => exact Update.parsed hread h
  | delete s => exact Delete.parsed hread h

end Statements

/-! ## Text and canonical trees -/

open Classical in
/-- The number with the given text, if there is one. -/
noncomputable def readNumber (text : String) : Option Literal :=
  if h : ∃ l : Literal, l.violation? = none ∧ l.token = .number text then some h.choose else none

/-- The literal of a number token is found again from its text. -/
theorem readNumber_token (l : Literal) (text : String) (hl : l.violation? = none)
    (ht : l.token = .number text) : readNumber text = some l := by
  have hex : ∃ l : Literal, l.violation? = none ∧ l.token = .number text := ⟨l, hl, ht⟩
  rw [readNumber, dif_pos hex]
  exact congrArg some
    (Literal.token_injective hex.choose_spec.1 hl (hex.choose_spec.2.trans ht.symm))

/-- The text of a valid statement determines its canonical tree. -/
theorem canon_eq_of_sql_eq {s s' : Statement} (hs : s.violation? = none)
    (hs' : s'.violation? = none) (h : s.sql = s'.sql) : s.canon = s'.canon := by
  have htokens : tokens s.lexemes = tokens s'.lexemes :=
    tokens_eq_of_chars_eq (Statement.legible hs) (Statement.legible hs') h
  have hread' := Statement.parsed readNumber_token hs'
  rw [← htokens] at hread'
  exact (Statement.parsed readNumber_token hs).unique hread' (startsWith_nil [])

/-- **Two valid statements have the same text exactly if they have the same canonical tree.** -/
theorem text_eq_iff_canon_eq {s s' : Statement} (hs : s.violation? = none)
    (hs' : s'.violation? = none) :
    ∃ text text', s.node.text = .ok text ∧ s'.node.text = .ok text' ∧
      (text = text' ↔ s.canon = s'.canon) := by
  refine ⟨s.sql, s'.sql, s.text_node, s'.text_node, canon_eq_of_sql_eq hs hs', fun h => ?_⟩
  rw [← s.sql_canon, h, s'.sql_canon]

/-- A deletion under a condition on the columns `a`, `b` and `c`. -/
def guardedDelete (condition : Expr → Expr → Expr → Expr) : Statement :=
  .delete ⟨⟨none, ⟨"t"⟩⟩, some (condition (.column ⟨none, ⟨"a"⟩⟩) (.column ⟨none, ⟨"b"⟩⟩)
    (.column ⟨none, ⟨"c"⟩⟩))⟩

/-- The condition `a AND b AND c`, nested to the right. -/
def nestedRight : Statement := guardedDelete fun a b c => .and a (.and b c)

/-- The same text, nested to the left. -/
def nestedLeft : Statement := guardedDelete fun a b c => .and (.and a b) c

/-- The right nesting with its parentheses written out. -/
def grouped : Statement := guardedDelete fun a b c => .and a (.paren (.and b c))

/-- Two nestings of one chain have one text, a chain with a group in it has another. -/
theorem text_eq_iff_canon_eq_guardedDelete :
    (∃ text, nestedRight.node.text = .ok text ∧ nestedLeft.node.text = .ok text) ∧
      ∃ text text', nestedLeft.node.text = .ok text ∧ grouped.node.text = .ok text' ∧
        text ≠ text' := by
  have hright : nestedRight.violation? = none := rfl
  have hleft : nestedLeft.violation? = none := rfl
  have hgrouped : grouped.violation? = none := rfl
  obtain ⟨text, text', hr, hl, hiff⟩ := text_eq_iff_canon_eq hright hleft
  obtain ⟨text₁, text₂, hl', hg, hiff'⟩ := text_eq_iff_canon_eq hleft hgrouped
  have hother : nestedLeft ≠ grouped := by simp [nestedLeft, grouped, guardedDelete]
  -- `nestedLeft` and `grouped` are canonical, and `nestedRight` has the canonical form `nestedLeft`
  refine ⟨⟨text, hr, ?_⟩, text₁, text₂, hl', hg, fun h => hother (hiff'.mp h)⟩
  rw [hl, hiff.mpr rfl]

end SqlRender
