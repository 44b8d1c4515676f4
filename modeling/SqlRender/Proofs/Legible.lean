import SqlRender.Proofs.Layout
import SqlRender.Proofs.Lexer

/-!
# Proofs/Legible — the lexer reads back every valid statement

Whatever text names, strings and bind variables hold, a valid tree is written so that its tokens are
told apart: each is one that the lexer knows, and between two of them stands a blank, a comma or a
parenthesis. So the lexer finds in the text of a valid statement exactly its tokens
(`Statement.lex_sql`).
-/

namespace SqlRender

open Lexeme

namespace Lexeme

/-! ## Joining legible lexemes -/

/-- The last lexeme lets anything follow. -/
def endsLoose (ls : List Lexeme) : Bool := ls.getLast?.any isLoose

/-- The first lexeme may follow anything. -/
def startsLoose (ls : List Lexeme) : Bool := ls.head?.all fun m => m.isLoose && m ≠ punct '.'

/-- Anything may follow a blank or punctuation. -/
theorem apart_of_left {l : Lexeme} (h : l.isLoose = true) (m : Lexeme) : apart l m = true := by
  cases l with
  | blank => rfl
  | token t =>
    cases t with
    | punct c => rfl
    | _ => exact absurd h (by simp [isLoose])

/-- A blank or punctuation may follow anything, except a point, which would continue a number. -/
theorem apart_of_right (l : Lexeme) {m : Lexeme} (h : (m.isLoose && m ≠ punct '.') = true) :
    apart l m = true := by
  have hloose := (Bool.and_eq_true _ _).mp h
  cases l with
  | blank => rfl
  | token t =>
    cases t with
    | punct c => rfl
    | ident name => exact hloose.1
    | _ => exact h

/-- Only the end of lexemes counts for what may follow them. -/
theorem endsLoose_append {ls ms : List Lexeme} (h : endsLoose ms = true) :
    endsLoose (ls ++ ms) = true := by
  rw [endsLoose] at h ⊢
  cases hlast : ms.getLast? with
  | none => exact absurd h (by simp [hlast])
  | some m => rwa [List.getLast?_append, hlast, Option.some_or, ← hlast]

namespace Legible

variable {ls ms : List Lexeme}

theorem nil : Legible [] := ⟨by simp, .nil⟩

theorem token {t : Token} (h : t.Known) : Legible [.token t] :=
  ⟨fun u hu => by rwa [List.mem_singleton.mp hu], .singleton _⟩

/-- **Legible lexemes may be joined where one side is loose.** -/
theorem append (hls : Legible ls) (hms : Legible ms)
    (h : endsLoose ls = true ∨ startsLoose ms = true) : Legible (ls ++ ms) := by
  refine ⟨fun t ht => ?_, hls.apart.append hms.apart fun l hl m hm => ?_⟩
  · rw [tokens_append] at ht
    exact (List.mem_append.mp ht).elim (hls.known t) (hms.known t)
  · rcases h with h | h
    · rw [endsLoose, Option.mem_def.mp hl] at h
      exact apart_of_left h m
    · rw [startsLoose, Option.mem_def.mp hm] at h
      exact apart_of_right l h

/-- Legible lexemes between fixed ones. -/
theorem between {before after : List Lexeme} (hbefore : Legible before) (hls : Legible ls)
    (hafter : Legible after) (hends : endsLoose before = true)
    (hstarts : startsLoose after = true) : Legible (before ++ ls ++ after) :=
  (hbefore.append hls (.inl hends)).append hafter (.inr hstarts)

end Legible

/-- Lexemes of the grammar itself: keywords, operators and punctuation. -/
def isGrammar : Lexeme → Bool
  | .blank => true
  | .token (.keyword word) => isWord word && reservedWords.contains (lowerCase word)
  | .token (.op text) => operators.contains text
  | .token (.punct c) => isPunct c
  | .token _ => false

/-- Keywords and punctuation are legible if no two words touch. -/
theorem Legible.grammar {ls : List Lexeme} (h : ls.all isGrammar = true)
    (hapart : ls.IsChain fun l m => Lexeme.apart l m = true) : Legible ls := by
  refine ⟨fun t ht => ?_, hapart⟩
  obtain ⟨l, hl, hlt⟩ := List.mem_filterMap.mp ht
  have hgrammar := List.all_eq_true.mp h l hl
  cases l with
  | blank => exact absurd hlt (by simp [token?])
  | token u =>
    obtain rfl : u = t := Option.some.inj hlt
    cases u <;> simp_all [isGrammar, Token.Known]

theorem legible_commaList : ∀ {lists : List (List Lexeme)}, (∀ ls ∈ lists, Legible ls) →
    Legible (commaList lists)
  | [], _ => .nil
  | [ls], h => h ls (by simp)
  | ls :: ms :: lists, h => by
      have hrest := legible_commaList fun ns hns => h ns (List.mem_cons_of_mem ls hns)
      have hcomma : Legible [punct ',', .blank] := .grammar rfl (by decide)
      exact ((h ls (by simp)).append hcomma (.inr rfl)).append hrest
        (.inl (endsLoose_append rfl))

end Lexeme

/-! ## Names, literals, operators -/

theorem Ident.legible (i : Ident) : Legible [i.lexeme] := .token trivial

/-- A qualified name is legible: the point behind a name is no part of a number. -/
theorem legible_qualified (qualifier : Option Ident) (name : Ident) :
    Legible (qualifiedLexemes qualifier name) := by
  cases qualifier with
  | none => exact name.legible
  | some q =>
    have hpoint : Legible [q.lexeme, punct '.'] :=
      ⟨by simp [Ident.lexeme, Token.Known, isPunct], by simp [Ident.lexeme, apart, isLoose]⟩
    exact hpoint.append name.legible (.inl rfl)

theorem legible_alias (asName : Option Ident) : Legible (aliasLexemes asName) := by
  cases asName with
  | none => exact .nil
  | some a =>
    have hword : Legible [.blank, word "AS", .blank] := .grammar rfl (by decide)
    exact hword.append a.legible (.inl rfl)

/-- An alias keeps a blank from what it stands behind. -/
theorem startsLoose_alias (asName : Option Ident) : startsLoose (aliasLexemes asName) = true := by
  cases asName <;> rfl

theorem TableExpr.legible (t : TableExpr) : Legible t.lexemes :=
  (legible_qualified _ _).append (legible_alias _) (.inr (startsLoose_alias _))

/-- The token of a valid literal is known: its number is finite. -/
theorem Literal.known_token {l : Literal} (h : l.violation? = none) : l.token.Known := by
  cases hl : l.token with
  | number text => exact Literal.exists_numeral h hl
  | str content => trivial
  | _ => cases l <;> exact absurd hl (by simp [Literal.token])

/-- The token of a valid bind variable is known: its name is a word. -/
theorem BindVar.known_token {v : BindVar} (h : v.violation? = none) : v.token.Known := by
  by_contra hv
  have hname : ¬ isWord v.name = true := hv
  rw [BindVar.violation?, if_neg hname] at h
  exact absurd h (by simp)

theorem Comparison.legible (op : Comparison) :
    Legible ([Lexeme.blank] ++ op.lexemes ++ [Lexeme.blank]) := by
  cases op <;> exact .grammar rfl (by decide)

/-! ## Expressions -/

theorem legible_operand {e : Expr} (h : Legible e.lexemes) (least : Precedence) :
    Legible (operandLexemes e least e.lexemes) := by
  rw [operandLexemes]
  split
  · exact .between (.grammar rfl (by decide)) h (.grammar rfl (by decide)) rfl rfl
  · exact h

/-- The expressions of a valid list are valid. -/
theorem Expr.valid_of_mem : ∀ {es : List Expr}, Expr.firstViolation? es = none →
    ∀ e ∈ es, e.violation? = none
  | e :: es, h, x, hx => by
      rw [Expr.firstViolation?, Option.or_eq_none_iff] at h
      rcases List.mem_cons.mp hx with rfl | hx
      · exact h.1
      · exact Expr.valid_of_mem h.2 x hx

theorem SelectItem.valid_of_mem : ∀ {is : List SelectItem}, SelectItem.firstViolation? is = none →
    ∀ i ∈ is, i.violation? = none
  | i :: is, h, x, hx => by
      rw [SelectItem.firstViolation?, Option.or_eq_none_iff] at h
      rcases List.mem_cons.mp hx with rfl | hx
      · exact h.1
      · exact SelectItem.valid_of_mem h.2 x hx

/-- An entry is legible if its expression is. -/
theorem SelectItem.legible_of {i : SelectItem}
    (h : ∀ e asName, i = .expr e asName → Legible e.lexemes) : Legible i.lexemes := by
  cases i with
  | star =>
    rw [SelectItem.lexemes]
    exact .grammar rfl (by decide)
  | qualifiedStar table =>
    rw [SelectItem.lexemes]
    exact ⟨by simp [Ident.lexeme, Token.Known, isPunct], by simp [Ident.lexeme, apart, isLoose]⟩
  | expr e asName =>
    rw [SelectItem.lexemes]
    exact (h e asName rfl).append (legible_alias _) (.inr (startsLoose_alias _))

/-- Two legible operands around an operator. -/
theorem legible_operator {left right : Expr} {op : List Lexeme} (least : Precedence)
    (hleft : Legible left.lexemes) (hright : Legible right.lexemes) (hop : Legible op)
    (hstarts : startsLoose op = true) (hends : endsLoose op = true) :
    Legible (operandLexemes left least left.lexemes ++ op ++
      operandLexemes right least right.lexemes) := by
  refine ((legible_operand hleft least).append hop (.inr hstarts)).append
    (legible_operand hright least) (.inl (endsLoose_append hends))

/-- **Every valid expression is legible.** -/
theorem Expr.legible (e : Expr) : e.violation? = none → Legible e.lexemes := by
  induction e using Expr.tree_induction with
  | column c =>
    intro _
    rw [Expr.lexemes]
    exact legible_qualified _ _
  | literal l =>
    intro h
    rw [Expr.violation?] at h
    rw [Expr.lexemes]
    exact .token (Literal.known_token h)
  | bind v =>
    intro h
    rw [Expr.violation?] at h
    rw [Expr.lexemes]
    exact .token (BindVar.known_token h)
  | null =>
    intro _
    rw [Expr.lexemes]
    exact .grammar rfl (by decide)
  | comparison left op right hleft hright =>
    intro h
    rw [Expr.violation?, Option.or_eq_none_iff] at h
    rw [Expr.lexemes]
    exact legible_operator .atom (hleft h.1) (hright h.2) op.legible rfl (endsLoose_append rfl)
  | and left right hleft hright =>
    intro h
    rw [Expr.violation?, Option.or_eq_none_iff] at h
    rw [Expr.lexemes]
    exact legible_operator .and (hleft h.1) (hright h.2) (.grammar rfl (by decide)) rfl rfl
  | or left right hleft hright =>
    intro h
    rw [Expr.violation?, Option.or_eq_none_iff] at h
    rw [Expr.lexemes]
    exact legible_operator .or (hleft h.1) (hright h.2) (.grammar rfl (by decide)) rfl rfl
  | not e he =>
    intro h
    rw [Expr.violation?] at h
    rw [Expr.lexemes]
    exact .append (.grammar rfl (by decide)) (legible_operand (he h) .not) (.inl rfl)
  | paren e he =>
    intro h
    rw [Expr.violation?] at h
    rw [Expr.lexemes]
    exact .between (.grammar rfl (by decide)) (he h) (.grammar rfl (by decide)) rfl rfl
  | func name distinct args hargs =>
    intro h
    rw [Expr.violation?, FuncCall.violation?] at h
    rw [Expr.lexemes, FuncCall.lexemes, SelectItem.lexemeLists_eq_map]
    have hitems : ∀ ls ∈ args.map SelectItem.lexemes, Legible ls := by
      intro ls hls
      obtain ⟨i, hi, rfl⟩ := List.mem_map.mp hls
      refine SelectItem.legible_of fun e asName hie => ?_
      subst hie
      have he := SelectItem.valid_of_mem h _ hi
      rw [SelectItem.violation?] at he
      exact hargs e asName hi he
    have hopen : Legible [name.lexeme, punct '('] :=
      ⟨by simp [Ident.lexeme, Token.Known, isPunct], by simp [Ident.lexeme, apart, isLoose]⟩
    have hclose : Legible [punct ')'] := .grammar rfl (by decide)
    cases distinct
    · exact .between (hopen.append .nil (.inr rfl)) (legible_commaList hitems) hclose rfl rfl
    · have hword : Legible [word "DISTINCT", .blank] := .grammar rfl (by decide)
      exact .between (hopen.append hword (.inl rfl)) (legible_commaList hitems) hclose rfl rfl
  | isIn e negated list he hlist =>
    intro h
    rw [Expr.violation?, Option.or_eq_none_iff, Option.or_eq_none_iff] at h
    rw [Expr.lexemes, Expr.lexemeLists_eq_map]
    have hitems : ∀ ls ∈ list.map Expr.lexemes, Legible ls := by
      intro ls hls
      obtain ⟨x, hx, rfl⟩ := List.mem_map.mp hls
      exact hlist x hx (Expr.valid_of_mem h.2 x hx)
    have hoperand := legible_operand (he h.1.1) .atom
    have hclose : Legible [punct ')'] := .grammar rfl (by decide)
    cases negated
    · exact .between (hoperand.append (.grammar rfl (by decide)) (.inr rfl))
        (legible_commaList hitems) hclose (endsLoose_append rfl) rfl
    · exact .between (hoperand.append (.grammar rfl (by decide)) (.inr rfl))
        (legible_commaList hitems) hclose (endsLoose_append rfl) rfl
  | isNull e negated he =>
    intro h
    rw [Expr.violation?] at h
    rw [Expr.lexemes]
    have hoperand := legible_operand (he h) .atom
    cases negated
    · exact hoperand.append (.grammar rfl (by decide)) (.inr rfl)
    · exact hoperand.append (.grammar rfl (by decide)) (.inr rfl)

theorem SelectItem.legible {i : SelectItem} (h : i.violation? = none) : Legible i.lexemes := by
  refine SelectItem.legible_of fun e asName hie => ?_
  subst hie
  rw [SelectItem.violation?] at h
  exact e.legible h

/-! ## Clauses -/

theorem legible_map {α : Type} {lexemes : α → List Lexeme} {as : List α}
    (h : ∀ a ∈ as, Legible (lexemes a)) : Legible (commaList (as.map lexemes)) := by
  refine legible_commaList fun ls hls => ?_
  obtain ⟨a, ha, rfl⟩ := List.mem_map.mp hls
  exact h a ha

theorem OrderItem.legible {o : OrderItem} (h : o.expr.violation? = none) : Legible o.lexemes := by
  rw [OrderItem.lexemes]
  split
  · exact (o.expr.legible h).append (.grammar rfl (by decide)) (.inr rfl)
  · exact (o.expr.legible h).append .nil (.inr rfl)

theorem Limit.legible {l : Limit} (h : l.violation? = none) : Legible l.lexemes := by
  rw [Limit.violation?, Option.or_eq_none_iff] at h
  have hword : Legible [word "LIMIT", .blank] := .grammar rfl (by decide)
  have hrowcount := hword.append (l.rowcount.legible h.1) (.inl rfl)
  rw [Limit.lexemes]
  cases hoffset : l.offset with
  | none => exact hrowcount.append .nil (.inr rfl)
  | some e =>
    rw [hoffset] at h
    have hoffsetWord : Legible [.blank, word "OFFSET", .blank] := .grammar rfl (by decide)
    exact hrowcount.append (hoffsetWord.append (e.legible h.2) (.inl rfl)) (.inr rfl)

theorem Assignment.legible {a : Assignment} (h : a.value.violation? = none) : Legible a.lexemes :=
  have hop : Legible [.blank, .token (.op "="), .blank] := .grammar rfl (by decide)
  ((legible_qualified _ _).append hop (.inr rfl)).append (a.value.legible h)
    (.inl (endsLoose_append rfl))

theorem Row.legible {r : Row} (h : r.violation? = none) : Legible r.lexemes := by
  rw [Row.violation?, Option.or_eq_none_iff] at h
  exact .between (.grammar rfl (by decide))
    (legible_map fun e he => e.legible (Expr.valid_of_mem h.2 e he)) (.grammar rfl (by decide)) rfl
    rfl

/-- A clause is legible if it is there, and nothing is legible anyway. -/
theorem legible_optionClause {keyword : String} (hkeyword : Legible [.blank, word keyword, .blank])
    {e : Option Expr} (h : e.bind Expr.violation? = none) : Legible (optionClause keyword e) := by
  cases e with
  | none => exact .nil
  | some e => exact hkeyword.append (e.legible h) (.inl rfl)

theorem startsLoose_optionClause (keyword : String) (e : Option Expr) :
    startsLoose (optionClause keyword e) = true := by
  cases e <;> rfl

theorem legible_listClause {α : Type} {lexemes : α → List Lexeme} {as : List α}
    {keywords : List Lexeme} (hkeywords : Legible keywords) (hends : endsLoose keywords = true)
    (h : ∀ a ∈ as, Legible (lexemes a)) : Legible (listClause keywords (as.map lexemes)) := by
  rw [listClause]
  split
  · exact .nil
  · exact hkeywords.append (legible_map h) (.inl hends)

theorem startsLoose_listClause (keywords : List Lexeme) (items : List (List Lexeme)) :
    startsLoose (listClause (.blank :: keywords) items) = true := by
  rw [listClause]
  split <;> rfl

theorem legible_where {e : Option Expr} (h : e.bind Expr.violation? = none) :
    Legible (optionClause "WHERE" e) := legible_optionClause (.grammar rfl (by decide)) h

/-! ## Statements -/

theorem Select.legible {s : Select} (h : s.violation? = none) : Legible s.lexemes := by
  simp only [Select.violation?, Option.or_eq_none_iff, List.findSome?_eq_none_iff] at h
  obtain ⟨⟨⟨⟨⟨⟨_, hcolumns⟩, hfilter⟩, hgroupBy⟩, hhaving⟩, horderBy⟩, hlimit⟩ := h
  have hselect : Legible ([word "SELECT", .blank] ++
      (if s.distinct then [word "DISTINCT", .blank] else [])) := by
    cases s.distinct <;> exact .grammar rfl (by decide)
  have hends : endsLoose ([word "SELECT", .blank] ++
      (if s.distinct then [word "DISTINCT", .blank] else [])) = true := by
    cases s.distinct <;> rfl
  rw [Select.lexemes]
  refine ((((((hselect.append (legible_map fun i hi => SelectItem.legible
    (SelectItem.valid_of_mem hcolumns i hi)) (.inl hends)).append
    (legible_listClause (.grammar rfl (by decide)) rfl fun t _ => t.legible)
      (.inr (startsLoose_listClause _ _))).append
    (legible_where hfilter) (.inr (startsLoose_optionClause _ _))).append
    (legible_listClause (.grammar rfl (by decide)) rfl fun e he =>
      e.legible (Expr.valid_of_mem hgroupBy e he)) (.inr (startsLoose_listClause _ _))).append
    (legible_optionClause (.grammar rfl (by decide)) hhaving)
      (.inr (startsLoose_optionClause _ _))).append
    (legible_listClause (.grammar rfl (by decide)) rfl fun o ho =>
      OrderItem.legible (horderBy o ho)) (.inr (startsLoose_listClause _ _))).append ?_ (.inr ?_)
  · cases hl : s.limit with
    | none => exact .nil
    | some l =>
      rw [hl] at hlimit
      have hblank : Legible [.blank] := .grammar rfl (by decide)
      exact hblank.append (Limit.legible hlimit) (.inl rfl)
  · cases s.limit <;> rfl

theorem Insert.legible {s : Insert} (h : s.violation? = none) : Legible s.lexemes := by
  simp only [Insert.violation?, Option.or_eq_none_iff, List.findSome?_eq_none_iff] at h
  have hinsert : Legible [word "INSERT", .blank, word "INTO", .blank] := .grammar rfl (by decide)
  have hopen : Legible [.blank, punct '('] := .grammar rfl (by decide)
  have hclose : Legible [punct ')'] := .grammar rfl (by decide)
  have hvalues : Legible [.blank, word "VALUES", .blank] := .grammar rfl (by decide)
  rw [Insert.lexemes]
  refine (((hinsert.append (legible_qualified _ _) (.inl rfl)).append ?_ (.inr ?_)).append hvalues
    (.inr rfl)).append (legible_map fun r hr => Row.legible (h.2 r hr))
    (.inl (endsLoose_append rfl))
  · split
    · exact .nil
    · exact hopen.between (legible_map fun i _ => i.legible) hclose rfl rfl
  · split <;> rfl

theorem Update.legible {s : Update} (h : s.violation? = none) : Legible s.lexemes := by
  simp only [Update.violation?, Option.or_eq_none_iff, List.findSome?_eq_none_iff] at h
  have hupdate : Legible [word "UPDATE", .blank] := .grammar rfl (by decide)
  have hset : Legible [.blank, word "SET", .blank] := .grammar rfl (by decide)
  rw [Update.lexemes]
  exact (((hupdate.append (legible_qualified _ _) (.inl rfl)).append hset (.inr rfl)).append
    (legible_map fun a ha => Assignment.legible (h.1.2 a ha)) (.inl (endsLoose_append rfl))).append
    (legible_where h.2) (.inr (startsLoose_optionClause _ _))

theorem Delete.legible {s : Delete} (h : s.violation? = none) : Legible s.lexemes := by
  have hdelete : Legible [word "DELETE", .blank, word "FROM", .blank] := .grammar rfl (by decide)
  rw [Delete.lexemes]
  exact (hdelete.append (legible_qualified _ _) (.inl rfl)).append (legible_where h)
    (.inr (startsLoose_optionClause _ _))

/-- **The text of a valid statement can be read back token by token.** -/
theorem Statement.legible {s : Statement} (h : s.violation? = none) : Legible s.lexemes := by
  cases s with
  | select s => exact Select.legible h
  | insert s => exact Insert.legible h
  | update s => exact Update.legible h
  | delete s => exact Delete.legible h

/-- **The lexer finds in the text of a valid statement exactly its tokens.** -/
theorem Statement.lex_sql {s : Statement} (h : s.violation? = none) :
    lex s.sql = some (tokens s.lexemes) := lex_chars (Statement.legible h)

end SqlRender
