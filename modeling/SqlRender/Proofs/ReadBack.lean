import SqlRender.Proofs.Legible
import SqlRender.Proofs.Parser

/-!
# Proofs/ReadBack — expressions are read back from their tokens

The parser reads the tokens of a valid expression back as the canonical expression
(`Expr.readable`). The induction carries two facts: the expression is read as an operand of its own
binding strength, and, if it is a chain, its operands are read one by one, so that a chain inside a
chain continues the outer one.
-/

namespace SqlRender

open Lexeme

/-! ## Operands -/

section Operands

variable {read : String → Option Literal} {e : Expr}

/-- The tokens of an expression are read back as the canonical expression, as an operand of its own
binding strength and as operands of a chain. -/
structure Expr.Readable (read : String → Option Literal) (e : Expr) : Prop where
  own : ParsedAt read e.precedence (tokens e.lexemes) e.canon
  chain : ∀ k : Connective, e.precedence = k.level → ParsedChain read k (tokens e.lexemes) e.canon

/-- An expression that is no chain. -/
theorem Expr.Readable.of_own (p : Precedence) (h : ParsedAt read p (tokens e.lexemes) e.canon)
    (he : e.precedence = p) (hp : 2 ≤ p.rank) : e.Readable read := by
  subst he
  refine ⟨h, fun k hk => ?_⟩
  rw [hk] at hp
  cases k <;> exact absurd hp (by decide)

/-- An expression is read back at every level that it is tight enough for. -/
theorem Expr.Readable.at_level (h : e.Readable read) {p : Precedence}
    (hp : p.rank ≤ e.precedence.rank) : ParsedAt read p (tokens e.lexemes) e.canon := by
  refine h.own.looser ?_ hp
  rw [e.precedence_canon]

/-- A whole expression. -/
theorem Expr.Readable.whole (h : e.Readable read) : ParsedAt read .or (tokens e.lexemes) e.canon :=
  h.at_level (Nat.zero_le _)

/-- An expression in parentheses is read back as a node of its own. -/
theorem parsed_paren {ts : List Token} (h : ParsedAt read .or ts e) :
    ParsedAt read .atom (.punct '(' :: (ts ++ [Token.punct ')'])) (.paren e) := by
  intro rest _
  have hclosed := parsed_closed (fun us => ends_cons (by decide) us) h rest trivial
  filter_upwards [eventually_succ hclosed] with n hsucc
  obtain ⟨m, hn, hm⟩ := hsucc
  rw [hn, List.cons_append, parseExpr, TokenReader.atom, hm]
  rfl

/-- **An operand is read back**, in parentheses where it needs them. -/
theorem Expr.Readable.operand (h : e.Readable read) (least : Precedence) :
    ParsedAt read least (tokens (operandLexemes e least e.lexemes)) (e.canon.operand least) := by
  rw [operandLexemes, Expr.operand, e.precedence_canon]
  split
  case isTrue =>
    rw [tokens_append, tokens_append]
    exact (parsed_paren h.whole).looser (Nat.le_refl _) least.rank_le_atom
  case isFalse hle => exact h.at_level (Nat.not_lt.mp hle)

/-- What binds tighter than a connective is an operand of the next level. -/
theorem Connective.next_rank_le (k : Connective) {p : Precedence} (h : k.level.rank ≤ p.rank)
    (hne : p ≠ k.level) : k.next.rank ≤ p.rank := by
  cases k <;> cases p <;> simp_all [Connective.level, Connective.next, Precedence.rank]

/-- An operand of a chain is read back as a chain. -/
theorem Expr.Readable.chainOperand (h : e.Readable read) (k : Connective) :
    ParsedChain read k (tokens (operandLexemes e k.level e.lexemes)) (e.canon.operand k.level) := by
  rw [operandLexemes, Expr.operand, e.precedence_canon]
  split
  case isTrue =>
    rw [tokens_append, tokens_append]
    refine .single ((parsed_paren h.whole).looser (Nat.le_refl _) k.next.rank_le_atom) ?_
    cases k <;> simp [Expr.precedence, Connective.level]
  case isFalse hle =>
    by_cases heq : e.precedence = k.level
    · exact h.chain k heq
    · exact .single (h.at_level (k.next_rank_le (Nat.not_lt.mp hle) heq)) (e.precedence_canon ▸ heq)

end Operands

/-! ## Tokens that start no expression -/

section Failure

variable {read : String → Option Literal} {ts : List Token}

/-- Without a first item there is no list. -/
theorem sepBy_eq_none {α : Type} {sep : Token} {item : TokenReader α} (h : item ts = none) :
    ∀ n, TokenReader.sepBy sep item n ts = none
  | 0 => rfl
  | n + 1 => by rw [TokenReader.sepBy, h]

/-- Where neither an atom nor a negation begins, no expression does. -/
theorem parseExpr_eq_none (hatom : ∀ expr items, TokenReader.atom read expr items ts = none)
    (hnot : .keyword "NOT" ∉ ts.head?) : ∀ (n : Nat) (p : Precedence), parseExpr read n p ts = none
  | 0, _ => by rw [parseExpr]
  | n + 1, .or => by rw [parseExpr, sepBy_eq_none (parseExpr_eq_none hatom hnot n .and)]; rfl
  | n + 1, .and => by rw [parseExpr, sepBy_eq_none (parseExpr_eq_none hatom hnot n .not)]; rfl
  | n + 1, .not => by
      rw [parseExpr, parseExpr_eq_none hatom hnot n .predicate]
      dsimp only
      rw [after_eq_none hnot]
      rfl
  | n + 1, .predicate => by rw [parseExpr, parseExpr_eq_none hatom hnot n .atom]; rfl
  | n + 1, .atom => by rw [parseExpr, hatom]

/-- A predicate does not start with `NOT`. -/
theorem parseExpr_predicate_not : ∀ n : Nat,
    parseExpr read n .predicate (.keyword "NOT" :: ts) = none
  | 0 => rfl
  | 1 => rfl
  | n + 2 => by rw [parseExpr, parseExpr]; rfl

/-- Neither a closing parenthesis nor `DISTINCT` starts an entry. -/
theorem items_eq_none {t : Token} (ht : t = .punct ')' ∨ t = .keyword "DISTINCT") (us : List Token)
    (n : Nat) :
    TokenReader.commaSep (TokenReader.item (parseExpr read n .or)) n (t :: us) = none := by
  have hitem : TokenReader.item (parseExpr read n .or) (t :: us) = none := by
    rcases ht with rfl | rfl
    all_goals
      rw [TokenReader.item, parseExpr_eq_none (fun _ _ => rfl) (by simp) n .or]
      rfl
  rw [TokenReader.commaSep, sepBy_eq_none hitem]
  rfl

end Failure

/-! ## Optional parts -/

section Optional

variable {α : Type}

/-- What does not start with the words of a clause is left for the next one. -/
theorem optionally_none (p : TokenReader α) {f : Token} (front : List Token) {rest : List Token}
    (h : f ∉ rest.head?) : TokenReader.optionally (f :: front) p rest = some (none, rest) := by
  rw [TokenReader.optionally, after_eq_none h]

theorem optionally_some {p : TokenReader α} (front : List Token) {ts rest : List Token} {a : α}
    (h : p ts = some (a, rest)) :
    TokenReader.optionally front p (front ++ ts) = some (some a, rest) := by
  rw [TokenReader.optionally, after_append]
  dsimp only
  rw [h]
  rfl

/-- The word `DISTINCT` where it is wanted. -/
def distinctTokens (distinct : Bool) : List Token := if distinct then [.keyword "DISTINCT"] else []

theorem tokens_distinct (distinct : Bool) :
    tokens (if distinct then [word "DISTINCT", .blank] else []) = distinctTokens distinct := by
  cases distinct <;> rfl

/-- A value is read with or without `DISTINCT`, if it cannot start with that word itself. -/
theorem parsed_maybeDistinct {p : Nat → TokenReader α} {follow : List Token → Prop}
    {ts : List Token} {a : α} (h : Parsed p follow ts a)
    (hnone : ∀ n us, p n (.keyword "DISTINCT" :: us) = none) (distinct : Bool) :
    Parsed (fun n => TokenReader.maybeDistinct (p n)) follow
      (distinctTokens distinct ++ ts) (distinct, a) := by
  intro rest hrest
  filter_upwards [h rest hrest] with n hn
  cases distinct with
  | false =>
    have hts : distinctTokens false ++ ts ++ rest = ts ++ rest := rfl
    rw [hts, TokenReader.maybeDistinct, hn]
  | true =>
    have hts : distinctTokens true ++ ts ++ rest = [Token.keyword "DISTINCT"] ++ (ts ++ rest) :=
      rfl
    have hfail : p n ([Token.keyword "DISTINCT"] ++ (ts ++ rest)) = none := hnone n _
    rw [hts, TokenReader.maybeDistinct, hfail]
    dsimp only
    rw [after_append, Option.bind_some, hn]
    rfl

end Optional

/-! ## Entries and arguments -/

section Items

variable {read : String → Option Literal}

/-- What may follow an entry of a select list. -/
def EndsItem (rest : List Token) : Prop := Ends .or rest ∧ .keyword "AS" ∉ rest.head?

theorem asName_append (asName : Option Ident) {rest : List Token} (h : .keyword "AS" ∉ rest.head?) :
    TokenReader.asName (tokens (aliasLexemes asName) ++ rest) = some (asName, rest) := by
  cases asName with
  | none => exact optionally_none TokenReader.ident [] h
  | some a => rfl

theorem parsed_item_expr {e : Expr} (h : e.Readable read) (asName : Option Ident) :
    Parsed (fun n => TokenReader.item (parseExpr read n .or)) EndsItem
      (tokens (SelectItem.expr e asName).lexemes) (.expr e.canon asName) := by
  intro rest hrest
  have hends : Ends .or (tokens (aliasLexemes asName) ++ rest) := by
    cases asName with
    | none => exact hrest.1
    | some a => exact ends_cons (by decide) _
  filter_upwards [h.whole _ hends] with n hn
  rw [SelectItem.lexemes, tokens_append, List.append_assoc, TokenReader.item, hn]
  dsimp only
  rw [asName_append asName hrest.2]
  rfl

/-- **An entry is read back**, if its expression is. -/
theorem SelectItem.parsed_of {i : SelectItem}
    (h : ∀ e asName, i = .expr e asName → e.Readable read) :
    Parsed (fun n => TokenReader.item (parseExpr read n .or)) EndsItem (tokens i.lexemes)
      i.canon := by
  cases i with
  | star =>
    intro rest _
    refine Filter.Eventually.of_forall fun n => ?_
    have hnone : parseExpr read n .or (.punct '*' :: rest) = none :=
      parseExpr_eq_none (fun _ _ => rfl) (by simp) n .or
    have hts : tokens SelectItem.star.lexemes ++ rest = .punct '*' :: rest := by
      rw [SelectItem.lexemes]
      rfl
    beta_reduce
    rw [hts, TokenReader.item, hnone, SelectItem.canon]
    rfl
  | qualifiedStar table =>
    intro rest _
    refine Filter.Eventually.of_forall fun n => ?_
    have hnone :
        parseExpr read n .or (.ident table.name :: .punct '.' :: .punct '*' :: rest) = none :=
      parseExpr_eq_none (fun _ _ => rfl) (by simp) n .or
    have hts : tokens (SelectItem.qualifiedStar table).lexemes ++ rest
        = .ident table.name :: .punct '.' :: .punct '*' :: rest := by
      rw [SelectItem.lexemes]
      rfl
    beta_reduce
    rw [hts, TokenReader.item, hnone, SelectItem.canon]
    rfl
  | expr e asName =>
    rw [SelectItem.canon]
    exact parsed_item_expr (h e asName rfl) asName

theorem endsItem_comma (ts : List Token) : EndsItem (.punct ',' :: ts) :=
  ⟨ends_cons (by decide) ts, by simp⟩

/-- What may follow the arguments of a call. -/
def EndsArguments (rest : List Token) : Prop := rest.head? = some (.punct ')')

/-- **The arguments of a call are read back**, also when there are none. -/
theorem parsed_arguments {args : List SelectItem}
    (h : ∀ e asName, .expr e asName ∈ args → e.Readable read) :
    Parsed (fun n => TokenReader.arguments
        (TokenReader.commaSep (TokenReader.item (parseExpr read n .or)) n)) EndsArguments
      (tokens (commaList (args.map SelectItem.lexemes))) (args.map SelectItem.canon) := by
  intro rest hrest
  obtain ⟨rest, rfl⟩ : ∃ us, rest = .punct ')' :: us := by
    cases rest with
    | nil => exact absurd hrest (by simp [EndsArguments])
    | cons t us => exact ⟨us, by rw [Option.some.inj hrest]⟩
  by_cases hargs : args = []
  · subst hargs
    refine Filter.Eventually.of_forall fun n => ?_
    have hnone : TokenReader.commaSep (TokenReader.item (parseExpr read n .or)) n
        (.punct ')' :: rest) = none := items_eq_none (.inl rfl) rest n
    have hts : tokens (commaList (([] : List SelectItem).map SelectItem.lexemes)) ++
        .punct ')' :: rest = .punct ')' :: rest := rfl
    beta_reduce
    rw [hts, TokenReader.arguments, hnone]
    rfl
  · have hitems := parsed_commaSep endsItem_comma hargs
      (fun i hi => SelectItem.parsed_of (i := i) fun e asName hie => h e asName (hie ▸ hi))
      (.punct ')' :: rest) ⟨⟨ends_cons (by decide) rest, by simp⟩, by simp⟩
    filter_upwards [hitems] with n hn
    rw [TokenReader.arguments, hn]

end Items

/-! ## Every expression -/

section Expressions

variable {read : String → Option Literal}

/-- What is read off the tokens themselves. -/
theorem parsed_atom {ts : List Token} {e : Expr}
    (h : ∀ expr items rest, Ends .atom rest →
      TokenReader.atom read expr items (ts ++ rest) = some (e, rest)) :
    ParsedAt read .atom ts e := by
  intro rest hrest
  filter_upwards [eventually_succ (Filter.Eventually.of_forall fun _ => trivial)] with n hsucc
  obtain ⟨m, hn, _⟩ := hsucc
  rw [hn, parseExpr]
  exact h _ _ rest hrest

theorem parsed_column (qualifier : Option Ident) (name : Ident) :
    ParsedAt read .atom (tokens (qualifiedLexemes qualifier name)) (.column ⟨qualifier, name⟩) := by
  refine parsed_atom fun expr items rest hrest => ?_
  cases qualifier with
  | none =>
    have hts : tokens (qualifiedLexemes none name) ++ rest = .ident name.name :: rest := rfl
    rw [hts, TokenReader.atom, TokenReader.named]
    -- a parenthesis or a point would make it a call or a qualifier
    all_goals
      rintro us rfl
      exact absurd (hrest _ rfl) (by decide)
  | some q => rfl

/-- A call is read back with its arguments. `DISTINCT` is tried last: it is no expression. -/
theorem parsed_func (name : Ident) (distinct : Bool) {args : List SelectItem}
    (h : ∀ e asName, .expr e asName ∈ args → e.Readable read) :
    ParsedAt read .atom (tokens (Expr.func ⟨name, distinct, args⟩).lexemes)
      (Expr.func ⟨name, distinct, args⟩).canon := by
  intro rest _
  have hclosed := parsed_closed (fun _ => rfl) (parsed_arguments h)
  have hargs := parsed_maybeDistinct hclosed (fun n us => by
    rw [TokenReader.closed, TokenReader.arguments, items_eq_none (.inr rfl)]
    rfl) distinct rest trivial
  filter_upwards [eventually_succ hargs] with n hsucc
  obtain ⟨m, hn, hm⟩ := hsucc
  have hts : tokens (Expr.func ⟨name, distinct, args⟩).lexemes ++ rest
      = .ident name.name :: .punct '(' :: (distinctTokens distinct ++
          (tokens (commaList (args.map SelectItem.lexemes)) ++ [Token.punct ')']) ++ rest) := by
    rw [Expr.lexemes, FuncCall.lexemes, SelectItem.lexemeLists_eq_map]
    simp [Ident.lexeme, tokens_distinct]
  rw [hts, hn, parseExpr, TokenReader.atom, TokenReader.named, hm, Expr.canon,
    SelectItem.listCanon_eq_map]
  rfl

/-- A predicate is its first operand and a tail that cannot go on with it. -/
theorem parsed_predicate {e e' : Expr} (he : e.Readable read) {tail : List Token}
    (hhead : ∀ rest, Ends .atom (tail ++ rest))
    (htail : ∀ rest, Ends .predicate rest → ∀ᶠ n in Filter.atTop,
      TokenReader.predicate (parseExpr read n .atom)
        (TokenReader.commaSep (parseExpr read n .or) n) (e.canon.operand .atom) (tail ++ rest)
        = some (e', rest)) :
    ParsedAt read .predicate (tokens (operandLexemes e .atom e.lexemes) ++ tail) e' := by
  intro rest hrest
  filter_upwards [eventually_succ ((he.operand .atom _ (hhead rest)).and (htail rest hrest))]
    with n hsucc
  obtain ⟨m, hn, hoperand, hm⟩ := hsucc
  rw [List.append_assoc, hn, parseExpr, hoperand]
  exact hm

theorem predicate_comparison {atom : TokenReader Expr} (exprs : TokenReader (List Expr)) (e : Expr)
    (op : Comparison) {ts rest : List Token} {r : Expr} (h : atom ts = some (r, rest)) :
    TokenReader.predicate atom exprs e (tokens op.lexemes ++ ts)
      = some (.comparison e op r, rest) := by
  have hmap : ∀ f : Expr × List Token → Expr × List Token,
      (atom ts).map f = some (f (r, rest)) := by
    intro f
    rw [h]
    rfl
  cases op <;> exact hmap _

theorem parsed_comparison {left right : Expr} (hleft : left.Readable read) (op : Comparison)
    (hright : right.Readable read) :
    ParsedAt read .predicate (tokens (Expr.comparison left op right).lexemes)
      (Expr.comparison left op right).canon := by
  have hts : tokens (Expr.comparison left op right).lexemes
      = tokens (operandLexemes left .atom left.lexemes) ++
          (tokens op.lexemes ++ tokens (operandLexemes right .atom right.lexemes)) := by
    rw [Expr.lexemes]
    simp
  rw [hts, Expr.canon]
  refine parsed_predicate hleft (fun rest => ?_) fun rest hrest => ?_
  · cases op <;> exact ends_cons (by decide) _
  · filter_upwards [hright.operand .atom rest (hrest.mono (by decide))] with n hn
    rw [List.append_assoc]
    exact predicate_comparison _ _ op hn

theorem parsed_isNull {e : Expr} (he : e.Readable read) (negated : Bool) :
    ParsedAt read .predicate (tokens (Expr.isNull e negated).lexemes)
      (Expr.isNull e negated).canon := by
  rw [Expr.lexemes, Expr.canon, tokens_append]
  cases negated
  all_goals
    exact parsed_predicate he (fun _ => ends_cons (t := .keyword "IS") (by decide) _)
      fun _ _ => Filter.Eventually.of_forall fun _ => rfl

/-- The words of an `IN` predicate. -/
def inTokens (negated : Bool) : List Token :=
  if negated then [.keyword "NOT", .keyword "IN", .punct '('] else [.keyword "IN", .punct '(']

/-- Expressions with commas between them, up to a closing parenthesis. -/
theorem parsed_closedExprs {es : List Expr} (hne : es ≠ []) (h : ∀ e ∈ es, e.Readable read) :
    Parsed (fun n => TokenReader.closed (TokenReader.commaSep (parseExpr read n .or) n))
      (fun _ => True) (tokens (commaList (es.map Expr.lexemes)) ++ [Token.punct ')'])
      (es.map Expr.canon) := by
  have hclose : ∀ us, EndsList (Ends .or) (.punct ')' :: us) :=
    fun us => ⟨ends_cons (by decide) us, by simp⟩
  exact parsed_closed hclose
    (parsed_commaSep (fun us => ends_cons (by decide) us) hne fun e he => (h e he).whole)

theorem predicate_isIn (atom : TokenReader Expr) (exprs : TokenReader (List Expr)) (e : Expr)
    (negated : Bool) (ts : List Token) :
    TokenReader.predicate atom exprs e (inTokens negated ++ ts)
      = (TokenReader.closed exprs ts).map fun r => (.isIn e negated r.1, r.2) := by
  cases negated <;> rfl

/-- A membership test in a list that is not empty is read back, negated or not. -/
theorem parsed_isIn {e : Expr} (he : e.Readable read) (negated : Bool) {list : List Expr}
    (hne : list ≠ []) (hlist : ∀ x ∈ list, x.Readable read) :
    ParsedAt read .predicate (tokens (Expr.isIn e negated list).lexemes)
      (Expr.isIn e negated list).canon := by
  have hts : tokens (Expr.isIn e negated list).lexemes
      = tokens (operandLexemes e .atom e.lexemes) ++ (inTokens negated ++
          (tokens (commaList (list.map Expr.lexemes)) ++ [Token.punct ')'])) := by
    rw [Expr.lexemes, Expr.lexemeLists_eq_map]
    cases negated <;> simp [inTokens]
  rw [hts, Expr.canon, Expr.listCanon_eq_map]
  refine parsed_predicate he (fun rest => ?_) fun rest _ => ?_
  · cases negated <;> exact ends_cons (by decide) _
  · filter_upwards [parsed_closedExprs hne hlist rest trivial] with n hn
    rw [List.append_assoc, predicate_isIn, hn]
    rfl

theorem parsed_not {e : Expr} (he : e.Readable read) :
    ParsedAt read .not (tokens (Expr.not e).lexemes) (Expr.not e).canon := by
  intro rest hrest
  filter_upwards [eventually_succ (he.operand .not rest hrest)] with n hsucc
  obtain ⟨m, hn, hm⟩ := hsucc
  have hts : tokens (Expr.not e).lexemes ++ rest
      = [Token.keyword "NOT"] ++ (tokens (operandLexemes e .not e.lexemes) ++ rest) := by
    rw [Expr.lexemes]
    simp
  have hnone : parseExpr read m .predicate
      ([Token.keyword "NOT"] ++ (tokens (operandLexemes e .not e.lexemes) ++ rest)) = none :=
    parseExpr_predicate_not m
  rw [hts, hn, parseExpr, hnone]
  dsimp only
  rw [after_append, Option.bind_some, hm, Expr.canon]
  rfl

/-- A chain of readable operands is read back in its canonical form. -/
theorem Connective.readable (k : Connective) {left right : Expr} (hleft : left.Readable read)
    (hright : right.Readable read) : (k.expr left right).Readable read := by
  have hts : tokens (k.expr left right).lexemes
      = tokens (operandLexemes left k.level left.lexemes) ++ .keyword k.keyword ::
          tokens (operandLexemes right k.level right.lexemes) := by
    rw [k.lexemes_expr]
    simp [Connective.separator]
  have hchain :
      ParsedChain read k (tokens (k.expr left right).lexemes) (k.expr left right).canon := by
    rw [hts, k.canon_expr]
    exact (hleft.chainOperand k).graft (hright.chainOperand k)
  refine ⟨?_, fun k' hk' => ?_⟩
  · rw [k.precedence_expr]
    exact hchain.parsed
  · rw [k.precedence_expr] at hk'
    obtain rfl := Connective.level_injective hk'
    exact hchain

/-- **Every valid expression is read back from its tokens**, up to its canonical form. -/
theorem Expr.readable
    (hread : ∀ (l : Literal) (text : String), l.violation? = none → l.token = .number text →
      read text = some l) (e : Expr) : e.violation? = none → e.Readable read := by
  induction e using Expr.tree_induction with
  | column c =>
    intro _
    refine .of_own .atom ?_ rfl (by decide)
    rw [Expr.lexemes, Expr.canon]
    exact parsed_column c.qualifier c.name
  | literal l =>
    intro h
    rw [Expr.violation?] at h
    refine .of_own .atom ?_ rfl (by decide)
    rw [Expr.lexemes, Expr.canon]
    refine parsed_atom fun expr items rest _ => ?_
    cases ht : l.token with
    | number text => exact (congrArg (Option.map _) (hread l text h ht)).trans rfl
    | str content =>
      cases l with
      | str s => rw [← Token.str.inj ht]; rfl
      | int n | float x => exact absurd ht (by simp [Literal.token])
    | _ => cases l <;> exact absurd ht (by simp [Literal.token])
  | bind v =>
    intro _
    refine .of_own .atom ?_ rfl (by decide)
    rw [Expr.lexemes, Expr.canon]
    exact parsed_atom fun _ _ _ _ => rfl
  | null =>
    intro _
    refine .of_own .atom ?_ rfl (by decide)
    rw [Expr.lexemes, Expr.canon]
    exact parsed_atom fun _ _ _ _ => rfl
  | comparison left op right hleft hright =>
    intro h
    rw [Expr.violation?, Option.or_eq_none_iff] at h
    exact .of_own .predicate (parsed_comparison (hleft h.1) op (hright h.2)) rfl (by decide)
  | and left right hleft hright =>
    intro h
    rw [Expr.violation?, Option.or_eq_none_iff] at h
    exact Connective.and.readable (hleft h.1) (hright h.2)
  | or left right hleft hright =>
    intro h
    rw [Expr.violation?, Option.or_eq_none_iff] at h
    exact Connective.or.readable (hleft h.1) (hright h.2)
  | not e he =>
    intro h
    rw [Expr.violation?] at h
    exact .of_own .not (parsed_not (he h)) rfl (by decide)
  | paren e he =>
    intro h
    rw [Expr.violation?] at h
    refine .of_own .atom ?_ rfl (by decide)
    rw [Expr.lexemes, Expr.canon, tokens_append, tokens_append]
    exact parsed_paren (he h).whole
  | func name distinct args hargs =>
    intro h
    rw [Expr.violation?, FuncCall.violation?] at h
    refine .of_own .atom (parsed_func name distinct fun e asName hmem => ?_) rfl (by decide)
    have he := SelectItem.valid_of_mem h _ hmem
    rw [SelectItem.violation?] at he
    exact hargs e asName hmem he
  | isIn e negated list he hlist =>
    intro h
    rw [Expr.violation?, Option.or_eq_none_iff, Option.or_eq_none_iff] at h
    have hne : list ≠ [] := by
      rintro rfl
      exact absurd h.1.2 (by simp [emptyViolation?])
    exact .of_own .predicate (parsed_isIn (he h.1.1) negated hne fun x hx =>
      hlist x hx (Expr.valid_of_mem h.2 x hx)) rfl (by decide)
  | isNull e negated he =>
    intro h
    rw [Expr.violation?] at h
    exact .of_own .predicate (parsed_isNull (he h) negated) rfl (by decide)

end Expressions

end SqlRender
