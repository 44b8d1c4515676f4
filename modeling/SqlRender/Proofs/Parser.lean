import Mathlib.Order.Filter.AtTopBot.Basic
import SqlRender.Proofs.Canon

/-!
# Proofs/Parser — a parser for expressions, and how its levels compose

The parser descends over the binding strengths, each step paid for by fuel. `Parsed` says that it
reads a value off tokens with all sufficiently large fuel, whatever follows them that cannot go on
with the value. What is read as a tighter operand is read as a looser one (`ParsedAt.looser`), and
operands with `AND` or `OR` between them are read as one chain nested to the left
(`ParsedChain.parsed`). That every expression is read back is in `Proofs/ReadBack`.
-/

namespace SqlRender

open Lexeme

/-! ## Combinators -/

/-- Reads a value off the front of tokens, and gives what follows. -/
abbrev TokenReader (α : Type) := List Token → Option (α × List Token)

/-- The tokens behind `front`, if they start with it. -/
def after : List Token → List Token → Option (List Token)
  | [], ts => some ts
  | _ :: _, [] => none
  | f :: front, t :: ts => if f = t then after front ts else none

namespace TokenReader

variable {α : Type}

/-- One or more values with a separator between neighbours. -/
def sepBy (sep : Token) (item : TokenReader α) : Nat → TokenReader (α × List α)
  | 0, _ => none
  | n + 1, ts =>
    match item ts with
    | none => none
    | some (a, ts) =>
      match after [sep] ts with
      | none => some ((a, []), ts)
      | some ts => (sepBy sep item n ts).map fun r => ((a, r.1.1 :: r.1.2), r.2)

/-- One or more values with commas between them. -/
def commaSep (item : TokenReader α) (n : Nat) : TokenReader (List α) := fun ts =>
  (sepBy (.punct ',') item n ts).map fun r => (r.1.1 :: r.1.2, r.2)

/-- A value and a closing parenthesis. -/
def closed (p : TokenReader α) : TokenReader α := fun ts =>
  (p ts).bind fun r => (after [.punct ')'] r.2).map fun ts => (r.1, ts)

/-- A value behind `front`, if the tokens start with it. -/
def optionally (front : List Token) (p : TokenReader α) : TokenReader (Option α) := fun ts =>
  match after front ts with
  | none => some (none, ts)
  | some ts => (p ts).map fun r => (some r.1, r.2)

/-- A value, possibly behind `DISTINCT`. -/
def maybeDistinct (p : TokenReader α) : TokenReader (Bool × α) := fun ts =>
  match p ts with
  | some (a, ts) => some ((false, a), ts)
  | none => (after [.keyword "DISTINCT"] ts).bind fun ts => (p ts).map fun r => ((true, r.1), r.2)

/-- A name. -/
def ident : TokenReader Ident
  | .ident name :: ts => some (⟨name⟩, ts)
  | _ => none

/-- An alias, if there is one. -/
def asName : TokenReader (Option Ident) := optionally [.keyword "AS"] ident

/-! ## Expressions -/

/-- All columns, or all of one table. -/
def star : TokenReader SelectItem
  | .punct '*' :: ts => some (.star, ts)
  | .ident table :: .punct '.' :: .punct '*' :: ts => some (.qualifiedStar ⟨table⟩, ts)
  | _ => none

/-- An entry of a select list. -/
def item (expr : TokenReader Expr) : TokenReader SelectItem := fun ts =>
  match expr ts with
  | some (e, ts) => (asName ts).map fun r => (.expr e r.1, r.2)
  | none => star ts

/-- The arguments of a call, possibly none. -/
def arguments (items : TokenReader (List SelectItem)) : TokenReader (List SelectItem) := fun ts =>
  match items ts with
  | some r => some r
  | none => some ([], ts)

/-- A column or a call that starts with `name`. -/
def named (items : TokenReader (List SelectItem)) (name : Ident) : TokenReader Expr
  | .punct '(' :: ts =>
    (maybeDistinct (closed (arguments items)) ts).map fun r =>
      (.func ⟨name, r.1.1, r.1.2⟩, r.2)
  | .punct '.' :: ts => (ident ts).map fun r => (.column ⟨some name, r.1⟩, r.2)
  | ts => some (.column ⟨none, name⟩, ts)

/-- An expression that binds as tightly as possible. -/
def atom (read : String → Option Literal) (expr : TokenReader Expr)
    (items : TokenReader (List SelectItem)) : TokenReader Expr
  | .keyword w :: ts => if w = "NULL" then some (.null, ts) else none
  | .str content :: ts => some (.literal (.str content), ts)
  | .number text :: ts => (read text).map fun l => (.literal l, ts)
  | .bind name :: ts => some (.bind ⟨name⟩, ts)
  | .ident name :: ts => named items ⟨name⟩ ts
  | .punct '(' :: ts => (closed expr ts).map fun r => (.paren r.1, r.2)
  | _ => none

/-- The comparison that an operator token stands for. -/
def operator? : String → Option Comparison
  | "=" => some .eq
  | "!=" => some .notEq
  | "<" => some .lt
  | "<=" => some .ltEq
  | ">" => some .gt
  | ">=" => some .gtEq
  | _ => none

/-- What may follow the first operand `e` of a predicate. -/
def predicate (atom : TokenReader Expr) (exprs : TokenReader (List Expr)) (e : Expr) :
    TokenReader Expr
  | .op text :: ts =>
    (operator? text).bind fun op => (atom ts).map fun r => (.comparison e op r.1, r.2)
  | .keyword "LIKE" :: ts => (atom ts).map fun r => (.comparison e .like r.1, r.2)
  | .keyword "NOT" :: .keyword "LIKE" :: ts =>
    (atom ts).map fun r => (.comparison e .notLike r.1, r.2)
  | .keyword "IN" :: .punct '(' :: ts => (closed exprs ts).map fun r => (.isIn e false r.1, r.2)
  | .keyword "NOT" :: .keyword "IN" :: .punct '(' :: ts =>
    (closed exprs ts).map fun r => (.isIn e true r.1, r.2)
  | .keyword "IS" :: .keyword "NULL" :: ts => some (.isNull e false, ts)
  | .keyword "IS" :: .keyword "NOT" :: .keyword "NULL" :: ts => some (.isNull e true, ts)
  | ts => some (e, ts)

end TokenReader

/-- The binding strength of the operands of a chain that are no chains themselves. -/
def Connective.next : Connective → Precedence
  | .and => .not
  | .or => .and

open TokenReader in
/-- An expression that binds at least as tightly as the given strength. -/
def parseExpr (read : String → Option Literal) : Nat → Precedence → TokenReader Expr
  | 0, _, _ => none
  | n + 1, .or, ts =>
    (sepBy (.keyword "OR") (parseExpr read n .and) n ts).map fun r => (r.1.2.foldl .or r.1.1, r.2)
  | n + 1, .and, ts =>
    (sepBy (.keyword "AND") (parseExpr read n .not) n ts).map fun r => (r.1.2.foldl .and r.1.1, r.2)
  | n + 1, .not, ts =>
    match parseExpr read n .predicate ts with
    | some r => some r
    | none =>
      (after [.keyword "NOT"] ts).bind fun ts =>
        (parseExpr read n .not ts).map fun r => (.not r.1, r.2)
  | n + 1, .predicate, ts =>
    (parseExpr read n .atom ts).bind fun r =>
      predicate (parseExpr read n .atom) (commaSep (parseExpr read n .or) n) r.1 r.2
  | n + 1, .atom, ts =>
    atom read (parseExpr read n .or) (commaSep (item (parseExpr read n .or)) n) ts

/-! ## Reading back -/

section Parsed

variable {α β : Type}

/-- With enough fuel, `p` reads `a` off the tokens `ts` in front of any rest in `follow`. -/
def Parsed (p : Nat → TokenReader α) (follow : List Token → Prop) (ts : List Token) (a : α) :
    Prop :=
  ∀ rest, follow rest → ∀ᶠ n in Filter.atTop, p n (ts ++ rest) = some (a, rest)

/-- What holds for all large fuel holds with one more. -/
theorem eventually_succ {P : Nat → Prop} (h : ∀ᶠ n in Filter.atTop, P n) :
    ∀ᶠ n in Filter.atTop, ∃ m, n = m + 1 ∧ P m := by
  obtain ⟨N, hN⟩ := Filter.eventually_atTop.mp h
  refine Filter.eventually_atTop.mpr ⟨N + 1, fun n hn => ⟨n - 1, by omega, hN _ (by omega)⟩⟩

@[simp] theorem after_append (front ts : List Token) : after front (front ++ ts) = some ts := by
  induction front with
  | nil => rfl
  | cons f front ih =>
    rw [List.cons_append, after, if_pos rfl]
    exact ih

theorem after_eq_none {f : Token} {front ts : List Token} (h : f ∉ ts.head?) :
    after (f :: front) ts = none := by
  cases ts with
  | nil => rfl
  | cons t ts => exact if_neg fun hft => h (by simp [hft])

/-- A value that is read before more is read before less. -/
theorem Parsed.mono {p : Nat → TokenReader α} {follow follow' : List Token → Prop} {ts : List Token}
    {a : α} (h : Parsed p follow ts a) (hfollow : ∀ rest, follow' rest → follow rest) :
    Parsed p follow' ts a := fun rest hrest => h rest (hfollow rest hrest)

/-- One list of tokens is read as one value. -/
theorem Parsed.unique {p : Nat → TokenReader α} {follow : List Token → Prop} {ts : List Token}
    {a b : α} (ha : Parsed p follow ts a) (hb : Parsed p follow ts b) {rest : List Token}
    (hrest : follow rest) : a = b := by
  obtain ⟨n, hn, hn'⟩ := ((ha rest hrest).and (hb rest hrest)).exists
  rw [hn] at hn'
  exact (Prod.ext_iff.mp (Option.some.inj hn')).1

/-- **Values with separators between them are read one by one.** -/
theorem parsed_sepBy {item : Nat → TokenReader α} {follow : List Token → Prop} {sep : Token}
    (hsep : ∀ ts, follow (sep :: ts)) : ∀ {zs : List (List Token × α)} {ts : List Token} {a : α},
    Parsed item follow ts a → (∀ z ∈ zs, Parsed item follow z.1 z.2) →
    ∀ rest, follow rest → sep ∉ rest.head? → ∀ᶠ n in Filter.atTop, ∀ m ≥ zs.length + 1,
      TokenReader.sepBy sep (item n) m (ts ++ (zs.flatMap (fun z => sep :: z.1) ++ rest))
        = some ((a, zs.map Prod.snd), rest)
  | [], ts, a, ha, _, rest, hrest, hstop => by
      filter_upwards [ha rest hrest] with n hn m hm
      obtain ⟨m, rfl⟩ := Nat.exists_eq_add_of_le' hm
      rw [List.flatMap_nil, List.nil_append, List.length_nil, Nat.zero_add, TokenReader.sepBy, hn]
      dsimp only
      rw [after_eq_none hstop]
      rfl
  | z :: zs, ts, a, ha, hzs, rest, hrest, hstop => by
      have ih := parsed_sepBy hsep (hzs z (by simp)) (fun y hy => hzs y (List.mem_cons_of_mem z hy))
        rest hrest hstop
      have hts := ha (sep :: (z.1 ++ (zs.flatMap (fun z => sep :: z.1) ++ rest))) (hsep _)
      filter_upwards [hts, ih] with n hn hrec m hm
      obtain ⟨m, rfl⟩ := Nat.exists_eq_add_of_le' hm
      have hflat : (z :: zs).flatMap (fun z => sep :: z.1) ++ rest
          = sep :: (z.1 ++ (zs.flatMap (fun z => sep :: z.1) ++ rest)) := by
        simp
      have hfuel : m + ((z :: zs).length + 1) = m + (zs.length + 1) + 1 := rfl
      rw [hflat, hfuel, TokenReader.sepBy, hn]
      dsimp only
      rw [after, if_pos rfl, after]
      dsimp only
      rw [hrec _ (Nat.le_add_left _ _)]
      rfl

theorem tokens_commaList (ls : List Lexeme) : ∀ lists : List (List Lexeme),
    tokens (commaList (ls :: lists))
      = tokens ls ++ lists.flatMap fun ms => .punct ',' :: tokens ms
  | [] => by simp [commaList]
  | ms :: lists => by
      have ih := tokens_commaList ms lists
      simp [commaList, ih]

/-- The rest neither goes on with an item nor with the list. -/
def EndsList (follow : List Token → Prop) (rest : List Token) : Prop :=
  follow rest ∧ .punct ',' ∉ rest.head?

/-- A comma list of trees that are read one by one. -/
theorem parsed_commaSep {item : Nat → TokenReader α} {follow : List Token → Prop}
    (hcomma : ∀ ts, follow (.punct ',' :: ts)) {lexemes : β → List Lexeme} {value : β → α}
    {bs : List β} (hne : bs ≠ [])
    (h : ∀ b ∈ bs, Parsed item follow (tokens (lexemes b)) (value b)) :
    Parsed (fun n => TokenReader.commaSep (item n) n) (EndsList follow)
      (tokens (commaList (bs.map lexemes))) (bs.map value) := by
  obtain ⟨b, bs, rfl⟩ := List.exists_cons_of_ne_nil hne
  intro rest hrest
  have hitems : ∀ z ∈ bs.map fun c => (tokens (lexemes c), value c),
      Parsed item follow z.1 z.2 := by
    intro z hz
    obtain ⟨c, hc, rfl⟩ := List.mem_map.mp hz
    exact h c (List.mem_cons_of_mem b hc)
  have hread := parsed_sepBy hcomma (h b (by simp)) hitems rest hrest.1 hrest.2
  filter_upwards [hread, Filter.eventually_ge_atTop (bs.length + 1)] with n hn hlength
  have hn' := hn n (by rwa [List.length_map])
  rw [List.flatMap_map, List.map_map] at hn'
  rw [TokenReader.commaSep, List.map_cons, tokens_commaList, List.flatMap_map, List.append_assoc,
    hn']
  rfl

/-- A closing parenthesis ends any value. -/
theorem parsed_closed {p : Nat → TokenReader α} {follow : List Token → Prop}
    (hclose : ∀ ts, follow (.punct ')' :: ts)) {ts : List Token} {a : α}
    (h : Parsed p follow ts a) :
    Parsed (fun n => TokenReader.closed (p n)) (fun _ => True) (ts ++ [Token.punct ')']) a := by
  intro rest _
  filter_upwards [h (.punct ')' :: rest) (hclose rest)] with n hn
  rw [List.append_assoc, List.singleton_append, TokenReader.closed, hn]
  rfl

end Parsed

/-! ## What may follow an expression -/

namespace Token

/-- The tokens that may follow a whole expression. -/
def endsExpr : Token → Bool
  | .punct c => c == ',' || c == ')'
  | .keyword w =>
    ["AS", "DESC", "FROM", "WHERE", "GROUP", "HAVING", "ORDER", "LIMIT", "OFFSET"].contains w
  | _ => false

/-- The tokens that may follow an operand of the given binding strength. -/
def ends : Precedence → Token → Bool
  | .or, t => t.endsExpr
  | .and, t => t.endsExpr || t == .keyword "OR"
  | .not, t | .predicate, t => t.endsExpr || t == .keyword "OR" || t == .keyword "AND"
  | .atom, t => t != .punct '.' && t != .punct '('

theorem ends_atom_of_ends_not {t : Token} (h : t.ends .not = true) : t.ends .atom = true := by
  simp only [ends, Bool.or_eq_true, beq_iff_eq] at h
  rcases h with (h | rfl) | rfl
  · cases t with
    | punct c =>
      have hc : c = ',' ∨ c = ')' := by simpa [endsExpr] using h
      rcases hc with rfl | rfl <;> decide
    | _ => rfl
  · rfl
  · rfl

/-- What may follow a looser operand may follow a tighter one. -/
theorem ends_mono {p q : Precedence} (h : p.rank ≤ q.rank) {t : Token} (ht : t.ends p = true) :
    t.ends q = true := by
  have hnot : p.rank ≤ 3 → t.ends .not = true := by
    intro hp
    cases p with
    | atom => exact absurd hp (by decide)
    | _ => simp_all [ends]
  cases q with
  | atom =>
    cases p with
    | atom => exact ht
    | _ => exact ends_atom_of_ends_not (hnot (by decide))
  | predicate => exact hnot h
  | not => exact hnot (Nat.le_succ_of_le h)
  | and =>
    cases p with
    | or => simp_all [ends]
    | and => exact ht
    | _ => exact absurd h (by decide)
  | or =>
    cases p with
    | or => exact ht
    | _ => exact absurd h (by decide)

end Token

/-- The rest cannot go on with an operand of the given binding strength. -/
def Ends (p : Precedence) (rest : List Token) : Prop := ∀ t ∈ rest.head?, t.ends p = true

/-- What ends a loose expression ends a tighter one. -/
theorem Ends.mono {p q : Precedence} (h : p.rank ≤ q.rank) {rest : List Token}
    (hrest : Ends p rest) : Ends q rest := fun t ht => Token.ends_mono h (hrest t ht)

theorem ends_cons {p : Precedence} {t : Token} (h : t.ends p = true) (ts : List Token) :
    Ends p (t :: ts) := by
  intro u hu
  rwa [← Option.some.inj hu]

/-! ## From one binding strength to the next -/

section Levels

variable {read : String → Option Literal} {ts : List Token} {e : Expr}

/-- The tokens are read as `e` where an operand of the given binding strength stands. -/
abbrev ParsedAt (read : String → Option Literal) (p : Precedence) (ts : List Token) (e : Expr) :
    Prop :=
  Parsed (fun n => parseExpr read n p) (Ends p) ts e

/-- Without an operator behind it an operand stands for itself. -/
theorem predicate_of_ends (atom : TokenReader Expr) (exprs : TokenReader (List Expr)) (e : Expr)
    {rest : List Token} (h : Ends .predicate rest) :
    TokenReader.predicate atom exprs e rest = some (e, rest) := by
  cases rest with
  | nil => rfl
  | cons t rest =>
    have ht := h t rfl
    rw [TokenReader.predicate]
    -- no token that goes on with a predicate may follow one
    all_goals
      intros
      rename_i heq
      obtain ⟨rfl, _⟩ := List.cons.inj heq
      exact absurd ht (by simp [Token.ends, Token.endsExpr])

theorem ParsedAt.predicate (h : ParsedAt read .atom ts e) : ParsedAt read .predicate ts e := by
  intro rest hrest
  filter_upwards [eventually_succ (h rest (hrest.mono (by decide)))] with n hsucc
  obtain ⟨m, hn, hm⟩ := hsucc
  rw [hn, parseExpr, hm]
  exact predicate_of_ends _ _ e hrest

theorem ParsedAt.not (h : ParsedAt read .predicate ts e) : ParsedAt read .not ts e := by
  intro rest hrest
  filter_upwards [eventually_succ (h rest hrest)] with n hsucc
  obtain ⟨m, hn, hm⟩ := hsucc
  rw [hn, parseExpr, hm]

/-- Both connectives are read alike: operands of the next level, hung to the left. -/
theorem Connective.parseExpr_succ (k : Connective) (n : Nat) (ts : List Token) :
    parseExpr read (n + 1) k.level ts
      = (TokenReader.sepBy (.keyword k.keyword) (parseExpr read n k.next) n ts).map
          fun r => (r.1.2.foldl k.expr r.1.1, r.2) := by
  cases k <;> rfl

/-- The word of a connective ends its operands. -/
theorem Connective.ends_keyword (k : Connective) (ts : List Token) :
    Ends k.next (.keyword k.keyword :: ts) := by
  cases k <;> exact ends_cons (by decide) ts

/-- What ends a chain does not continue it. -/
theorem Connective.not_mem_of_ends (k : Connective) {rest : List Token} (h : Ends k.level rest) :
    .keyword k.keyword ∉ rest.head? := by
  intro hmem
  have hends := h _ hmem
  cases k <;> exact absurd hends (by decide)

/-- Tokens that are read as the operands of a chain, with the operator between them. -/
structure ParsedChain (read : String → Option Literal) (k : Connective) (ts : List Token)
    (e : Expr) : Prop where
  ex : ∃ (us : List Token) (x : Expr) (zs : List (List Token × Expr)),
    ts = us ++ zs.flatMap (fun z => .keyword k.keyword :: z.1) ∧
    e = (zs.map Prod.snd).foldl k.expr x ∧ k.operands e = x :: zs.map Prod.snd ∧
    ParsedAt read k.next us x ∧ ∀ z ∈ zs, ParsedAt read k.next z.1 z.2

/-- **A chain is read with its operands nested to the left.** -/
theorem ParsedChain.parsed {k : Connective} (h : ParsedChain read k ts e) :
    ParsedAt read k.level ts e := by
  obtain ⟨us, x, zs, rfl, rfl, _, hx, hzs⟩ := h.ex
  intro rest hrest
  have hnext : Ends k.next rest := hrest.mono (by cases k <;> decide)
  have hread := parsed_sepBy k.ends_keyword hx hzs rest hnext (k.not_mem_of_ends hrest)
  filter_upwards [eventually_succ (hread.and (Filter.eventually_ge_atTop (zs.length + 1)))]
    with n hsucc
  obtain ⟨m, hn, hm, hlength⟩ := hsucc
  rw [hn, k.parseExpr_succ, List.append_assoc, hm m hlength]
  rfl

/-- An operand is a chain of its own. -/
theorem ParsedChain.single {k : Connective} (h : ParsedAt read k.next ts e)
    (he : e.precedence ≠ k.level) : ParsedChain read k ts e :=
  ⟨ts, e, [], by simp, rfl, Connective.operands_of_ne he, h, by simp⟩

/-- Two chains with the operator between them are one chain. -/
theorem ParsedChain.graft {k : Connective} {us : List Token} {l : Expr}
    (hl : ParsedChain read k ts l) (hr : ParsedChain read k us e) :
    ParsedChain read k (ts ++ .keyword k.keyword :: us) (k.graft l e) := by
  obtain ⟨ts', x, zs, rfl, hlx, hlops, hx, hzs⟩ := hl.ex
  obtain ⟨us', y, ws, rfl, _, hrops, hy, hws⟩ := hr.ex
  refine ⟨ts', x, zs ++ (us', y) :: ws, ?_, ?_, ?_, hx, ?_⟩
  · simp
  · rw [Connective.graft, hrops, List.map_append, List.foldl_append, ← hlx]
    rfl
  · rw [k.operands_graft, hlops, hrops, List.map_append]
    rfl
  · intro z hz
    rcases List.mem_append.mp hz with hz | hz
    · exact hzs z hz
    · rcases List.mem_cons.mp hz with rfl | hz
      · exact hy
      · exact hws z hz

/-- **What is read as a tighter operand is read as a looser one.** -/
theorem ParsedAt.looser {p q : Precedence} (h : ParsedAt read q ts e)
    (hq : q.rank ≤ e.precedence.rank) (hp : p.rank ≤ q.rank) : ParsedAt read p ts e := by
  have hpredicate : 3 ≤ q.rank → ParsedAt read .predicate ts e := by
    intro h3
    cases q with
    | atom => exact h.predicate
    | predicate => exact h
    | _ => exact absurd h3 (by decide)
  have hnot : 2 ≤ q.rank → ParsedAt read .not ts e := by
    intro h2
    cases q with
    | not => exact h
    | atom | predicate => exact (hpredicate (by decide)).not
    | _ => exact absurd h2 (by decide)
  have hand : 1 ≤ q.rank → ParsedAt read .and ts e := by
    intro h1
    by_cases h2 : 2 ≤ q.rank
    · have hne : e.precedence ≠ Connective.and.level := by
        intro heq
        rw [heq] at hq
        exact absurd (Nat.le_trans h2 hq) (by decide)
      exact (ParsedChain.single (k := .and) (hnot h2) hne).parsed
    · cases q with
      | and => exact h
      | or => exact absurd h1 (by decide)
      | _ => exact absurd h2 (by decide)
  cases p with
  | atom =>
    cases q with
    | atom => exact h
    | _ => exact absurd hp (by decide)
  | predicate => exact hpredicate hp
  | not => exact hnot hp
  | and => exact hand hp
  | or =>
    by_cases h1 : 1 ≤ q.rank
    · have hne : e.precedence ≠ Connective.or.level := by
        intro heq
        rw [heq] at hq
        exact absurd (Nat.le_trans h1 hq) (by decide)
      exact (ParsedChain.single (k := .or) (hand h1) hne).parsed
    · cases q with
      | or => exact h
      | _ => exact absurd h1 (by decide)

end Levels

end SqlRender
