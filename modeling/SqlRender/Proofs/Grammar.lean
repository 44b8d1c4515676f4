import SqlRender.Proofs.ReadBack

/-!
# Proofs/Grammar — the grammar of the supported SQL subset

`Derives` is the grammar over tokens: what can stand in a statement, with expressions stratified by
binding strength. A comma list has at least one item everywhere, and only the plain call `f()` has
no arguments at all. So `DISTINCT` never stands directly in front of a closing parenthesis
(`Derives.tidy`); which statements are written in the grammar is in `Proofs/Grammatical`.
-/

namespace SqlRender

open Lexeme

/-! ## The grammar -/

/-- What the grammar has rules for. -/
inductive Phrase where
  | ident
  /-- A possibly qualified name. -/
  | name
  | asName
  /-- An expression that binds at least as tightly as `level`. -/
  | expr (level : Precedence)
  /-- What stands between the parentheses of a call. -/
  | arguments
  | item
  | table
  | order
  | assignment
  | tables
  | filter
  | groupBy
  | having
  | orderBy
  | limit
  | offset
  | statement
  /-- One or more phrases with commas between them. -/
  | list (p : Phrase)
  | parens (p : Phrase)
  | optional (p : Phrase)
  deriving DecidableEq, Repr

/-- The word `NOT` where a predicate is negated. -/
def notTokens (negated : Bool) : List Token := if negated then [.keyword "NOT"] else []

/-- The tokens `ts` are derivable as the phrase `p`. -/
inductive Derives : Phrase → List Token → Prop where
  | single {p ts} : Derives p ts → Derives (.list p) ts
  | comma {p ts us} : Derives p ts → Derives (.list p) us →
      Derives (.list p) (ts ++ .punct ',' :: us)
  | parens {p ts} : Derives p ts → Derives (.parens p) (.punct '(' :: (ts ++ [.punct ')']))
  | absent {p} : Derives (.optional p) []
  | present {p ts} : Derives p ts → Derives (.optional p) ts
  -- names
  | ident (name : String) : Derives .ident [.ident name]
  | bare {ts} : Derives .ident ts → Derives .name ts
  | qualified {ts us} : Derives .ident ts → Derives .ident us →
      Derives .name (ts ++ .punct '.' :: us)
  | asName {ts} : Derives .ident ts → Derives .asName (.keyword "AS" :: ts)
  -- atoms
  | column {ts} : Derives .name ts → Derives (.expr .atom) ts
  | literal {t} : t.isLiteral = true → Derives (.expr .atom) [t]
  | null : Derives (.expr .atom) [.keyword "NULL"]
  | group {ts} : Derives (.parens (.expr .or)) ts → Derives (.expr .atom) ts
  | call {ts us} : Derives .ident ts → Derives (.parens .arguments) us →
      Derives (.expr .atom) (ts ++ us)
  | arguments {ts} : Derives (.optional (.list .item)) ts → Derives .arguments ts
  | distinctArguments {ts} : Derives (.list .item) ts →
      Derives .arguments (.keyword "DISTINCT" :: ts)
  -- predicates
  | comparison {text ts us} : text ∈ operators → Derives (.expr .atom) ts →
      Derives (.expr .atom) us → Derives (.expr .predicate) (ts ++ .op text :: us)
  | like (negated : Bool) {ts us} : Derives (.expr .atom) ts → Derives (.expr .atom) us →
      Derives (.expr .predicate) (ts ++ (notTokens negated ++ .keyword "LIKE" :: us))
  | isIn (negated : Bool) {ts us} : Derives (.expr .atom) ts →
      Derives (.parens (.list (.expr .or))) us →
      Derives (.expr .predicate) (ts ++ (notTokens negated ++ .keyword "IN" :: us))
  | isNull (negated : Bool) {ts} : Derives (.expr .atom) ts →
      Derives (.expr .predicate) (ts ++ .keyword "IS" :: (notTokens negated ++ [.keyword "NULL"]))
  -- looser expressions
  | not {ts} : Derives (.expr .not) ts → Derives (.expr .not) (.keyword "NOT" :: ts)
  | chain (k : Connective) {ts us} : Derives (.expr k.level) ts → Derives (.expr k.next) us →
      Derives (.expr k.level) (ts ++ .keyword k.keyword :: us)
  | tighter {p q ts} : p.rank ≤ q.rank → Derives (.expr q) ts → Derives (.expr p) ts
  -- entries
  | star : Derives .item [.punct '*']
  | qualifiedStar {ts} : Derives .ident ts → Derives .item (ts ++ [.punct '.', .punct '*'])
  | item {ts us} : Derives (.expr .or) ts → Derives (.optional .asName) us →
      Derives .item (ts ++ us)
  | table {ts us} : Derives .name ts → Derives (.optional .asName) us → Derives .table (ts ++ us)
  | ascending {ts} : Derives (.expr .or) ts → Derives .order ts
  | descending {ts} : Derives (.expr .or) ts → Derives .order (ts ++ [.keyword "DESC"])
  | assignment {ts us} : Derives .name ts → Derives (.expr .or) us →
      Derives .assignment (ts ++ .op "=" :: us)
  -- clauses
  | tables {ts} : Derives (.list .table) ts → Derives .tables (.keyword "FROM" :: ts)
  | filter {ts} : Derives (.expr .or) ts → Derives .filter (.keyword "WHERE" :: ts)
  | groupBy {ts} : Derives (.list (.expr .or)) ts →
      Derives .groupBy (.keyword "GROUP" :: .keyword "BY" :: ts)
  | having {ts} : Derives (.expr .or) ts → Derives .having (.keyword "HAVING" :: ts)
  | orderBy {ts} : Derives (.list .order) ts →
      Derives .orderBy (.keyword "ORDER" :: .keyword "BY" :: ts)
  | limit {ts us} : Derives (.expr .or) ts → Derives (.optional .offset) us →
      Derives .limit (.keyword "LIMIT" :: (ts ++ us))
  | offset {ts} : Derives (.expr .or) ts → Derives .offset (.keyword "OFFSET" :: ts)
  -- statements
  | select (distinct : Bool) {items tables filter groupBy having orderBy limit} :
      Derives (.list .item) items → Derives (.optional .tables) tables →
      Derives (.optional .filter) filter → Derives (.optional .groupBy) groupBy →
      Derives (.optional .having) having → Derives (.optional .orderBy) orderBy →
      Derives (.optional .limit) limit →
      Derives .statement (.keyword "SELECT" :: (distinctTokens distinct ++ items ++ tables ++
        filter ++ groupBy ++ having ++ orderBy ++ limit))
  | insert {table columns rows} :
      Derives .name table → Derives (.optional (.parens (.list .ident))) columns →
      Derives (.list (.parens (.list (.expr .or)))) rows →
      Derives .statement (.keyword "INSERT" :: .keyword "INTO" ::
        (table ++ columns ++ .keyword "VALUES" :: rows))
  | update {table assignments filter} :
      Derives .name table → Derives (.list .assignment) assignments →
      Derives (.optional .filter) filter →
      Derives .statement (.keyword "UPDATE" ::
        (table ++ .keyword "SET" :: (assignments ++ filter)))
  | delete {table filter} :
      Derives .name table → Derives (.optional .filter) filter →
      Derives .statement (.keyword "DELETE" :: .keyword "FROM" :: (table ++ filter))

/-- A text that the lexer reads as the tokens of a statement. -/
def Grammatical (text : String) : Prop := ∃ ts, lex text = some ts ∧ Derives .statement ts

variable {p : Phrase} {ts us : List Token}

/-! ## Chains

The rule for `AND` and `OR` nests to the left. An operand that is such a chain itself goes on with
the chain in front of it. -/

/-- A chain grows at its end by one more operand. -/
theorem Derives.chain_append (k : Connective) (hts : Derives (.expr k.level) ts)
    (hus : Derives p us) (hp : p = .expr k.level) :
    Derives (.expr k.level) (ts ++ .keyword k.keyword :: us) := by
  induction hus with
  | chain k' _ hlast ih _ =>
    obtain rfl := Connective.level_injective (Phrase.expr.inj hp)
    have hwhole := (ih rfl).chain k' hlast
    rwa [List.append_assoc, List.cons_append] at hwhole
  | @tighter p q vs hle hvs ih =>
    obtain rfl := Phrase.expr.inj hp
    by_cases hq : q = k.level
    · exact ih (congrArg Phrase.expr hq)
    · exact hts.chain k (.tighter (k.next_rank_le hle hq) hvs)
  | _ => cases k <;> exact absurd hp (by simp [Connective.level])

/-! ## No phrase is empty but the optional ones -/

/-- The phrases that may have no tokens. -/
def Phrase.isOptional : Phrase → Bool
  | .optional _ | .arguments => true
  | .list p => p.isOptional
  | _ => false

/-- Only a phrase that may be missing has no tokens. -/
theorem Derives.ne_nil (h : Derives p ts) : p.isOptional = false → ts ≠ [] := by
  induction h with
  | single _ ih => exact ih
  | bare _ ih | column _ ih | group _ ih | ascending _ ih => exact fun _ => ih rfl
  | tighter _ _ ih => exact fun _ => ih rfl
  | call _ _ ih _ | item _ _ ih _ | table _ _ ih _ =>
    exact fun _ => List.append_ne_nil_of_left_ne_nil (ih rfl) _
  | absent | present | arguments | distinctArguments => exact fun hopt => Bool.noConfusion hopt
  | _ => exact fun _ => by simp

/-! ## `DISTINCT` is followed by an item -/

/-- `u` may stand directly behind `t`. -/
def Token.Precedes (t u : Token) : Prop := t = .keyword "DISTINCT" → u ≠ .punct ')'

/-- No `DISTINCT` stands in front of a closing parenthesis, and none would after more tokens are put
around these. -/
structure Tidy (ts : List Token) : Prop where
  chain : ts.IsChain Token.Precedes
  head : .punct ')' ∉ ts.head?
  last : .keyword "DISTINCT" ∉ ts.getLast?

namespace Tidy

theorem nil : Tidy [] := ⟨.nil, by simp, by simp⟩

/-- A token by itself is tidy unless it is one of the two. -/
theorem token {t : Token} (hclose : t ≠ .punct ')') (hdistinct : t ≠ .keyword "DISTINCT") :
    Tidy [t] := ⟨.singleton t, by simpa using hclose, by simpa using hdistinct⟩

/-- Tidy tokens can follow each other: nothing at their ends can go wrong. -/
theorem append (hts : Tidy ts) (hus : Tidy us) : Tidy (ts ++ us) where
  chain := List.isChain_append.mpr ⟨hts.chain, hus.chain, fun t ht _ _ heq => by
    rw [heq] at ht
    exact absurd ht hts.last⟩
  head := by
    cases ts with
    | nil => exact hus.head
    | cons t ts => exact hts.head
  last := by
    rw [List.getLast?_append]
    intro hlast
    rcases Option.or_eq_some_iff.mp hlast with h | h
    · exact hus.last h
    · exact hts.last h.2

theorem cons {t : Token} (hts : Tidy ts) (hclose : t ≠ .punct ')')
    (hdistinct : t ≠ .keyword "DISTINCT") : Tidy (t :: ts) := (token hclose hdistinct).append hts

/-- Parentheses around tidy tokens. The opening one keeps a bare pair of them tidy. -/
theorem parens (hts : Tidy ts) : Tidy (.punct '(' :: (ts ++ [.punct ')'])) where
  chain := by
    have hopen : Tidy (.punct '(' :: ts) := hts.cons (by decide) (by decide)
    refine List.isChain_append.mpr ⟨hopen.chain, .singleton _, fun t ht _ _ heq => ?_⟩
    rw [heq] at ht
    exact absurd ht hopen.last
  head := by simp
  last := by
    rw [← List.cons_append, List.getLast?_concat]
    simp

/-- A `DISTINCT` in front of something. -/
theorem distinct (hts : Tidy ts) (hne : ts ≠ []) : Tidy (.keyword "DISTINCT" :: ts) where
  chain := List.isChain_cons.mpr ⟨fun u hu _ heq => hts.head (heq ▸ hu), hts.chain⟩
  head := by simp
  last := by
    rw [List.getLast?_cons_of_ne_nil hne]
    exact hts.last

end Tidy

theorem tidy_notTokens (negated : Bool) : Tidy (notTokens negated) := by
  cases negated
  · exact .nil
  · exact .token (by decide) (by decide)

theorem Token.tidy_of_isLiteral {t : Token} (h : t.isLiteral = true) : Tidy [t] := by
  refine .token ?_ ?_
  · rintro rfl
    exact absurd h (by decide)
  · rintro rfl
    exact absurd h (by decide)

/-- **Where the grammar has a `DISTINCT`, no parenthesis is closed behind it.** -/
theorem Derives.tidy (h : Derives p ts) : Tidy ts := by
  induction h with
  | single _ ih | present _ ih | bare _ ih | column _ ih | group _ ih | arguments _ ih
  | ascending _ ih => exact ih
  | tighter _ _ ih => exact ih
  | absent => exact .nil
  | parens _ ih => exact ih.parens
  | ident | null | star => exact .token (by simp) (by simp)
  | literal ht => exact Token.tidy_of_isLiteral ht
  | distinctArguments h ih => exact ih.distinct (h.ne_nil rfl)
  | call _ _ ihs ihu | item _ _ ihs ihu | table _ _ ihs ihu => exact ihs.append ihu
  | comma _ _ ihs ihu | qualified _ _ ihs ihu | assignment _ _ ihs ihu =>
    exact ihs.append (ihu.cons (by simp) (by simp))
  | comparison _ _ _ ihs ihu => exact ihs.append (ihu.cons (by simp) (by simp))
  | chain k _ _ ihs ihu => exact ihs.append (ihu.cons (by simp) (by cases k <;> decide))
  | like negated _ _ ihs ihu | isIn negated _ _ ihs ihu =>
    exact ihs.append ((tidy_notTokens negated).append (ihu.cons (by simp) (by simp)))
  | isNull negated _ ih =>
    exact ih.append (((tidy_notTokens negated).append (.token (by simp) (by simp))).cons (by simp)
      (by simp))
  | qualifiedStar _ ih =>
    exact ih.append (Tidy.cons (.token (by simp) (by simp)) (by simp) (by simp))
  | descending _ ih => exact ih.append (.token (by simp) (by simp))
  | asName _ ih | not _ ih | tables _ ih | filter _ ih | having _ ih | offset _ ih =>
    exact ih.cons (by simp) (by simp)
  | groupBy _ ih | orderBy _ ih =>
    exact (ih.cons (by simp) (by simp)).cons (by simp) (by simp)
  | limit _ _ ihs ihu => exact (ihs.append ihu).cons (by simp) (by simp)
  | select distinct hitems _ _ _ _ _ _ ih ih₁ ih₂ ih₃ ih₄ ih₅ ih₆ =>
    have hfront := (show Tidy (distinctTokens distinct ++ _) by
      cases distinct
      · exact ih
      · exact ih.distinct (hitems.ne_nil rfl))
    exact ((((((hfront.append ih₁).append ih₂).append ih₃).append ih₄).append ih₅).append ih₆).cons
      (by simp) (by simp)
  | insert _ _ _ iht ihc ihr =>
    exact (((iht.append ihc).append (ihr.cons (by simp) (by simp))).cons (by simp) (by simp)).cons
      (by simp) (by simp)
  | update _ _ _ iht iha ihf =>
    exact (iht.append ((iha.append ihf).cons (by simp) (by simp))).cons (by simp) (by simp)
  | delete _ _ iht ihf =>
    exact ((iht.append ihf).cons (by simp) (by simp)).cons (by simp) (by simp)

end SqlRender
