import SqlRender.Proofs.Faithful

/-!
# Proofs/Renesting — what the text of an expression without parentheses leaves open

An operand is put in parentheses if it binds looser than its operator, on either side, so an operand
that binds as tightly is not: `a AND (b AND c)` and `(a AND b) AND c` have one text. Nothing else is
lost. A text has the canonical tree of its expression; without its parentheses (`bare`) that is the
expression with its chains nested to the left, if the expression had no parentheses of its own
(`Expr.unwrapped`). So two such expressions have one text exactly if they differ in how chains of
`AND` and of `OR` are nested (`text_eq_iff_leftNested_eq`).
-/

namespace SqlRender

open Lexeme

/-! ## Parentheses and nesting -/

mutual

/-- Whether a parenthesis is a node of the expression, at any depth. -/
def Expr.hasParen : Expr → Bool
  | .column _ | .literal _ | .bind _ | .null => false
  | .comparison left _ right | .and left right | .or left right => left.hasParen || right.hasParen
  | .not e | .isNull e _ => e.hasParen
  | .paren _ => true
  | .func ⟨_, _, args⟩ => SelectItem.listHasParen args
  | .isIn e _ list => e.hasParen || Expr.listHasParen list

/-- Whether some expression of a list has a parenthesis. -/
def Expr.listHasParen : List Expr → Bool
  | [] => false
  | e :: rest => e.hasParen || Expr.listHasParen rest

/-- Whether the expression of an entry has a parenthesis. -/
def SelectItem.hasParen : SelectItem → Bool
  | .star | .qualifiedStar _ => false
  | .expr e _ => e.hasParen

/-- Whether some entry of a select list has a parenthesis. -/
def SelectItem.listHasParen : List SelectItem → Bool
  | [] => false
  | i :: rest => i.hasParen || SelectItem.listHasParen rest

end

mutual

/-- The expression with every chain of `AND`, and of `OR`, nested to the left, and nothing else
changed. -/
def Expr.leftNested : Expr → Expr
  | .column c => .column c
  | .literal l => .literal l
  | .bind v => .bind v
  | .null => .null
  | .comparison left op right => .comparison left.leftNested op right.leftNested
  | .and left right => Connective.and.graft left.leftNested right.leftNested
  | .or left right => Connective.or.graft left.leftNested right.leftNested
  | .not e => .not e.leftNested
  | .paren e => .paren e.leftNested
  | .func ⟨name, distinct, args⟩ => .func ⟨name, distinct, SelectItem.listLeftNested args⟩
  | .isIn e negated list => .isIn e.leftNested negated (Expr.listLeftNested list)
  | .isNull e negated => .isNull e.leftNested negated

/-- The expressions of a list, left-nested. -/
def Expr.listLeftNested : List Expr → List Expr
  | [] => []
  | e :: rest => e.leftNested :: Expr.listLeftNested rest

/-- The entry with its expression left-nested. -/
def SelectItem.leftNested : SelectItem → SelectItem
  | .star => .star
  | .qualifiedStar table => .qualifiedStar table
  | .expr e asName => .expr e.leftNested asName

/-- The entries of a select list, left-nested. -/
def SelectItem.listLeftNested : List SelectItem → List SelectItem
  | [] => []
  | i :: rest => i.leftNested :: SelectItem.listLeftNested rest

end

mutual

/-- The expression without its parentheses. -/
def Expr.bare : Expr → Expr
  | .column c => .column c
  | .literal l => .literal l
  | .bind v => .bind v
  | .null => .null
  | .comparison left op right => .comparison left.bare op right.bare
  | .and left right => .and left.bare right.bare
  | .or left right => .or left.bare right.bare
  | .not e => .not e.bare
  | .paren e => e.bare
  | .func ⟨name, distinct, args⟩ => .func ⟨name, distinct, SelectItem.listBare args⟩
  | .isIn e negated list => .isIn e.bare negated (Expr.listBare list)
  | .isNull e negated => .isNull e.bare negated

/-- The expressions of a list without their parentheses. -/
def Expr.listBare : List Expr → List Expr
  | [] => []
  | e :: rest => e.bare :: Expr.listBare rest

/-- The entry without its parentheses. -/
def SelectItem.bare : SelectItem → SelectItem
  | .star => .star
  | .qualifiedStar table => .qualifiedStar table
  | .expr e asName => .expr e.bare asName

/-- The entries of a select list without their parentheses. -/
def SelectItem.listBare : List SelectItem → List SelectItem
  | [] => []
  | i :: rest => i.bare :: SelectItem.listBare rest

end

theorem Expr.listHasParen_eq_any (es : List Expr) :
    Expr.listHasParen es = es.any Expr.hasParen := by
  induction es with
  | nil => rw [Expr.listHasParen]; rfl
  | cons e rest ih => rw [Expr.listHasParen, ih]; rfl

theorem SelectItem.listHasParen_eq_any (is : List SelectItem) :
    SelectItem.listHasParen is = is.any SelectItem.hasParen := by
  induction is with
  | nil => rw [SelectItem.listHasParen]; rfl
  | cons i rest ih => rw [SelectItem.listHasParen, ih]; rfl

theorem Expr.listLeftNested_eq_map (es : List Expr) :
    Expr.listLeftNested es = es.map Expr.leftNested := by
  induction es with
  | nil => rw [Expr.listLeftNested]; rfl
  | cons e rest ih => rw [Expr.listLeftNested, ih]; rfl

theorem SelectItem.listLeftNested_eq_map (is : List SelectItem) :
    SelectItem.listLeftNested is = is.map SelectItem.leftNested := by
  induction is with
  | nil => rw [SelectItem.listLeftNested]; rfl
  | cons i rest ih => rw [SelectItem.listLeftNested, ih]; rfl

theorem Expr.listBare_eq_map (es : List Expr) : Expr.listBare es = es.map Expr.bare := by
  induction es with
  | nil => rw [Expr.listBare]; rfl
  | cons e rest ih => rw [Expr.listBare, ih]; rfl

theorem SelectItem.listBare_eq_map (is : List SelectItem) :
    SelectItem.listBare is = is.map SelectItem.bare := by
  induction is with
  | nil => rw [SelectItem.listBare]; rfl
  | cons i rest ih => rw [SelectItem.listBare, ih]; rfl

/-- Nesting to the left does not change how an expression binds. -/
theorem Expr.precedence_leftNested (e : Expr) : e.leftNested.precedence = e.precedence := by
  cases e with
  | and left right =>
    rw [Expr.leftNested]
    exact Connective.and.precedence_graft _ _
  | or left right =>
    rw [Expr.leftNested]
    exact Connective.or.precedence_graft _ _
  | func f =>
    obtain ⟨name, distinct, args⟩ := f
    rw [Expr.leftNested]
    rfl
  | _ => simp only [Expr.leftNested, Expr.precedence]

/-- Both connectives are renested alike. -/
theorem Connective.leftNested_expr (k : Connective) (left right : Expr) :
    (k.expr left right).leftNested = k.graft left.leftNested right.leftNested := by
  cases k <;> rw [Connective.expr, Expr.leftNested]

/-- Both connectives lose their parentheses alike. -/
theorem Connective.bare_expr (k : Connective) (left right : Expr) :
    (k.expr left right).bare = k.expr left.bare right.bare := by
  cases k <;> rw [Connective.expr, Expr.bare]

/-! ## Nesting keeps the text -/

/-- An operand that binds as tightly as it has to needs no parentheses. -/
theorem Expr.operand_of_precedence {e : Expr} {least : Precedence} (h : e.precedence = least) :
    e.operand least = e := by
  rw [Expr.operand, h, if_neg (Nat.lt_irrefl _)]

namespace Connective

variable (k : Connective)

/-- **A chain is written as its operands, however it is nested.** -/
theorem lexemes_operand_eq_joined (e : Expr) :
    (e.operand k.level).lexemes = k.joined ((k.operands e).map (Expr.operand k.level)) := by
  induction e using chain_induction (k := k) with
  | operand e h =>
    rw [operands_of_ne h, List.map_singleton, joined, List.flatMap_nil, List.append_nil]
  | chain left right hleft hright =>
    have hne : ∀ e, (k.operands e).map (Expr.operand k.level) ≠ [] := fun e =>
      List.map_eq_nil_iff.not.mpr (k.operands_ne_nil e)
    rw [Expr.operand_of_precedence (k.precedence_expr left right), k.lexemes_expr,
      ← left.lexemes_operand, ← right.lexemes_operand, hleft, hright, operands_expr,
      List.map_append, k.joined_append (hne left) (hne right)]

/-- Grafting a chain keeps its text even where operands need parentheses. -/
theorem lexemes_graft_eq (left right : Expr) :
    (k.graft left right).lexemes = (k.expr left right).lexemes := by
  rw [← Expr.operand_of_precedence (k.precedence_graft left right),
    ← Expr.operand_of_precedence (k.precedence_expr left right), lexemes_operand_eq_joined,
    lexemes_operand_eq_joined, operands_graft, operands_expr]

end Connective

/-- Nesting the operand to the left does not change how it is written. -/
theorem operandLexemes_leftNested {e : Expr} (h : e.leftNested.lexemes = e.lexemes)
    (least : Precedence) :
    operandLexemes e.leftNested least e.leftNested.lexemes = operandLexemes e least e.lexemes := by
  rw [operandLexemes, operandLexemes, e.precedence_leftNested, h]

/-- A renested chain has the text of the chain if its operands have theirs. -/
theorem Connective.lexemes_leftNested_expr (k : Connective) {left right : Expr}
    (hleft : left.leftNested.lexemes = left.lexemes)
    (hright : right.leftNested.lexemes = right.lexemes) :
    (k.expr left right).leftNested.lexemes = (k.expr left right).lexemes := by
  rw [k.leftNested_expr, k.lexemes_graft_eq, k.lexemes_expr, k.lexemes_expr,
    operandLexemes_leftNested hleft, operandLexemes_leftNested hright]

/-- What an entry adds to its expression, for the induction over expressions. -/
theorem SelectItem.lexemes_leftNested_of {i : SelectItem}
    (h : ∀ e asName, i = .expr e asName → e.leftNested.lexemes = e.lexemes) :
    i.leftNested.lexemes = i.lexemes := by
  cases i with
  | star => rw [SelectItem.leftNested]
  | qualifiedStar table => rw [SelectItem.leftNested]
  | expr e asName =>
    rw [SelectItem.leftNested, SelectItem.lexemes, SelectItem.lexemes, h e asName rfl]

/-- **Nesting to the left keeps the text.** -/
theorem Expr.lexemes_leftNested (e : Expr) : e.leftNested.lexemes = e.lexemes := by
  induction e using Expr.tree_induction with
  | column c => rw [Expr.leftNested]
  | literal l => rw [Expr.leftNested]
  | bind v => rw [Expr.leftNested]
  | null => rw [Expr.leftNested]
  | comparison left op right hleft hright =>
    rw [Expr.leftNested, Expr.lexemes, Expr.lexemes, operandLexemes_leftNested hleft,
      operandLexemes_leftNested hright]
  | and left right hleft hright => exact Connective.and.lexemes_leftNested_expr hleft hright
  | or left right hleft hright => exact Connective.or.lexemes_leftNested_expr hleft hright
  | not e he => rw [Expr.leftNested, Expr.lexemes, Expr.lexemes, operandLexemes_leftNested he]
  | paren e he => rw [Expr.leftNested, Expr.lexemes, Expr.lexemes, he]
  | func name distinct args hargs =>
    have hitems := map_lexemes_canon fun i hi => SelectItem.lexemes_leftNested_of (i := i)
      fun e asName hie => hargs e asName (hie ▸ hi)
    rw [Expr.leftNested, Expr.lexemes, Expr.lexemes, FuncCall.lexemes, FuncCall.lexemes,
      SelectItem.lexemeLists_eq_map, SelectItem.lexemeLists_eq_map,
      SelectItem.listLeftNested_eq_map, hitems]
  | isIn e negated list he hlist =>
    rw [Expr.leftNested, Expr.lexemes, Expr.lexemes, Expr.lexemeLists_eq_map,
      Expr.lexemeLists_eq_map, Expr.listLeftNested_eq_map, map_lexemes_canon hlist,
      operandLexemes_leftNested he]
  | isNull e negated he =>
    rw [Expr.leftNested, Expr.lexemes, Expr.lexemes, operandLexemes_leftNested he]

/-! ## Canonical trees without their parentheses -/

/-- The parentheses of an operand go with the rest. -/
theorem Expr.bare_operand (e : Expr) (least : Precedence) : (e.operand least).bare = e.bare := by
  rw [Expr.operand]
  split
  · rw [Expr.bare]
  · rfl

theorem Connective.bare_foldl (k : Connective) (xs : List Expr) (e : Expr) :
    (xs.foldl k.expr e).bare = (xs.map Expr.bare).foldl k.expr e.bare := by
  induction xs generalizing e with
  | nil => rfl
  | cons x xs ih => rw [List.foldl_cons, ih, k.bare_expr, List.map_cons, List.foldl_cons]

/-- Without its parentheses, the canonical tree of the expression is the expression with its chains
nested to the left.

A chain takes its right side apart into operands, so these have to agree as well. That does not
follow from the trees: a chain in parentheses is one operand, and without them it is several. -/
structure Expr.Unwrapped (e : Expr) : Prop where
  tree : e.canon.bare = e.leftNested
  operands : ∀ k : Connective,
    (k.operands (e.canon.operand k.level)).map Expr.bare = k.operands e.leftNested

/-- An expression that is no chain of `k` is one operand, in parentheses or not. -/
theorem Expr.map_bare_operands {e : Expr} (h : e.canon.bare = e.leftNested) {k : Connective}
    (hk : e.precedence ≠ k.level) :
    (k.operands (e.canon.operand k.level)).map Expr.bare = k.operands e.leftNested := by
  have hoperand : (e.canon.operand k.level).precedence ≠ k.level :=
    Connective.precedence_operand_ne (by rwa [e.precedence_canon])
  have hnested : e.leftNested.precedence ≠ k.level := by rwa [e.precedence_leftNested]
  rw [Connective.operands_of_ne hoperand, Connective.operands_of_ne hnested, List.map_singleton,
    Expr.bare_operand, h]

/-- An expression that is no chain. -/
theorem Expr.Unwrapped.of_tree (p : Precedence) {e : Expr} (h : e.canon.bare = e.leftNested)
    (he : e.precedence = p) (hp : 2 ≤ p.rank) : e.Unwrapped := by
  refine ⟨h, fun k => Expr.map_bare_operands h fun hk => ?_⟩
  rw [← he, hk] at hp
  cases k <;> exact absurd hp (by decide)

/-- A chain of unwrapped operands is unwrapped. -/
theorem Expr.Unwrapped.expr (k : Connective) {left right : Expr} (hleft : left.Unwrapped)
    (hright : right.Unwrapped) : (k.expr left right).Unwrapped := by
  have htree : (k.expr left right).canon.bare = (k.expr left right).leftNested := by
    rw [k.canon_expr, k.leftNested_expr, Connective.graft, k.bare_foldl, hright.operands,
      Expr.bare_operand, hleft.tree, Connective.graft]
  refine ⟨htree, fun k' => ?_⟩
  by_cases hk : (k.expr left right).precedence = k'.level
  · rw [k.precedence_expr] at hk
    obtain rfl := Connective.level_injective hk
    rw [Expr.operand_of_precedence ((Expr.precedence_canon _).trans (k.precedence_expr left right)),
      k.canon_expr, k.leftNested_expr, k.operands_graft, k.operands_graft, List.map_append,
      hleft.operands, hright.operands]
  · exact Expr.map_bare_operands htree hk

/-- What an entry adds to its expression, for the induction over expressions. -/
theorem SelectItem.bare_canon_of {i : SelectItem}
    (h : ∀ e asName, i = .expr e asName → e.canon.bare = e.leftNested) :
    i.canon.bare = i.leftNested := by
  cases i with
  | star => rw [SelectItem.canon, SelectItem.bare, SelectItem.leftNested]
  | qualifiedStar table => rw [SelectItem.canon, SelectItem.bare, SelectItem.leftNested]
  | expr e asName => rw [SelectItem.canon, SelectItem.bare, SelectItem.leftNested, h e asName rfl]

/-- **An expression without parentheses is its canonical tree without them**, but for the nesting of
its chains. -/
theorem Expr.unwrapped (e : Expr) : e.hasParen = false → e.Unwrapped := by
  induction e using Expr.tree_induction with
  | column c =>
    exact fun _ => .of_tree .atom (by rw [Expr.canon, Expr.bare, Expr.leftNested]) rfl (by decide)
  | literal l =>
    exact fun _ => .of_tree .atom (by rw [Expr.canon, Expr.bare, Expr.leftNested]) rfl (by decide)
  | bind v =>
    exact fun _ => .of_tree .atom (by rw [Expr.canon, Expr.bare, Expr.leftNested]) rfl (by decide)
  | null =>
    exact fun _ => .of_tree .atom (by rw [Expr.canon, Expr.bare, Expr.leftNested]) rfl (by decide)
  | comparison left op right hleft hright =>
    intro h
    rw [Expr.hasParen, Bool.or_eq_false_iff] at h
    refine .of_tree .predicate ?_ rfl (by decide)
    rw [Expr.canon, Expr.bare, Expr.leftNested, Expr.bare_operand, Expr.bare_operand,
      (hleft h.1).tree, (hright h.2).tree]
  | and left right hleft hright =>
    intro h
    rw [Expr.hasParen, Bool.or_eq_false_iff] at h
    exact (hleft h.1).expr .and (hright h.2)
  | or left right hleft hright =>
    intro h
    rw [Expr.hasParen, Bool.or_eq_false_iff] at h
    exact (hleft h.1).expr .or (hright h.2)
  | not e he =>
    intro h
    rw [Expr.hasParen] at h
    refine .of_tree .not ?_ rfl (by decide)
    rw [Expr.canon, Expr.bare, Expr.leftNested, Expr.bare_operand, (he h).tree]
  | paren e he => exact fun h => absurd h (by simp [Expr.hasParen])
  | func name distinct args hargs =>
    intro h
    rw [Expr.hasParen, SelectItem.listHasParen_eq_any, List.any_eq_false] at h
    have hitems : ∀ i ∈ args, i.canon.bare = i.leftNested := by
      refine fun i hi => SelectItem.bare_canon_of fun e asName hie => ?_
      have hparen := h i hi
      rw [hie, SelectItem.hasParen, Bool.not_eq_true] at hparen
      exact (hargs e asName (hie ▸ hi) hparen).tree
    refine .of_tree .atom ?_ rfl (by decide)
    rw [Expr.canon, Expr.bare, Expr.leftNested, SelectItem.listCanon_eq_map,
      SelectItem.listBare_eq_map, SelectItem.listLeftNested_eq_map, List.map_map]
    exact congrArg (fun is => Expr.func ⟨name, distinct, is⟩) (List.map_congr_left hitems)
  | isIn e negated list he hlist =>
    intro h
    rw [Expr.hasParen, Bool.or_eq_false_iff, Expr.listHasParen_eq_any, List.any_eq_false] at h
    have hitems : ∀ x ∈ list, x.canon.bare = x.leftNested :=
      fun x hx => (hlist x hx (by simpa using h.2 x hx)).tree
    refine .of_tree .predicate ?_ rfl (by decide)
    rw [Expr.canon, Expr.bare, Expr.leftNested, Expr.bare_operand, (he h.1).tree,
      Expr.listCanon_eq_map, Expr.listBare_eq_map, Expr.listLeftNested_eq_map, List.map_map]
    exact congrArg (Expr.isIn e.leftNested negated) (List.map_congr_left hitems)
  | isNull e negated he =>
    intro h
    rw [Expr.hasParen] at h
    refine .of_tree .predicate ?_ rfl (by decide)
    rw [Expr.canon, Expr.bare, Expr.leftNested, Expr.bare_operand, (he h).tree]

/-! ## Text and nesting -/

/-- The text of a valid expression determines its canonical tree. -/
theorem Expr.canon_eq_of_chars_eq {e e' : Expr} (he : e.violation? = none)
    (he' : e'.violation? = none)
    (h : String.ofList (chars e.lexemes) = String.ofList (chars e'.lexemes)) :
    e.canon = e'.canon := by
  have htokens := tokens_eq_of_chars_eq (e.legible he) (e'.legible he') h
  have hread' := (e'.readable readNumber_token he').whole
  rw [← htokens] at hread'
  have hends : Ends .or [] := fun t ht => absurd ht (by simp)
  exact (e.readable readNumber_token he).whole.unique hread' hends

/-- **Two valid expressions without parentheses have one text exactly if they differ in nothing but
how their chains of `AND` and of `OR` are nested.** -/
theorem text_eq_iff_leftNested_eq {e e' : Expr} (he : e.violation? = none)
    (he' : e'.violation? = none) (hparen : e.hasParen = false) (hparen' : e'.hasParen = false) :
    ∃ text text', e.node.text = .ok text ∧ e'.node.text = .ok text' ∧
      (text = text' ↔ e.leftNested = e'.leftNested) := by
  refine ⟨_, _, Node.text_eq e.writes, Node.text_eq e'.writes, fun h => ?_, fun h => ?_⟩
  · rw [← (e.unwrapped hparen).tree, Expr.canon_eq_of_chars_eq he he' h,
      (e'.unwrapped hparen').tree]
  · rw [← e.lexemes_leftNested, h, e'.lexemes_leftNested]

/-- A condition on the columns `a`, `b` and `c`. -/
def onColumns (condition : Expr → Expr → Expr → Expr) : Expr :=
  condition (.column ⟨none, ⟨"a"⟩⟩) (.column ⟨none, ⟨"b"⟩⟩) (.column ⟨none, ⟨"c"⟩⟩)

/-- The chain `a AND b AND c`, nested to the right. -/
def chainRight : Expr := onColumns fun a b c => .and a (.and b c)

/-- The same chain, nested to the left. -/
def chainLeft : Expr := onColumns fun a b c => .and (.and a b) c

/-- Two operators, the looser one inside. -/
def mixedRight : Expr := onColumns fun a b c => .and a (.or b c)

/-- The same two operators, the looser one outside. -/
def mixedLeft : Expr := onColumns fun a b c => .or (.and a b) c

/-- Two nestings of one chain have one text, two nestings of different operators have not. -/
theorem text_eq_iff_leftNested_eq_onColumns :
    (∃ text, chainRight.node.text = .ok text ∧ chainLeft.node.text = .ok text) ∧
      ∃ text text', mixedRight.node.text = .ok text ∧ mixedLeft.node.text = .ok text' ∧
        text ≠ text' := by
  have hright : chainRight.violation? = none := rfl
  have hleft : chainLeft.violation? = none := rfl
  have hright' : mixedRight.violation? = none := rfl
  have hleft' : mixedLeft.violation? = none := rfl
  obtain ⟨text, text', hr, hl, hiff⟩ := text_eq_iff_leftNested_eq hright hleft rfl rfl
  obtain ⟨text₁, text₂, hr', hl', hiff'⟩ := text_eq_iff_leftNested_eq hright' hleft' rfl rfl
  -- of these four, only `chainRight` is not nested to the left
  have hother : mixedRight ≠ mixedLeft := by simp [mixedRight, mixedLeft, onColumns]
  refine ⟨⟨text, hr, ?_⟩, text₁, text₂, hr', hl', fun h => hother (hiff'.mp h)⟩
  rw [hl, hiff.mpr rfl]

/-- **Two expressions that differ in the nesting of a chain share their text.** Neither has a
parenthesis, both are valid. -/
theorem nested_chains_share_text :
    ¬ ∀ e e' : Expr, e.violation? = none → e'.violation? = none → e.hasParen = false →
      e'.hasParen = false → e.node.text = e'.node.text → e = e' := by
  intro h
  have hright : chainRight.node.text = .ok "a AND b AND c" :=
    (Node.text_eq chainRight.writes).trans (congrArg Except.ok (by decide +kernel))
  have hleft : chainLeft.node.text = .ok "a AND b AND c" :=
    (Node.text_eq chainLeft.writes).trans (congrArg Except.ok (by decide +kernel))
  have hother : chainRight ≠ chainLeft := by simp [chainRight, chainLeft, onColumns]
  exact hother (h chainRight chainLeft rfl rfl rfl rfl (hright.trans hleft.symm))

end SqlRender
