import Mathlib.Data.List.Forall2
import SqlRender.Command.Render
import SqlRender.Proofs.Emission
import SqlRender.Proofs.Lexeme

/-!
# Proofs/Layout — writing a tree spells out its lexemes

Writing any tree never faults, appends exactly the text of its lexemes, and records one span for
each literal among them (`Statement.spells`). The bridge is `Emission.Spells`: an emission *spells*
a list of glyphs if it does to every buffer what the glyphs say. Spelling is closed under
concatenation, so the tree is walked once, call by call.
-/

namespace SqlRender

/-! ## Glyphs -/

/-- A character of plain text, or a whole tracked literal. -/
inductive Glyph where
  | char (c : Char)
  | tracked (s : String)

namespace Glyph

/-- The characters of a glyph. -/
def chars : Glyph → List Char
  | .char c => [c]
  | .tracked s => s.toList

/-- The text of glyphs. -/
def text (gs : List Glyph) : String := String.ofList (gs.flatMap chars)

/-- The spans of the tracked literals among glyphs whose text starts at byte `pos`. -/
def spansFrom : Nat → List Glyph → List Span
  | _, [] => []
  | pos, .char c :: gs => spansFrom (pos + c.utf8Size) gs
  | pos, .tracked s :: gs => ⟨pos, s.utf8ByteSize⟩ :: spansFrom (pos + s.utf8ByteSize) gs

/-- Plain text. -/
def plain (s : String) : List Glyph := s.toList.map .char

@[simp] theorem text_nil : text [] = "" := rfl

@[simp] theorem text_append (gs hs : List Glyph) : text (gs ++ hs) = text gs ++ text hs := by
  rw [text, List.flatMap_append, String.ofList_append]
  rfl

@[simp] theorem text_tracked (s : String) (gs : List Glyph) :
    text (.tracked s :: gs) = s ++ text gs := by
  rw [text, List.flatMap_cons, String.ofList_append, chars, String.ofList_toList]
  rfl

@[simp] theorem text_plain (s : String) : text (plain s) = s := by
  rw [text, plain, List.flatMap_map]
  exact (congrArg String.ofList (List.flatMap_singleton' s.toList)).trans String.ofList_toList

theorem plain_append (s t : String) : plain (s ++ t) = plain s ++ plain t := by
  rw [plain, String.toList_append, List.map_append]
  rfl

theorem text_char (c : Char) (gs : List Glyph) : text (.char c :: gs) = c.toString ++ text gs := by
  rw [text, List.flatMap_cons, chars, String.ofList_append, Char.toString,
    String.singleton_eq_ofList]
  rfl

/-- The spans behind a text are shifted by its length. -/
theorem spansFrom_append : ∀ (pos : Nat) (gs hs : List Glyph),
    spansFrom pos (gs ++ hs) = spansFrom pos gs ++ spansFrom (pos + (text gs).utf8ByteSize) hs
  | pos, [], hs => rfl
  | pos, .char c :: gs, hs => by
      rw [List.cons_append, spansFrom, spansFrom, spansFrom_append _ gs hs, text_char,
        String.utf8ByteSize_append, Char.toString, String.utf8ByteSize_singleton, Nat.add_assoc]
  | pos, .tracked s :: gs, hs => by
      rw [List.cons_append, spansFrom, spansFrom, spansFrom_append _ gs hs, text_tracked,
        String.utf8ByteSize_append, Nat.add_assoc, List.cons_append]

@[simp] theorem spansFrom_plain (pos : Nat) (s : String) : spansFrom pos (plain s) = [] := by
  rw [plain]
  induction s.toList generalizing pos with
  | nil => rfl
  | cons c cs ih => exact ih _

end Glyph

open Glyph

/-- The glyphs of a lexeme: a literal is one glyph, anything else is plain. -/
def Lexeme.glyphs : Lexeme → List Glyph
  | .blank => plain " "
  | .token t => if t.isLiteral then [.tracked t.sql] else plain t.sql

/-- The glyphs of lexemes. -/
def Lexeme.layout (ls : List Lexeme) : List Glyph := ls.flatMap glyphs

/-! ## Spelling -/

/-- An emission that completes, appends the text of `gs` and records its spans. -/
structure Emission.Spells (e : Emission) (gs : List Glyph) : Prop where
  complete : e.fault = none
  bytes : ∀ b : Buffer, (b.putAll e.pieces).bytes = b.bytes ++ (text gs).toUTF8
  tracked : ∀ b : Buffer, (b.putAll e.pieces).tracked
    = b.tracked.map (· ++ (spansFrom b.size gs).toArray)

namespace Emission.Spells

/-- The buffer grows by the bytes of the text. -/
theorem size {e : Emission} {gs : List Glyph} (h : e.Spells gs) (b : Buffer) :
    (b.putAll e.pieces).size = b.size + (text gs).utf8ByteSize := by
  rw [Buffer.size, h.bytes, ByteArray.size_append]
  rfl

/-- **Spelling is closed under concatenation** — spans only see how much text is before them. -/
theorem andThen {e f : Emission} {gs hs : List Glyph} (he : e.Spells gs) (hf : f.Spells hs) :
    (e.andThen f).Spells (gs ++ hs) := by
  obtain ⟨ps, fault⟩ := e
  obtain rfl : fault = none := he.complete
  refine ⟨hf.complete, fun b => ?_, fun b => ?_⟩
  · rw [andThen_complete, Buffer.putAll_append, hf.bytes, he.bytes, ByteArray.append_assoc,
      text_append]
    rfl
  · rw [andThen_complete, Buffer.putAll_append, hf.tracked, he.tracked, he.size, spansFrom_append,
      Option.map_map]
    refine congrArg (fun f => Option.map f b.tracked) (funext fun spans => ?_)
    simp

theorem nil : (⟨[], none⟩ : Emission).Spells [] where
  complete := rfl
  bytes b := ByteArray.append_empty.symm
  tracked b := by simp [spansFrom]

theorem note (template : String) (args : Nat) :
    (⟨[.note template args], none⟩ : Emission).Spells [] where
  complete := rfl
  bytes b := ByteArray.append_empty.symm
  tracked b := by
    change b.tracked = _
    simp [spansFrom]

theorem copy (s : String) : (Emission.copy s).Spells (plain s) where
  complete := rfl
  bytes b := by rw [text_plain]; rfl
  tracked b := by
    change b.tracked = _
    simp

theorem literal (s : String) : (⟨[.tracked s], none⟩ : Emission).Spells [.tracked s] where
  complete := rfl
  bytes b := by
    have hbytes : (b.appendTracked s).bytes = b.bytes ++ s.toUTF8 := by
      rw [Buffer.appendTracked]
      cases b.tracked <;> rfl
    rw [text_tracked, text_nil, String.append_empty]
    exact hbytes
  tracked b := by
    change (b.appendTracked s).tracked = _
    rw [Buffer.appendTracked]
    cases h : b.tracked with
    | none => exact h
    | some spans => simp [spansFrom]

end Emission.Spells

/-! ## Writing lexemes -/

namespace Lexeme

@[simp] theorem layout_append (ls ms : List Lexeme) : layout (ls ++ ms) = layout ls ++ layout ms :=
  List.flatMap_append

/-- Whether the lexeme is no tracked literal. -/
def isPlain : Lexeme → Bool
  | .blank => true
  | .token t => !t.isLiteral

/-- A lexeme that is no literal is its characters. -/
theorem glyphs_of_isPlain {l : Lexeme} (h : l.isPlain = true) : l.glyphs = plain l.sql := by
  cases l with
  | blank => rfl
  | token t =>
    have ht : t.isLiteral = false := by simpa [isPlain] using h
    rw [glyphs, ht]
    rfl

/-- Lexemes without literals are plain text. -/
theorem layout_of_isPlain : ∀ {ls : List Lexeme}, ls.all isPlain = true →
    layout ls = plain (String.ofList (chars ls))
  | [], _ => rfl
  | l :: ls, h => by
      rw [List.all_cons, Bool.and_eq_true] at h
      rw [chars_cons, String.ofList_append, String.ofList_toList, plain_append,
        ← glyphs_of_isPlain h.1, ← layout_of_isPlain h.2]
      rfl

end Lexeme

open Lexeme

/-- An emission that spells out lexemes. -/
def Emission.Writes (e : Emission) (ls : List Lexeme) : Prop := e.Spells (layout ls)

namespace Emission.Writes

theorem nil : (⟨[], none⟩ : Emission).Writes [] := Spells.nil

theorem note (template : String) (args : Nat) :
    (⟨[.note template args], none⟩ : Emission).Writes [] := Spells.note template args

/-- Writing is closed under concatenation. -/
theorem andThen {e f : Emission} {ls ms : List Lexeme} (he : e.Writes ls) (hf : f.Writes ms) :
    (e.andThen f).Writes (ls ++ ms) := by
  rw [Writes, layout_append]
  exact Spells.andThen he hf

/-- Text that is copied writes any lexemes it is the text of, as long as none is a literal. -/
theorem copy (ls : List Lexeme) (h : ls.all isPlain = true) :
    (Emission.copy (String.ofList (chars ls))).Writes ls := by
  rw [Writes, layout_of_isPlain h]
  exact Spells.copy _

/-- A tracked text writes the literal that it spells. -/
theorem literal {t : Token} (h : t.isLiteral = true) :
    (⟨[.tracked t.sql], none⟩ : Emission).Writes [.token t] := by
  have hlayout : layout [.token t] = [.tracked t.sql] := by
    rw [layout, List.flatMap_singleton, glyphs, h]
    rfl
  rw [Writes, hlayout]
  exact Spells.literal _

end Emission.Writes

/-! ## Calls

One lemma for each shape of call that trees make. The slots of a template are computed; that they
are what a lemma wants is `rfl` wherever it is used. -/

theorem Directive.ofMarker?_marker (d : Directive) : Directive.ofMarker? d.marker = some d := by
  cases d <;> rfl

namespace Arg

/-- Behind the last marker the rest of the template is copied. -/
theorem writes_filled_nil (args : List Arg) (index : Nat) {tail : List Lexeme}
    (h : tail.all isPlain = true) : (Arg.filled args index [] (chars tail)).Writes tail := by
  cases args <;> exact .copy tail h

/-- One marker: the text before it is copied, and the argument writes its own lexemes. -/
theorem writes_filled_cons (before : List Lexeme) (d : Directive) {arg : Arg} {args : List Arg}
    {index offset : Nat} {ls ms : List Lexeme} {slots : List Slot} {tail : List Char}
    (h : before.all isPlain = true) (harg : (arg.emission d).Writes ls)
    (hrest : (Arg.filled args (index + 1) slots tail).Writes ms) :
    (Arg.filled (arg :: args) index (⟨chars before, offset, some d.marker⟩ :: slots) tail).Writes
      (before ++ (ls ++ ms)) := by
  rw [Arg.filled, Option.bind_some, Directive.ofMarker?_marker]
  exact (Emission.Writes.copy before h).andThen (harg.andThen hrest)

end Arg

namespace Call

/-- What the slots of a template write, a call of that template writes. -/
theorem writes_filled {template : String} {args : List Arg} {slots : List Slot}
    {tail : List Char} {ls : List Lexeme} (hcut : Slots.ofTemplate template = ⟨slots, tail⟩)
    (h : (Arg.filled args 0 slots tail).Writes ls) :
    (Call.emission ⟨template, args⟩).Writes ls := by
  rw [Call.emission, hcut]
  exact (Emission.Writes.note _ _).andThen h

/-- Text without markers. -/
theorem writes_text {template : String} (ls : List Lexeme)
    (hcut : Slots.ofTemplate template = ⟨[], chars ls⟩) (h : ls.all isPlain = true) :
    (Call.text template).emission.Writes ls :=
  writes_filled hcut (Arg.writes_filled_nil [] 0 h)

/-- Text around a single marker. -/
theorem writes_around {template : String} (before after : List Lexeme) {offset : Nat}
    (d : Directive)
    (hcut : Slots.ofTemplate template = ⟨[⟨chars before, offset, some d.marker⟩], chars after⟩)
    (hbefore : before.all isPlain = true) (hafter : after.all isPlain = true) {arg : Arg}
    {ls : List Lexeme} (harg : (arg.emission d).Writes ls) :
    (Call.emission ⟨template, [arg]⟩).Writes (before ++ (ls ++ after)) :=
  writes_filled hcut
    (Arg.writes_filled_cons before d hbefore harg (Arg.writes_filled_nil [] 1 hafter))

/-- A marker and nothing else. -/
theorem writes_bare {template : String} {offset : Nat} (d : Directive)
    (hcut : Slots.ofTemplate template = ⟨[⟨[], offset, some d.marker⟩], []⟩) {arg : Arg}
    {ls : List Lexeme} (harg : (arg.emission d).Writes ls) :
    (Call.emission ⟨template, [arg]⟩).Writes ls := by
  have h := writes_around [] [] d hcut rfl rfl harg
  rwa [List.nil_append, List.append_nil] at h

/-- Text around a node. -/
theorem writes_one (template : String) (before after : List Lexeme) {offset : Nat}
    (hcut : Slots.ofTemplate template = ⟨[⟨chars before, offset, some 'v'⟩], chars after⟩)
    (hbefore : before.all isPlain = true) (hafter : after.all isPlain = true) {n : Node}
    {ls : List Lexeme} (hn : n.emission.Writes ls) :
    (Call.one template n).emission.Writes (before ++ (ls ++ after)) :=
  writes_around before after .subNode hcut hbefore hafter hn

/-- A template that is one node's place writes what the node writes. -/
theorem writes_node {n : Node} {ls : List Lexeme} (hn : n.emission.Writes ls) :
    (Call.one "%v" n).emission.Writes ls := writes_bare .subNode rfl hn

/-- A string that is handed to a template is copied. -/
theorem writes_string {s : String} (ls : List Lexeme) (hs : s.toList = chars ls)
    (h : ls.all isPlain = true) : (Call.emission ⟨"%s", [.str s]⟩).Writes ls := by
  obtain rfl : s = String.ofList (chars ls) := by rw [← hs, String.ofList_toList]
  exact writes_bare .rawText rfl (Emission.Writes.copy ls h)

/-- A literal that is handed to a template is tracked. -/
theorem writes_tracked {t : Token} (h : t.isLiteral = true) :
    (Call.tracked t.sql).emission.Writes [.token t] :=
  writes_bare .trackedLiteral rfl (Emission.Writes.literal h)

theorem writes_nil : (Call.emissions []).Writes [] := Emission.Writes.nil

theorem writes_cons {c : Call} {cs : List Call} {ls ms : List Lexeme}
    (hc : c.emission.Writes ls) (hcs : (Call.emissions cs).Writes ms) :
    (Call.emissions (c :: cs)).Writes (ls ++ ms) := by
  rw [Call.emissions]
  exact hc.andThen hcs

theorem writes_singleton {c : Call} {ls : List Lexeme} (hc : c.emission.Writes ls) :
    (Call.emissions [c]).Writes ls := by
  have h := writes_cons hc writes_nil
  rwa [List.append_nil] at h

theorem writes_append {cs ds : List Call} {ls ms : List Lexeme}
    (hcs : (Call.emissions cs).Writes ls) (hds : (Call.emissions ds).Writes ms) :
    (Call.emissions (cs ++ ds)).Writes (ls ++ ms) := by
  rw [Call.emissions_append]
  exact hcs.andThen hds

end Call

namespace Node

/-- A node writes what its calls write. -/
theorem writes_of_calls {type : String} {calls : List Call} {ls : List Lexeme}
    (h : (Call.emissions calls).Writes ls) : (Node.mk type calls).emission.Writes ls := by
  rwa [Node.emission]

/-- The calls of a comma list write the items with commas between them. -/
theorem writes_list : ∀ {nodes : List Node} {items : List (List Lexeme)},
    List.Forall₂ (fun n ls => n.emission.Writes ls) nodes items →
      (Call.emissions (Node.list nodes)).Writes (commaList items)
  | _, _, .nil => Call.writes_nil
  | _, _, .cons hn .nil => Call.writes_singleton (Call.writes_node hn)
  | n :: m :: rest, l :: k :: items, .cons hn (.cons hm hrest) => by
      have htail := Node.writes_list (.cons hm hrest)
      have hcomma : (Call.emission ⟨"%s", [.str ", "]⟩).Writes [punct ',', .blank] :=
        Call.writes_string _ rfl rfl
      rw [commaList, List.append_assoc]
      · exact Call.writes_cons (Call.writes_node hn) (Call.writes_cons hcomma htail)
      · simp

/-- Nodes in a list write comma lists. -/
theorem writes_map {α : Type} {node : α → Node} {lexemes : α → List Lexeme}
    (h : ∀ a, (node a).emission.Writes (lexemes a)) (as : List α) :
    (Call.emissions (Node.list (as.map node))).Writes (commaList (as.map lexemes)) :=
  writes_list (by
    rw [List.forall₂_map_left_iff, List.forall₂_map_right_iff, List.forall₂_same]
    exact fun a _ => h a)

end Node

/-! ## Names and literals -/

/-- A quoted name is one token written by three arguments. -/
theorem spells_quotedName (name : String) :
    (Call.emission ⟨"%c%s%c", [.byte 0x60, .str (doubled '\x60' name), .byte 0x60]⟩).Spells
      (plain ("\x60" ++ doubled '\x60' name ++ "\x60")) := by
  have hcut : Slots.ofTemplate "%c%s%c"
      = ⟨[⟨[], 0, some 'c'⟩, ⟨[], 2, some 's'⟩, ⟨[], 4, some 'c'⟩], []⟩ := rfl
  have hquote : (Arg.emission (.byte 0x60) .charLiteral).Spells (plain "\x60") :=
    Emission.Spells.copy "\x60"
  have hcopy := Emission.Spells.copy
  have h := (Emission.Spells.note "%c%s%c" 3).andThen ((hcopy "").andThen (hquote.andThen
    ((hcopy "").andThen ((hcopy (doubled '\x60' name)).andThen
      ((hcopy "").andThen (hquote.andThen (hcopy "")))))))
  rw [show plain "" = [] from rfl] at h
  simp only [List.nil_append, List.append_nil] at h
  rw [Call.emission, hcut, plain_append, plain_append, List.append_assoc]
  exact h

/-- A name writes one token, in quotes or not. -/
theorem Ident.writes (i : Ident) : i.node.emission.Writes [i.lexeme] := by
  refine Node.writes_of_calls ?_
  by_cases hplain : isPlainName i.name = true
  · rw [if_pos hplain]
    refine Call.writes_singleton (Call.writes_string _ ?_ rfl)
    rw [chars_cons, chars_nil, List.append_nil, Ident.lexeme, Lexeme.sql, Token.sql, if_pos hplain]
  · rw [if_neg hplain]
    refine Call.writes_singleton ?_
    rw [Emission.Writes, layout_of_isPlain rfl, chars_cons, chars_nil, List.append_nil,
      String.ofList_toList, Ident.lexeme, Lexeme.sql, Token.sql, if_neg hplain]
    exact spells_quotedName i.name

/-- A possibly qualified name. -/
theorem writes_qualifiedCalls (qualifier : Option Ident) (name : Ident) :
    (Call.emissions (qualifiedCalls qualifier name)).Writes (qualifiedLexemes qualifier name) := by
  have hname := Call.writes_singleton (Call.writes_node name.writes)
  cases qualifier with
  | none => exact hname
  | some q =>
    have hq := Call.writes_one "%v." [] [punct '.'] rfl rfl rfl q.writes
    exact Call.writes_cons hq hname

theorem ColumnName.writes (c : ColumnName) : c.node.emission.Writes c.lexemes :=
  Node.writes_of_calls (writes_qualifiedCalls c.qualifier c.name)

theorem TableName.writes (t : TableName) : t.node.emission.Writes t.lexemes :=
  Node.writes_of_calls (writes_qualifiedCalls t.qualifier t.name)

theorem writes_aliasCalls (asName : Option Ident) :
    (Call.emissions (aliasCalls asName)).Writes (aliasLexemes asName) := by
  cases asName with
  | none => exact Call.writes_nil
  | some a =>
    exact Call.writes_singleton
      (Call.writes_one " AS %v" [.blank, word "AS", .blank] [] rfl rfl rfl a.writes)

theorem TableExpr.writes (t : TableExpr) : t.node.emission.Writes t.lexemes :=
  Node.writes_of_calls
    (Call.writes_cons (Call.writes_node t.table.writes) (writes_aliasCalls t.asName))

/-- A literal writes one token, which is tracked. -/
theorem Literal.writes (l : Literal) : l.node.emission.Writes [.token l.token] := by
  have hsql : l.sql = l.token.sql := by cases l <;> rfl
  refine Node.writes_of_calls (Call.writes_singleton ?_)
  rw [hsql]
  exact Call.writes_tracked (by cases l <;> rfl)

theorem BindVar.writes (v : BindVar) : v.node.emission.Writes [.token v.token] :=
  Node.writes_of_calls (Call.writes_singleton (Call.writes_tracked (t := .bind v.name) rfl))

/-- An operator writes its words with a blank on either side. -/
theorem Comparison.writes (op : Comparison) :
    (Call.emission ⟨" %s ", [.str op.sql]⟩).Writes
      ([Lexeme.blank] ++ op.lexemes ++ [Lexeme.blank]) := by
  have hplain : op.lexemes.all isPlain = true := by cases op <;> rfl
  have hsql : op.sql = String.ofList (chars op.lexemes) := by cases op <;> rfl
  rw [List.append_assoc, hsql]
  exact Call.writes_around [.blank] [.blank] .rawText rfl rfl rfl (.copy op.lexemes hplain)

/-! ## Expressions -/

/-- An operand writes the parentheses that its operator asks for. -/
theorem writes_operandCall {e : Expr} (least : Precedence)
    (h : (Call.emissions e.calls).Writes e.lexemes) :
    (operandCall e least ⟨treeType "Expr", e.calls⟩).emission.Writes
      (operandLexemes e least e.lexemes) := by
  have hn : (Node.mk (treeType "Expr") e.calls).emission.Writes e.lexemes := Node.writes_of_calls h
  rw [operandCall, operandLexemes]
  split
  · rw [List.append_assoc]
    exact Call.writes_one "(%v)" [punct '('] [punct ')'] rfl rfl rfl hn
  · exact Call.writes_node hn

/-- Two operands and a word between them. -/
theorem writes_connective {left right : Expr} (least : Precedence) {template : String} (w : String)
    (hcut : Slots.ofTemplate template = ⟨[], chars [.blank, word w, .blank]⟩)
    (hleft : (Call.emissions left.calls).Writes left.lexemes)
    (hright : (Call.emissions right.calls).Writes right.lexemes) :
    (Call.emissions [operandCall left least ⟨treeType "Expr", left.calls⟩, Call.text template,
        operandCall right least ⟨treeType "Expr", right.calls⟩]).Writes
      (operandLexemes left least left.lexemes ++ [.blank, word w, .blank] ++
        operandLexemes right least right.lexemes) := by
  rw [List.append_assoc]
  exact Call.writes_cons (writes_operandCall least hleft)
    (Call.writes_cons (Call.writes_text _ hcut rfl)
      (Call.writes_singleton (writes_operandCall least hright)))

mutual

/-- **Writing an expression spells out its lexemes.** -/
theorem Expr.writes_calls : ∀ e : Expr, (Call.emissions e.calls).Writes e.lexemes
  | .column c => by
      rw [Expr.calls, Expr.lexemes]
      exact Call.writes_singleton (Call.writes_node c.writes)
  | .literal l => by
      rw [Expr.calls, Expr.lexemes]
      exact Call.writes_singleton (Call.writes_node l.writes)
  | .bind v => by
      rw [Expr.calls, Expr.lexemes]
      exact Call.writes_singleton (Call.writes_node v.writes)
  | .null => by
      rw [Expr.calls, Expr.lexemes]
      exact Call.writes_singleton (Call.writes_text [word "NULL"] rfl rfl)
  | .comparison left op right => by
      rw [Expr.calls, Expr.lexemes, List.append_assoc]
      exact Call.writes_cons (writes_operandCall .atom (Expr.writes_calls left))
        (Call.writes_cons op.writes
          (Call.writes_singleton (writes_operandCall .atom (Expr.writes_calls right))))
  | .and left right => by
      rw [Expr.calls, Expr.lexemes]
      exact writes_connective .and "AND" rfl (Expr.writes_calls left) (Expr.writes_calls right)
  | .or left right => by
      rw [Expr.calls, Expr.lexemes]
      exact writes_connective .or "OR" rfl (Expr.writes_calls left) (Expr.writes_calls right)
  | .not e => by
      rw [Expr.calls, Expr.lexemes]
      exact Call.writes_cons (Call.writes_text [word "NOT", .blank] rfl rfl)
        (Call.writes_singleton (writes_operandCall .not (Expr.writes_calls e)))
  | .paren e => by
      rw [Expr.calls, Expr.lexemes, List.append_assoc]
      exact Call.writes_singleton (Call.writes_one "(%v)" [punct '('] [punct ')'] rfl rfl rfl
        (Node.writes_of_calls (Expr.writes_calls e)))
  | .func f => by
      rw [Expr.calls, Expr.lexemes]
      exact Call.writes_singleton
        (Call.writes_node (Node.writes_of_calls (FuncCall.writes_calls f)))
  | .isIn e negated list => by
      rw [Expr.calls, Expr.lexemes]
      refine Call.writes_append (Call.writes_append (Call.writes_cons
        (writes_operandCall .atom (Expr.writes_calls e)) (Call.writes_singleton ?_))
        (Node.writes_list (Expr.writes_nodes list)))
        (Call.writes_singleton (Call.writes_text [punct ')'] rfl rfl))
      cases negated <;> exact Call.writes_string _ rfl rfl
  | .isNull e negated => by
      rw [Expr.calls, Expr.lexemes]
      refine Call.writes_cons (writes_operandCall .atom (Expr.writes_calls e))
        (Call.writes_singleton ?_)
      cases negated <;> exact Call.writes_string _ rfl rfl

/-- The expressions of a list write their lexemes one by one. -/
theorem Expr.writes_nodes : ∀ es : List Expr,
    List.Forall₂ (fun n ls => n.emission.Writes ls) (Expr.nodes es) (Expr.lexemeLists es)
  | [] => by
      rw [Expr.nodes, Expr.lexemeLists]
      exact .nil
  | e :: rest => by
      rw [Expr.nodes, Expr.lexemeLists]
      exact .cons (Node.writes_of_calls (Expr.writes_calls e)) (Expr.writes_nodes rest)

/-- A call writes its name, its arguments and the parentheses around them. -/
theorem FuncCall.writes_calls : ∀ f : FuncCall, (Call.emissions f.calls).Writes f.lexemes
  | ⟨name, distinct, args⟩ => by
      rw [FuncCall.calls, FuncCall.lexemes]
      refine Call.writes_append (Call.writes_append (Call.writes_append (Call.writes_singleton
        (Call.writes_one "%v(" [] [punct '('] rfl rfl rfl name.writes)) ?_)
        (Node.writes_list (SelectItem.writes_nodes args)))
        (Call.writes_singleton (Call.writes_bare .charLiteral rfl (.copy [punct ')'] rfl)))
      cases distinct
      · exact Call.writes_nil
      · exact Call.writes_singleton (Call.writes_text [word "DISTINCT", .blank] rfl rfl)

theorem SelectItem.writes_calls : ∀ i : SelectItem, (Call.emissions i.calls).Writes i.lexemes
  | .star => by
      rw [SelectItem.calls, SelectItem.lexemes]
      exact Call.writes_singleton (Call.writes_bare .charLiteral rfl (.copy [punct '*'] rfl))
  | .qualifiedStar table => by
      rw [SelectItem.calls, SelectItem.lexemes]
      exact Call.writes_singleton
        (Call.writes_one "%v.*" [] [punct '.', punct '*'] rfl rfl rfl table.writes)
  | .expr e asName => by
      rw [SelectItem.calls, SelectItem.lexemes]
      exact Call.writes_cons (Call.writes_node (Node.writes_of_calls (Expr.writes_calls e)))
        (writes_aliasCalls asName)

theorem SelectItem.writes_nodes : ∀ is : List SelectItem,
    List.Forall₂ (fun n ls => n.emission.Writes ls) (SelectItem.nodes is)
      (SelectItem.lexemeLists is)
  | [] => by
      rw [SelectItem.nodes, SelectItem.lexemeLists]
      exact .nil
  | i :: rest => by
      rw [SelectItem.nodes, SelectItem.lexemeLists]
      exact .cons (Node.writes_of_calls (SelectItem.writes_calls i)) (SelectItem.writes_nodes rest)

end

theorem Expr.writes (e : Expr) : e.node.emission.Writes e.lexemes :=
  Node.writes_of_calls e.writes_calls

theorem SelectItem.writes (i : SelectItem) : i.node.emission.Writes i.lexemes :=
  Node.writes_of_calls i.writes_calls

/-! ## Clauses -/

theorem OrderItem.writes (o : OrderItem) : o.node.emission.Writes o.lexemes := by
  refine Node.writes_of_calls (Call.writes_cons (Call.writes_node o.expr.writes) ?_)
  split
  · exact Call.writes_singleton (Call.writes_text [.blank, word "DESC"] rfl rfl)
  · exact Call.writes_nil

theorem Limit.writes (l : Limit) : l.node.emission.Writes l.lexemes := by
  have hrowcount := Call.writes_one "LIMIT %v" [word "LIMIT", .blank] [] rfl rfl rfl
    l.rowcount.writes
  rw [List.append_nil] at hrowcount
  refine Node.writes_of_calls (Call.writes_cons hrowcount ?_)
  cases l.offset with
  | none => exact Call.writes_nil
  | some e =>
    have hoffset := Call.writes_one " OFFSET %v" [.blank, word "OFFSET", .blank] [] rfl rfl rfl
      e.writes
    rw [List.append_nil] at hoffset
    exact Call.writes_singleton hoffset

theorem Assignment.writes (a : Assignment) : a.node.emission.Writes a.lexemes := by
  have hcut : Slots.ofTemplate "%v = %v"
      = ⟨[⟨chars [], 0, some 'v'⟩, ⟨chars [.blank, .token (.op "="), .blank], 5, some 'v'⟩],
          chars []⟩ := rfl
  refine Node.writes_of_calls (Call.writes_singleton (Call.writes_filled hcut ?_))
  rw [Assignment.lexemes, List.append_assoc, ← List.append_nil a.value.lexemes]
  exact Arg.writes_filled_cons [] .subNode rfl a.column.writes
    (Arg.writes_filled_cons [.blank, .token (.op "="), .blank] .subNode rfl a.value.writes
      (Arg.writes_filled_nil [] 2 rfl))

theorem Row.writes (r : Row) : r.node.emission.Writes r.lexemes :=
  Node.writes_of_calls (Call.writes_append (Call.writes_append
    (Call.writes_singleton (Call.writes_text [punct '('] rfl rfl))
    (Node.writes_map Expr.writes r.values))
    (Call.writes_singleton (Call.writes_text [punct ')'] rfl rfl)))

/-- A keyword and an expression, if there is one. -/
theorem writes_optionCalls {template : String} (keyword : String) {offset : Nat}
    (hcut : Slots.ofTemplate template
      = ⟨[⟨chars [.blank, word keyword, .blank], offset, some 'v'⟩], chars []⟩) (e : Option Expr) :
    (Call.emissions (e.toList.map fun e => Call.one template e.node)).Writes
      (optionClause keyword e) := by
  cases e with
  | none => exact Call.writes_nil
  | some e =>
    have h := Call.writes_one template _ _ hcut rfl rfl e.writes
    rw [List.append_nil] at h
    exact Call.writes_singleton h

/-- A condition writes its clause, and no condition writes nothing. -/
theorem writes_filterCalls (e : Option Expr) :
    (Call.emissions (filterCalls e)).Writes (optionClause "WHERE" e) :=
  writes_optionCalls "WHERE" rfl e

/-- A list writes its clause, and an empty one writes nothing. -/
theorem writes_clauseCalls {α : Type} {template : String} (keywords : List Lexeme)
    (hcut : Slots.ofTemplate template = ⟨[], chars keywords⟩)
    (hplain : keywords.all isPlain = true) {node : α → Node} {lexemes : α → List Lexeme}
    (h : ∀ a, (node a).emission.Writes (lexemes a)) (as : List α) :
    (Call.emissions (clauseCalls template (as.map node))).Writes
      (listClause keywords (as.map lexemes)) := by
  cases as with
  | nil => exact Call.writes_nil
  | cons a as =>
    exact Call.writes_cons (Call.writes_text keywords hcut hplain) (Node.writes_map h (a :: as))

/-! ## Statements -/

theorem Select.writes (s : Select) : s.node.emission.Writes s.lexemes := by
  refine Node.writes_of_calls (Call.writes_append (Call.writes_append (Call.writes_append
    (Call.writes_append (Call.writes_append (Call.writes_append (Call.writes_append
      (Call.writes_append (Call.writes_singleton (Call.writes_text [word "SELECT", .blank] rfl rfl))
        ?distinct)
      (Node.writes_map SelectItem.writes s.columns))
      (writes_clauseCalls [.blank, word "FROM", .blank] rfl rfl TableExpr.writes s.tables))
      (writes_filterCalls s.filter))
      (writes_clauseCalls [.blank, word "GROUP", .blank, word "BY", .blank] rfl rfl Expr.writes
        s.groupBy))
      (writes_optionCalls "HAVING" rfl s.having))
      (writes_clauseCalls [.blank, word "ORDER", .blank, word "BY", .blank] rfl rfl OrderItem.writes
        s.orderBy))
      ?limit)
  case distinct =>
    cases s.distinct
    · exact Call.writes_nil
    · exact Call.writes_singleton (Call.writes_text [word "DISTINCT", .blank] rfl rfl)
  case limit =>
    cases s.limit with
    | none => exact Call.writes_nil
    | some l =>
      have h := Call.writes_one " %v" [.blank] [] rfl rfl rfl l.writes
      rw [List.append_nil] at h
      exact Call.writes_singleton h

theorem Insert.writes (s : Insert) : s.node.emission.Writes s.lexemes := by
  have htable := Call.writes_one "INSERT INTO %v" [word "INSERT", .blank, word "INTO", .blank] []
    rfl rfl rfl s.table.writes
  rw [List.append_nil] at htable
  refine Node.writes_of_calls (Call.writes_append (Call.writes_append (Call.writes_append
    (Call.writes_singleton htable) ?columns)
    (Call.writes_singleton (Call.writes_text [.blank, word "VALUES", .blank] rfl rfl)))
    (Node.writes_map Row.writes s.rows))
  case columns =>
    split
    · exact Call.writes_nil
    · exact Call.writes_append (Call.writes_append
        (Call.writes_singleton (Call.writes_text [.blank, punct '('] rfl rfl))
        (Node.writes_map Ident.writes s.columns))
        (Call.writes_singleton (Call.writes_text [punct ')'] rfl rfl))

theorem Update.writes (s : Update) : s.node.emission.Writes s.lexemes := by
  have htable := Call.writes_one "UPDATE %v SET " [word "UPDATE", .blank]
    [.blank, word "SET", .blank] rfl rfl rfl s.table.writes
  rw [← List.append_assoc] at htable
  exact Node.writes_of_calls (Call.writes_append (Call.writes_append (Call.writes_singleton htable)
    (Node.writes_map Assignment.writes s.assignments)) (writes_filterCalls s.filter))

theorem Delete.writes (s : Delete) : s.node.emission.Writes s.lexemes := by
  have htable := Call.writes_one "DELETE FROM %v" [word "DELETE", .blank, word "FROM", .blank] []
    rfl rfl rfl s.table.writes
  rw [List.append_nil] at htable
  exact Node.writes_of_calls (Call.writes_cons htable (writes_filterCalls s.filter))

/-- **Writing a statement spells out its lexemes.** -/
theorem Statement.writes (s : Statement) : s.node.emission.Writes s.lexemes := by
  cases s with
  | select s => exact Node.writes_of_calls (Call.writes_singleton (Call.writes_node s.writes))
  | insert s => exact Node.writes_of_calls (Call.writes_singleton (Call.writes_node s.writes))
  | update s => exact Node.writes_of_calls (Call.writes_singleton (Call.writes_node s.writes))
  | delete s => exact Node.writes_of_calls (Call.writes_singleton (Call.writes_node s.writes))

/-! ## Rendered text -/

/-- The text of lexemes is that of their glyphs. -/
theorem Lexeme.text_layout (ls : List Lexeme) : text (layout ls) = String.ofList (chars ls) := by
  induction ls with
  | nil => rfl
  | cons l ls ih =>
    have hl : text l.glyphs = l.sql := by
      cases l with
      | blank => exact text_plain _
      | token t =>
        rw [Lexeme.glyphs]
        split
        · rw [text_tracked, text_nil, String.append_empty]
          rfl
        · exact text_plain _
    rw [chars_cons, String.ofList_append, String.ofList_toList, ← ih, ← hl, ← text_append]
    rfl

/-- Nothing is replaced in bytes that are text. -/
theorem Utf8.lossy_toUTF8 (s : String) : Utf8.lossy s.toUTF8 = s := by
  have hread : String.fromUTF8? s.toUTF8 = some s := by
    have hvalid : s.toUTF8.IsValidUTF8 := s.isValidUTF8
    rw [String.fromUTF8?, dif_pos hvalid]
    rfl
  rw [Utf8.lossy, hread]

section Write

variable {n : Node} {ls : List Lexeme}

/-- A node that writes lexemes meets no fault, in any buffer. -/
theorem Node.write_fault (h : n.emission.Writes ls) (b : Buffer) : (b.write n).fault = none := by
  rw [Buffer.write_eq]
  exact (Call.writes_node h).complete

/-- A new buffer then holds the text of the lexemes, whether it tracks or not. -/
theorem Node.write_bytes (h : n.emission.Writes ls) (tracking : Bool) :
    ((Buffer.new tracking).write n).buffer.bytes = (String.ofList (chars ls)).toUTF8 := by
  have hbytes := (Call.writes_node h).bytes (Buffer.new tracking)
  rw [Lexeme.text_layout] at hbytes
  rw [Buffer.write_eq]
  exact hbytes.trans ByteArray.empty_append

/-- A new buffer that tracks holds the spans of the literals among them. -/
theorem Node.write_spans (h : n.emission.Writes ls) :
    ((Buffer.new true).write n).buffer.spans.toList = spansFrom 0 (layout ls) := by
  have htracked := (Call.writes_node h).tracked (Buffer.new true)
  rw [Buffer.write_eq, Buffer.spans]
  refine (congrArg (fun t => (Option.getD t #[]).toList) htracked).trans ?_
  simp [Buffer.new, Buffer.size]

/-- A node that spells out lexemes has their text. -/
theorem Node.text_eq (h : n.emission.Writes ls) : n.text = .ok (String.ofList (chars ls)) := by
  rw [Node.text, Node.write_fault h, Buffer.text, Node.write_bytes h, Utf8.lossy_toUTF8]

end Write

/-- The text of a statement. -/
def Statement.sql (s : Statement) : String := String.ofList (chars s.lexemes)

/-- The spans of the literals in the text of a statement. -/
def Statement.spans (s : Statement) : List Span := spansFrom 0 (layout s.lexemes)

/-- No statement meets a fault, valid or not. -/
theorem Statement.write_fault (s : Statement) (tracking : Bool) :
    (s.write tracking).fault = none := Node.write_fault s.writes _

/-- The bytes of a statement are its text. -/
theorem Statement.write_bytes (s : Statement) (tracking : Bool) :
    (s.write tracking).buffer.bytes = s.sql.toUTF8 := Node.write_bytes s.writes tracking

/-- The spans of a statement are those of its literals. -/
theorem Statement.write_spans (s : Statement) : (s.write true).buffer.spans.toList = s.spans :=
  Node.write_spans s.writes

/-- **A statement renders, and to the text of its lexemes.** -/
theorem Statement.text_node (s : Statement) : s.node.text = .ok s.sql := Node.text_eq s.writes

end SqlRender
