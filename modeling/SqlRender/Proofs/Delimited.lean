import SqlRender.Proofs.Violations

/-!
# Proofs/Delimited — names and strings tell where they end

A quoted name and a string end at the first quote that is not doubled, and a plain name at the first
character that is in no word. So one of them is read back from the front of a text whatever follows
it, unless what follows goes on with it. For a plain name that is only half of the matter: it must
not be taken for a keyword either. `Node.shell` is a node without what it brings from the tree; its
text has the words of templates and operators and no others, and each of them is reserved
(`SqlTree.reserved_shell`), while no plain name is.
-/

namespace SqlRender

open Lexeme

/-! ## Reading a name or a string -/

/-- The name at the front, and what follows: a quoted run, or else the longest word. -/
def scanName : List Char → Option (String × List Char)
  | [] => none
  | c :: cs =>
    if c = '\x60' then (scanQuoted c cs).map fun r => (String.ofList r.1, r.2)
    else if isWordStart c then some (scanWord (c :: cs))
    else none

/-- The string at the front, and what follows. -/
def scanString : List Char → Option (String × List Char)
  | [] => none
  | c :: cs =>
    if c = '\'' then (scanQuoted c cs).map fun r => (String.ofList r.1, r.2) else none

/-- A reserved word, in whatever letter case. -/
def IsReserved (w : String) : Prop := ∃ r ∈ reservedWords, lowerCase r = lowerCase w

instance (w : String) : Decidable (IsReserved w) :=
  inferInstanceAs (Decidable (∃ r ∈ reservedWords, lowerCase r = lowerCase w))

/-- The reserved words are listed in lower case. -/
theorem lowerCase_of_mem {r : String} (h : r ∈ reservedWords) : lowerCase r = r := by
  have hall : ∀ r ∈ reservedWords, lowerCase r = r := by decide +kernel
  exact hall r h

/-- It is enough to look up the word in lower case, since the list is in lower case. -/
theorem isReserved_iff (w : String) :
    IsReserved w ↔ reservedWords.contains (lowerCase w) = true := by
  rw [List.contains_iff_mem]
  refine ⟨?_, fun h => ⟨_, h, lowerCase_of_mem h⟩⟩
  rintro ⟨r, hr, hw⟩
  rwa [← hw, lowerCase_of_mem hr]

/-- A name goes without quotes exactly if it is a word that is not reserved. -/
theorem isPlainName_iff (name : String) :
    isPlainName name = true ↔ isWord name = true ∧ ¬ IsReserved name := by
  rw [isPlainName, Bool.and_eq_true, Bool.not_eq_true', isReserved_iff, Bool.not_eq_true]

/-- What stands between quotes is read back, up to the first quote that is not doubled. -/
theorem scanQuoted_quoted (q : Char) (s : String) {rest : List Char} (hrest : q ∉ rest.head?) :
    ∃ cs, (q.toString ++ doubled q s ++ q.toString).toList ++ rest = q :: cs ∧
      (scanQuoted q cs).map (fun r => (String.ofList r.1, r.2)) = some (s, rest) := by
  refine ⟨_, by rw [toList_quoted, List.cons_append], ?_⟩
  rw [List.append_assoc, List.singleton_append, scanQuoted_doubled q hrest, Option.map_some,
    String.ofList_toList]

/-- **A name is read back** in front of anything that is no quote and in no word. -/
theorem scanName_sql (name : String) {rest : List Char}
    (hrest : ∀ c ∈ rest.head?, c ≠ '\x60' ∧ isWordChar c = false) :
    scanName ((Token.ident name).sql.toList ++ rest) = some (name, rest) := by
  rw [Token.sql]
  split
  case isTrue hplain =>
    obtain ⟨c, cs, hcs, hstart, hall⟩ := exists_of_isWord ((isPlainName_iff name).mp hplain).1
    have hscan := scanWord_append (hcs ▸ hall) fun d hd => (hrest d hd).2
    rw [hcs, List.cons_append] at hscan ⊢
    have hquote : c ≠ '\x60' := by rintro rfl; exact absurd hstart (by decide)
    rw [scanName, if_neg hquote, if_pos hstart, hscan]
  case isFalse =>
    obtain ⟨cs, hcs, hscan⟩ := scanQuoted_quoted '\x60' name fun h => absurd rfl (hrest _ h).1
    have hsql : ("\x60" ++ doubled '\x60' name ++ "\x60").toList ++ rest = '\x60' :: cs := hcs
    rw [hsql, scanName, if_pos rfl, hscan]

/-- **A string is read back** in front of anything that is no quote. -/
theorem scanString_sql (s : String) {rest : List Char} (hrest : '\'' ∉ rest.head?) :
    scanString ((Token.str s).sql.toList ++ rest) = some (s, rest) := by
  obtain ⟨cs, hcs, hscan⟩ := scanQuoted_quoted '\'' s hrest
  have hsql : (Token.str s).sql.toList ++ rest = '\'' :: cs := hcs
  rw [hsql, scanString, if_pos rfl, hscan]

/-- A name that is written without quotes is no reserved word. -/
theorem not_isReserved_sql {name : String}
    (h : '\x60' ∉ (Token.ident name).sql.toList.head?) : ¬ IsReserved (Token.ident name).sql := by
  rw [Token.sql] at h ⊢
  split at h
  case isTrue hplain =>
    rw [if_pos hplain]
    exact ((isPlainName_iff name).mp hplain).2
  case isFalse => exact absurd (by simp) h

/-! ## Words -/

/-- The longest runs of word characters. -/
def words (text : String) : List String :=
  ((text.toList.splitOnP fun c => !isWordChar c).filter (· ≠ [])).map String.ofList

/-- **Words split at every character that is in no word.** -/
theorem words_append_cons (cs ds : List Char) {c : Char} (hc : isWordChar c = false) :
    words (String.ofList (cs ++ c :: ds))
      = words (String.ofList cs) ++ words (String.ofList ds) := by
  simp only [words, String.toList_ofList]
  rw [List.splitOnP_append_cons cs ds (by simp [hc]), List.filter_append, List.map_append]

/-- A character that is in no word can be passed. -/
theorem words_cons {c : Char} (hc : isWordChar c = false) (cs : List Char) :
    words (String.ofList (c :: cs)) = words (String.ofList cs) := words_append_cons [] cs hc

theorem words_append_of_all {cs : List Char} (hcs : cs.all (fun c => !isWordChar c) = true)
    (ds : List Char) : words (String.ofList (cs ++ ds)) = words (String.ofList ds) := by
  induction cs with
  | nil => rfl
  | cons c cs ih =>
    rw [List.all_cons, Bool.and_eq_true, Bool.not_eq_true'] at hcs
    rw [List.cons_append, words_cons hcs.1, ih hcs.2]

theorem words_of_isWord {w : String} (hw : isWord w = true) : words w = [w] := by
  obtain ⟨c, cs, hcs, -, hall⟩ := exists_of_isWord hw
  have hsplit : w.toList.splitOnP (fun c => !isWordChar c) = [w.toList] :=
    List.splitOnP_eq_singleton fun d hd => by simp [hall d (hcs ▸ hd)]
  rw [words, hsplit, hcs, List.filter_cons_of_pos (by simp), ← hcs]
  simp

/-- A word ends where no word goes on. -/
theorem words_append {w : String} (hw : isWord w = true) {rest : List Char}
    (hrest : ∀ c ∈ rest.head?, isWordChar c = false) :
    words (String.ofList (w.toList ++ rest)) = w :: words (String.ofList rest) := by
  cases rest with
  | nil =>
    rw [List.append_nil, String.ofList_toList, words_of_isWord hw]
    rfl
  | cons c rest =>
    have hc := hrest c rfl
    rw [words_append_cons _ _ hc, words_cons hc, String.ofList_toList, words_of_isWord hw]
    rfl

/-- Lexemes of the grammar itself, none of which the lexer joins to its neighbour. -/
structure Lexeme.Rigid (ls : List Lexeme) : Prop where
  grammar : ls.all isGrammar = true
  apart : ls.IsChain fun l m => Lexeme.apart l m = true

instance (ls : List Lexeme) : Decidable (Rigid ls) :=
  decidable_of_iff (ls.all isGrammar = true ∧ ls.IsChain fun l m => Lexeme.apart l m = true)
    ⟨fun h => ⟨h.1, h.2⟩, fun h => ⟨h.grammar, h.apart⟩⟩

namespace Lexeme.Rigid

variable {l : Lexeme} {ls ms : List Lexeme}

theorem legible (h : Rigid ls) : Legible ls := .grammar h.grammar h.apart

theorem tail (h : Rigid (l :: ls)) : Rigid ls :=
  ⟨((Bool.and_eq_true _ _).mp h.grammar).2, h.apart.tail⟩

/-- Rigid lexemes can be put together where something loose stands between them. -/
theorem append (h : Rigid ls) (h' : Rigid ms)
    (hjoin : endsLoose ls = true ∨ startsLoose ms = true) : Rigid (ls ++ ms) where
  grammar := by
    rw [List.all_append, h.grammar, h'.grammar]
    rfl
  apart := (h.legible.append h'.legible hjoin).apart

theorem isPlain (h : Rigid ls) : ls.all Lexeme.isPlain = true := by
  refine List.all_eq_true.mpr fun l hl => ?_
  have hgrammar := List.all_eq_true.mp h.grammar l hl
  cases l with
  | blank => rfl
  | token t =>
    cases t with
    | keyword | op | punct | ident => rfl
    | str | number | bind => exact hgrammar

end Lexeme.Rigid

/-- The words of lexemes of the grammar are their keywords. -/
theorem keyword_of_mem_words : ∀ {ls : List Lexeme}, Rigid ls →
    ∀ w ∈ words (String.ofList (chars ls)), .keyword w ∈ tokens ls
  | [], _, _, hw => nomatch hw
  | l :: ls, h, w, hw => by
      have ih := keyword_of_mem_words h.tail w
      rw [chars_cons] at hw
      cases l with
      | blank => exact ih (by rwa [words_append_of_all rfl] at hw)
      | token t =>
        have hknown := h.legible.known t (by simp)
        have hended := ended_of_apart h.tail.legible.known h.apart.rel_head?
        cases t with
        | keyword v =>
          rw [Lexeme.sql, Token.sql, words_append hknown.1
            fun c hc => not_isWordChar_of_isStop (hended c hc).1] at hw
          rcases List.mem_cons.mp hw with rfl | hw
          · simp
          · exact List.mem_cons_of_mem _ (ih hw)
        | op text =>
          refine List.mem_cons_of_mem _ (ih ?_)
          have hall : (operators.all fun op => op.toList.all fun c => !isWordChar c) = true := rfl
          rwa [Lexeme.sql, Token.sql,
            words_append_of_all (List.all_eq_true.mp hall text hknown)] at hw
        | punct c =>
          refine List.mem_cons_of_mem _ (ih ?_)
          have hpunct : isPunct c = true := hknown
          have hc : isWordChar c = false := not_isWordChar_of_isStop (by simp [isStop, hpunct])
          rwa [words_append_of_all (by simp [Lexeme.sql, Token.sql, hc])] at hw
        | ident | str | number | bind => exact absurd h.grammar (by simp [isGrammar])

/-! ## Shells

What a node writes itself: its templates, and the operators that it hands to them. The parts of the
tree, which write themselves, and the literals are left out. -/

/-- A node in the place of a part of the tree. It writes a blank. -/
def Node.gap : Node := ⟨"gap", [Call.text " "]⟩

/-- The argument for a marker, without what it brings from the tree. -/
def Arg.shell : Option Char → Arg → Arg
  | _, .node _ => .node .gap
  | some 'a', .str _ => .str " "
  | _, arg => arg

/-- A call without what its arguments bring from the tree. -/
def Call.shell : Call → Call
  | ⟨template, args⟩ =>
    ⟨template, (Slots.ofTemplate template).slots.zipWith (fun s arg => arg.shell s.marker) args⟩

/-- A node as it would write over any other tree of its type. -/
def Node.shell : Node → Node
  | ⟨type, calls⟩ => ⟨type, calls.map Call.shell⟩

/-! ## Calls with fixed shells

Whatever the tree, the shells of its calls write lexemes of the grammar. Most of them begin with a
blank or with punctuation and may stand behind anything (`Call.Trails`); the others are the keywords
that a node begins with (`Call.Leads`). -/

/-- The shells of the calls write `ls`. -/
structure Call.Fixed (cs : List Call) (ls : List Lexeme) : Prop where
  writes : (Call.emissions (cs.map Call.shell)).Writes ls
  rigid : Rigid ls

theorem Node.gap_writes : Node.gap.emission.Writes [.blank] :=
  Node.writes_of_calls (Call.writes_singleton (Call.writes_text [.blank] rfl rfl))

namespace Call.Fixed

variable {cs ds : List Call} {ls ms : List Lexeme}

theorem nil : Fixed [] [] := ⟨Call.writes_nil, by decide⟩

/-- Fixed calls can be put together where their lexemes can. -/
theorem append (h : Fixed cs ls) (h' : Fixed ds ms)
    (hjoin : endsLoose ls = true ∨ startsLoose ms = true) : Fixed (cs ++ ds) (ls ++ ms) where
  writes := by
    rw [List.map_append]
    exact Call.writes_append h.writes h'.writes
  rigid := h.rigid.append h'.rigid hjoin

/-- One call is fixed if its shell writes rigid lexemes. -/
theorem single {c : Call} (h : c.shell.emission.Writes ls) (hls : Rigid ls) : Fixed [c] ls :=
  ⟨Call.writes_singleton h, hls⟩

theorem text {template : String} (ls : List Lexeme)
    (hcut : Slots.ofTemplate template = ⟨[], chars ls⟩) (hls : Rigid ls) :
    Fixed [Call.text template] ls := by
  have hshell : (Call.text template).shell = Call.text template := by
    simp [Call.shell, Call.text]
  refine single ?_ hls
  rw [hshell]
  exact Call.writes_text ls hcut hls.isPlain

theorem string {s : String} (ls : List Lexeme) (hs : s.toList = chars ls) (hls : Rigid ls) :
    Fixed [⟨"%s", [.str s]⟩] ls := single (Call.writes_string ls hs hls.isPlain) hls

/-- A template around one part. -/
theorem one {template : String} {n : Node} (before after : List Lexeme) {offset : Nat}
    (hcut : Slots.ofTemplate template = ⟨[⟨chars before, offset, some 'v'⟩], chars after⟩)
    (hls : Rigid (before ++ (.blank :: after))) :
    Fixed [Call.one template n] (before ++ (.blank :: after)) := by
  have hshell : (Call.one template n).shell = Call.one template .gap := by
    rw [Call.one, Call.shell, hcut]
    rfl
  have hplain := hls.isPlain
  rw [List.all_append, List.all_cons, Bool.and_eq_true, Bool.and_eq_true] at hplain
  refine single ?_ hls
  rw [hshell]
  exact Call.writes_one template before after hcut hplain.1 hplain.2.2 Node.gap_writes

/-- Another node leaves a gap. -/
theorem part {n : Node} : Fixed [Call.one "%v" n] [.blank] := one [] [] rfl (by decide)

/-- A comma list of parts. -/
theorem list : ∀ nodes : List Node,
    Fixed (Node.list nodes) (commaList (nodes.map fun _ => [.blank]))
  | [] => nil
  | [_] => part
  | n :: m :: rest => by
      have hcomma : Fixed [⟨"%s", [.str ", "]⟩] [punct ',', .blank] :=
        string _ rfl (by decide)
      exact (part.append hcomma (.inl rfl)).append (list (m :: rest)) (.inl rfl)

end Call.Fixed

theorem startsLoose_commaList_blank {α : Type} : ∀ as : List α,
    startsLoose (commaList (as.map fun _ => [.blank])) = true
  | [] => rfl
  | [_] => rfl
  | _ :: _ :: _ => rfl

theorem startsLoose_append {ls ms : List Lexeme} (hls : startsLoose ls = true)
    (hms : startsLoose ms = true) : startsLoose (ls ++ ms) = true := by
  cases ls with
  | nil => exact hms
  | cons l ls => exact hls

/-- Calls with fixed shells that are kept apart from whatever is in front of them. -/
def Call.Trails (cs : List Call) : Prop := ∃ ls, Call.Fixed cs ls ∧ startsLoose ls = true

namespace Call.Trails

variable {cs ds : List Call} {ls : List Lexeme}

theorem nil : Trails [] := ⟨[], .nil, rfl⟩

theorem append (h : Trails cs) (h' : Trails ds) : Trails (cs ++ ds) := by
  obtain ⟨ls, hls, hstarts⟩ := h
  obtain ⟨ms, hms, hstarts'⟩ := h'
  exact ⟨ls ++ ms, hls.append hms (.inr hstarts'), startsLoose_append hstarts hstarts'⟩

/-- A list of nodes leaves gaps with commas between them. -/
theorem list (nodes : List Node) : Trails (Node.list nodes) :=
  ⟨_, .list nodes, startsLoose_commaList_blank nodes⟩

/-- A template around one part, if there is one. -/
theorem option {α : Type} {template : String} (keywords : List Lexeme) {offset : Nat}
    (hcut : Slots.ofTemplate template
      = ⟨[⟨chars (.blank :: keywords), offset, some 'v'⟩], chars []⟩)
    (hls : Rigid (.blank :: keywords ++ [.blank])) (node : α → Node) (a : Option α) :
    Trails (a.toList.map fun a => Call.one template (node a)) := by
  cases a with
  | none => exact nil
  | some a => exact ⟨_, .one (.blank :: keywords) [] hcut hls, rfl⟩

/-- Keywords and a comma list of parts, if there are any. -/
theorem clause {template : String} (keywords : List Lexeme)
    (hcut : Slots.ofTemplate template = ⟨[], chars (.blank :: keywords)⟩)
    (hls : Rigid (.blank :: keywords)) (nodes : List Node) :
    Trails (clauseCalls template nodes) := by
  rw [clauseCalls]
  split
  · exact nil
  · exact ⟨_, (Fixed.text _ hcut hls).append (.list nodes)
      (.inr (startsLoose_commaList_blank nodes)), rfl⟩

theorem cons {c : Call} (h : Trails [c]) (h' : Trails cs) : Trails (c :: cs) := h.append h'

end Call.Trails

/-- Calls with fixed shells. -/
def Call.Leads (cs : List Call) : Prop := ∃ ls, Call.Fixed cs ls

/-- Calls that may stand anywhere may stand in front. -/
theorem Call.Trails.leads {cs : List Call} : Trails cs → Leads cs
  | ⟨ls, h, _⟩ => ⟨ls, h⟩

/-- Calls that trail may stand behind any that lead. -/
theorem Call.Leads.append {cs ds : List Call} (h : Leads cs) (h' : Trails ds) :
    Leads (cs ++ ds) := by
  obtain ⟨ls, hls⟩ := h
  obtain ⟨ms, hms, hstarts⟩ := h'
  exact ⟨ls ++ ms, hls.append hms (.inr hstarts)⟩

theorem Call.Leads.cons {c : Call} {cs : List Call} (h : Leads [c]) (h' : Trails cs) :
    Leads (c :: cs) := h.append h'

open Call (Fixed Trails Leads)

/-! ### Expressions -/

theorem trails_qualifiedCalls (qualifier : Option Ident) (name : Ident) :
    Trails (qualifiedCalls qualifier name) := by
  cases qualifier with
  | none => exact ⟨_, .part, rfl⟩
  | some q => exact Trails.cons ⟨_, .one [] [punct '.'] rfl (by decide), rfl⟩ ⟨_, .part, rfl⟩

theorem trails_aliasCalls (asName : Option Ident) : Trails (aliasCalls asName) :=
  .option [word "AS", .blank] rfl (by decide) Ident.node asName

theorem trails_filterCalls (filter : Option Expr) : Trails (filterCalls filter) :=
  .option [word "WHERE", .blank] rfl (by decide) Expr.node filter

theorem trails_operandCall (e : Expr) (least : Precedence) (n : Node) :
    Trails [operandCall e least n] := by
  rw [operandCall]
  split
  · exact ⟨_, .one [punct '('] [punct ')'] rfl (by decide), rfl⟩
  · exact ⟨_, .part, rfl⟩

theorem Comparison.trails (op : Comparison) : Trails [⟨" %s ", [.str op.sql]⟩] :=
  ⟨_, .single op.writes (by cases op <;> decide), rfl⟩

/-- Whatever an expression is made of, what it writes itself are grammar and gaps. -/
theorem Expr.leads (e : Expr) : Leads e.calls := by
  have hclose : Trails [Call.text ")"] := ⟨_, .text [punct ')'] rfl (by decide), rfl⟩
  have hoperand := trails_operandCall
  cases e with
  | column | literal | bind | func =>
    rw [Expr.calls]
    exact ⟨_, .part⟩
  | null =>
    rw [Expr.calls]
    exact ⟨_, .text [word "NULL"] rfl (by decide)⟩
  | comparison left op right =>
    rw [Expr.calls]
    exact (Trails.cons (hoperand ..) (.cons op.trails (hoperand ..))).leads
  | and left right =>
    have hand : Trails [Call.text " AND "] :=
      ⟨_, .text [.blank, word "AND", .blank] rfl (by decide), rfl⟩
    rw [Expr.calls]
    exact (Trails.cons (hoperand ..) (.cons hand (hoperand ..))).leads
  | or left right =>
    have hor : Trails [Call.text " OR "] :=
      ⟨_, .text [.blank, word "OR", .blank] rfl (by decide), rfl⟩
    rw [Expr.calls]
    exact (Trails.cons (hoperand ..) (.cons hor (hoperand ..))).leads
  | not e =>
    have hnot : Leads [Call.text "NOT "] := ⟨_, .text [word "NOT", .blank] rfl (by decide)⟩
    rw [Expr.calls]
    exact hnot.cons (hoperand ..)
  | paren e =>
    rw [Expr.calls]
    exact ⟨_, .one [punct '('] [punct ')'] rfl (by decide)⟩
  | isIn e negated list =>
    rw [Expr.calls]
    refine (Trails.append (.append (.cons (hoperand ..) ?_) (.list _)) hclose).leads
    cases negated
    · exact ⟨_, .string [.blank, word "IN", .blank, punct '('] rfl (by decide), rfl⟩
    · exact ⟨_, .string [.blank, word "NOT", .blank, word "IN", .blank, punct '('] rfl
        (by decide), rfl⟩
  | isNull e negated =>
    rw [Expr.calls]
    refine (Trails.cons (hoperand ..) ?_).leads
    cases negated
    · exact ⟨_, .string [.blank, word "IS", .blank, word "NULL"] rfl (by decide), rfl⟩
    · exact ⟨_, .string [.blank, word "IS", .blank, word "NOT", .blank, word "NULL"] rfl
        (by decide), rfl⟩

/-- The name of a function is a part of its own, so only punctuation and `DISTINCT` are left. -/
theorem FuncCall.leads (f : FuncCall) : Leads f.calls := by
  obtain ⟨name, distinct, args⟩ := f
  have hopen : Fixed [Call.one "%v(" name.node] [.blank, punct '('] :=
    .one [] [punct '('] rfl (by decide)
  have hdistinct : Leads ([Call.one "%v(" name.node] ++
      (if distinct then [Call.text "DISTINCT "] else [])) := by
    cases distinct
    · exact ⟨_, hopen⟩
    · exact ⟨_, hopen.append (.text [word "DISTINCT", .blank] rfl (by decide)) (.inl rfl)⟩
  have hclose : Trails [⟨"%c", [.byte 0x29]⟩] :=
    ⟨_, .single (Call.writes_bare .charLiteral rfl (.copy [punct ')'] rfl)) (by decide), rfl⟩
  rw [FuncCall.calls]
  exact (hdistinct.append (.list _)).append hclose

theorem SelectItem.leads (i : SelectItem) : Leads i.calls := by
  cases i with
  | star =>
    rw [SelectItem.calls]
    exact ⟨_, .single (Call.writes_bare .charLiteral rfl (.copy [punct '*'] rfl)) (by decide)⟩
  | qualifiedStar table =>
    rw [SelectItem.calls]
    exact ⟨_, .one [] [punct '.', punct '*'] rfl (by decide)⟩
  | expr e asName =>
    rw [SelectItem.calls]
    exact Leads.cons ⟨_, .part⟩ (trails_aliasCalls asName)

/-! ### Clauses and statements -/

theorem OrderItem.leads (o : OrderItem) : Leads o.node.calls := by
  refine Leads.cons ⟨_, .part⟩ ?_
  split
  · exact ⟨_, .text [.blank, word "DESC"] rfl (by decide), rfl⟩
  · exact .nil

theorem Limit.leads (l : Limit) : Leads l.node.calls :=
  Leads.cons ⟨_, .one [word "LIMIT", .blank] [] rfl (by decide)⟩
    (.option [word "OFFSET", .blank] rfl (by decide) Expr.node l.offset)

theorem Assignment.leads (a : Assignment) : Leads a.node.calls := by
  have hcut : Slots.ofTemplate "%v = %v"
      = ⟨[⟨chars [], 0, some 'v'⟩, ⟨chars [.blank, .token (.op "="), .blank], 5, some 'v'⟩],
          chars []⟩ := rfl
  have hshell : (Call.emission ⟨"%v = %v", [.node .gap, .node .gap]⟩).Writes
      ([] ++ ([.blank] ++ ([.blank, .token (.op "="), .blank] ++ ([.blank] ++ [])))) :=
    Call.writes_filled hcut (Arg.writes_filled_cons [] .subNode rfl Node.gap_writes
      (Arg.writes_filled_cons [.blank, .token (.op "="), .blank] .subNode rfl Node.gap_writes
        (Arg.writes_filled_nil [] 2 rfl)))
  exact ⟨_, .single hshell (by decide)⟩

theorem Row.leads (r : Row) : Leads r.node.calls := by
  have hopen : Leads [Call.text "("] := ⟨_, .text [punct '('] rfl (by decide)⟩
  have hclose : Trails [Call.text ")"] := ⟨_, .text [punct ')'] rfl (by decide), rfl⟩
  exact (hopen.append (.list (r.values.map Expr.node))).append hclose

/-- Of a query, the keywords of its clauses are left. -/
theorem Select.leads (s : Select) : Leads s.node.calls := by
  have hselect : Fixed [Call.text "SELECT "] [word "SELECT", .blank] := .text _ rfl (by decide)
  have hdistinct : Leads ([Call.text "SELECT "] ++
      (if s.distinct then [Call.text "DISTINCT "] else [])) := by
    cases s.distinct
    · exact ⟨_, hselect⟩
    · exact ⟨_, hselect.append (.text [word "DISTINCT", .blank] rfl (by decide)) (.inl rfl)⟩
  exact Leads.append (.append (.append (.append (.append (.append (.append hdistinct
    (.list _))
    (.clause [word "FROM", .blank] rfl (by decide) _))
    (trails_filterCalls s.filter))
    (.clause [word "GROUP", .blank, word "BY", .blank] rfl (by decide) _))
    (.option [word "HAVING", .blank] rfl (by decide) Expr.node s.having))
    (.clause [word "ORDER", .blank, word "BY", .blank] rfl (by decide) _))
    (.option [] rfl (by decide) Limit.node s.limit)

theorem Insert.leads (s : Insert) : Leads s.node.calls := by
  have hinsert : Leads [Call.one "INSERT INTO %v" s.table.node] :=
    ⟨_, .one [word "INSERT", .blank, word "INTO", .blank] [] rfl (by decide)⟩
  have hcolumns : Trails (if s.columns.isEmpty then []
      else [Call.text " ("] ++ Node.list (s.columns.map Ident.node) ++ [Call.text ")"]) := by
    split
    · exact .nil
    · exact .append (.append ⟨_, .text [.blank, punct '('] rfl (by decide), rfl⟩ (.list _))
        ⟨_, .text [punct ')'] rfl (by decide), rfl⟩
  have hvalues : Trails [Call.text " VALUES "] :=
    ⟨_, .text [.blank, word "VALUES", .blank] rfl (by decide), rfl⟩
  exact ((hinsert.append hcolumns).append hvalues).append (.list (s.rows.map Row.node))

theorem Update.leads (s : Update) : Leads s.node.calls := by
  have hupdate : Leads [Call.one "UPDATE %v SET " s.table.node] :=
    ⟨_, .one [word "UPDATE", .blank] [.blank, word "SET", .blank] rfl (by decide)⟩
  exact (hupdate.append (.list (s.assignments.map Assignment.node))).append
    (trails_filterCalls s.filter)

theorem Delete.leads (s : Delete) : Leads s.node.calls :=
  Leads.cons ⟨_, .one [word "DELETE", .blank, word "FROM", .blank] [] rfl (by decide)⟩
    (trails_filterCalls s.filter)

/-! ### Trees of every kind -/

/-- **All words that a node writes itself are reserved.** -/
theorem Node.reserved_shell {n : Node} (h : Leads n.calls) :
    ∃ text, n.shell.text = .ok text ∧ ∀ w ∈ words text, IsReserved w := by
  obtain ⟨type, calls⟩ := n
  obtain ⟨ls, hls⟩ := h
  refine ⟨_, Node.text_eq (Node.writes_of_calls hls.writes), fun w hw => ?_⟩
  have hkeyword := keyword_of_mem_words hls.rigid w hw
  exact (isReserved_iff w).mpr (hls.rigid.legible.known _ hkeyword).2

/-- The shell of a literal is a blank. -/
theorem reserved_shell_tracked (type text : String) :
    ∃ shown, (Node.mk type [Call.tracked text]).shell.text = .ok shown ∧
      ∀ w ∈ words shown, IsReserved w := by
  have hblank : (Call.tracked " ").emission.Writes [.token (.number " ")] :=
    Call.writes_tracked (t := .number " ") rfl
  exact ⟨_, Node.text_eq (Node.writes_of_calls (Call.writes_singleton hblank)), by decide +kernel⟩

/-- **The words that a node writes itself are reserved**, whatever kind of tree it writes. -/
theorem SqlTree.reserved_shell (t : SqlTree) (hname : ∀ i, t ≠ .ident i) :
    ∃ text, t.node.shell.text = .ok text ∧ ∀ w ∈ words text, IsReserved w := by
  cases t with
  | ident i => exact absurd rfl (hname i)
  | literal | bind => exact reserved_shell_tracked _ _
  | column c => exact Node.reserved_shell (trails_qualifiedCalls c.qualifier c.name).leads
  | table t => exact Node.reserved_shell (trails_qualifiedCalls t.qualifier t.name).leads
  | tableExpr t =>
    exact Node.reserved_shell (Leads.cons ⟨_, .part⟩ (trails_aliasCalls t.asName))
  | func f => exact Node.reserved_shell f.leads
  | expr e => exact Node.reserved_shell e.leads
  | item i => exact Node.reserved_shell i.leads
  | order o => exact Node.reserved_shell o.leads
  | limit l => exact Node.reserved_shell l.leads
  | assignment a => exact Node.reserved_shell a.leads
  | row r => exact Node.reserved_shell r.leads
  | select s => exact Node.reserved_shell s.leads
  | insert s => exact Node.reserved_shell s.leads
  | update s => exact Node.reserved_shell s.leads
  | delete s => exact Node.reserved_shell s.leads
  | statement s => cases s <;> exact Node.reserved_shell ⟨_, .part⟩

/-! ## Main statement -/

/-- **Names and strings are read back from the front of any text, and no plain name is a keyword.**
A name renders to a text that, in front of anything that does not begin with a backtick, a letter, a
digit or an underscore, is read as that name, and what stands behind it is left. If it is written
without quotes it is no reserved word in any letter case, while all words of the templates and
operators of all kinds of trees are reserved. A string renders to a text that is read as that string
in front of anything that does not begin with a quote. -/
theorem names_and_strings_delimited :
    (∀ (name : String) (rest : List Char),
      (∀ c ∈ rest.head?, c ≠ '\x60' ∧ ¬ (IsLetter c ∨ IsDecimalDigit c ∨ c = '_')) →
        ∃ text, (Ident.mk name).node.text = .ok text ∧
          scanName (text.toList ++ rest) = some (name, rest) ∧
          ('\x60' ∉ text.toList.head? → ¬ IsReserved text)) ∧
    (∀ t : SqlTree, (∀ i, t ≠ .ident i) →
      ∃ text, t.node.shell.text = .ok text ∧ ∀ w ∈ words text, IsReserved w) ∧
    ∀ (s : String) (rest : List Char), '\'' ∉ rest.head? →
      ∃ text, (Literal.str s).node.text = .ok text ∧
        scanString (text.toList ++ rest) = some (s, rest) := by
  have hsql : ∀ t : Token, String.ofList (chars [.token t]) = t.sql := fun t => by
    rw [chars_cons, chars_nil, List.append_nil, String.ofList_toList, Lexeme.sql]
  refine ⟨fun name rest hrest => ?_, SqlTree.reserved_shell, fun s rest hrest => ?_⟩
  · have hends : ∀ c ∈ rest.head?, c ≠ '\x60' ∧ isWordChar c = false := fun c hc =>
      ⟨(hrest c hc).1, Bool.not_eq_true _ ▸ mt (isWordChar_iff c).mp (hrest c hc).2⟩
    have htext := Node.text_eq (Ident.mk name).writes
    rw [Ident.lexeme, hsql] at htext
    exact ⟨_, htext, scanName_sql name hends, not_isReserved_sql⟩
  · have htext := Node.text_eq (Literal.str s).writes
    rw [Literal.token, hsql] at htext
    exact ⟨_, htext, scanString_sql s hrest⟩

/-- A name and a string that hold their own quotes, each in front of what could open another, a
plain name that begins like a keyword, and an operator of two keywords. -/
theorem names_and_strings_delimited_doubled :
    scanName "\x60or\x60\x60der\x60'".toList = some ("or\x60der", ['\'']) ∧
    scanName "Orders(".toList = some ("Orders", ['(']) ∧ ¬ IsReserved "Orders" ∧
    (SqlTree.expr (.comparison .null .notLike .null)).node.shell.text = .ok "  NOT LIKE  " ∧
    words "  NOT LIKE  " = ["NOT", "LIKE"] ∧ IsReserved "NOT" ∧ IsReserved "LIKE" ∧
    scanString "'''it''s'''\x60".toList = some ("'it's'", ['\x60']) := by
  obtain ⟨hnames, hwords, hstrings⟩ := names_and_strings_delimited
  obtain ⟨_, hquoted, hscanQuoted, -⟩ := hnames "or\x60der" ['\'']
    (by simp [IsLetter, IsDecimalDigit])
  obtain ⟨_, hplain, hscanPlain, hreserved⟩ := hnames "Orders" ['(']
    (by simp [IsLetter, IsDecimalDigit])
  obtain ⟨_, hshell, hall⟩ := hwords (.expr (.comparison .null .notLike .null)) (by simp)
  obtain ⟨_, hstring, hscanString⟩ := hstrings "'it's'" ['\x60'] (by decide)
  have hquotedText : (Ident.mk "or\x60der").node.text = .ok "\x60or\x60\x60der\x60" := by
    decide +kernel
  have hplainText : (Ident.mk "Orders").node.text = .ok "Orders" := by decide +kernel
  have hshellText : (SqlTree.expr (.comparison .null .notLike .null)).node.shell.text
      = .ok "  NOT LIKE  " := by decide +kernel
  have hstringText : (Literal.str "'it's'").node.text = .ok "'''it''s'''" := by decide +kernel
  have htwo : words "  NOT LIKE  " = ["NOT", "LIKE"] := by decide
  obtain rfl := Except.ok.inj (hquoted.symm.trans hquotedText)
  obtain rfl := Except.ok.inj (hplain.symm.trans hplainText)
  obtain rfl := Except.ok.inj (hshell.symm.trans hshellText)
  obtain rfl := Except.ok.inj (hstring.symm.trans hstringText)
  rw [htwo] at hall
  exact ⟨hscanQuoted, hscanPlain, hreserved (by decide), hshell, htwo, hall _ (by simp),
    hall _ (by simp), hscanString⟩

end SqlRender
