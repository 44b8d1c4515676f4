import SqlRender.Proofs.Numeral

/-!
# Proofs/Lexer — reading the tokens of SQL text

`lex` is the lexer of the dialect. Blanks separate tokens; a quote is escaped by doubling it; a word
is a keyword if it is reserved in any case, and an identifier otherwise. Lexemes are read back from
their text if every token is one that the lexer knows and no token could go on into its neighbour
(`lex_chars`).
-/

namespace SqlRender

open Lexeme

/-! ## The lexer -/

/-- The content up to the closing quote, and what follows. A doubled quote stands for one. -/
def scanQuoted (q : Char) : List Char → Option (List Char × List Char)
  | [] => none
  | [c] => if c = q then some ([], []) else none
  | c :: d :: cs =>
    if c = q then
      if d = q then (scanQuoted q cs).map fun r => (q :: r.1, r.2) else some ([], d :: cs)
    else (scanQuoted q (d :: cs)).map fun r => (c :: r.1, r.2)

/-- The comparison operator at the front, the longest one. -/
def scanOperator : List Char → Option (String × List Char)
  | '=' :: cs => some ("=", cs)
  | '!' :: '=' :: cs => some ("!=", cs)
  | '<' :: '=' :: cs => some ("<=", cs)
  | '<' :: cs => some ("<", cs)
  | '>' :: '=' :: cs => some (">=", cs)
  | '>' :: cs => some (">", cs)
  | _ => none

/-- The word at the front, and what follows. -/
def scanWord (cs : List Char) : String × List Char :=
  (String.ofList (cs.takeWhile isWordChar), cs.dropWhile isWordChar)

/-- The characters that are tokens by themselves. -/
def isPunct (c : Char) : Bool := ['(', ')', ',', '.', '*'].contains c

/-- The token of a word. -/
def wordToken (w : String) : Token :=
  if reservedWords.contains (lowerCase w) then .keyword w else .ident w

/-- The token that starts with `c`. -/
def scanToken (c : Char) (cs : List Char) : Option (Token × List Char) :=
  if c = '\x60' then (scanQuoted c cs).map fun r => (.ident (String.ofList r.1), r.2)
  else if c = '\'' then (scanQuoted c cs).map fun r => (.str (String.ofList r.1), r.2)
  else if c = ':' then
    let r := scanWord cs
    if isWord r.1 then some (.bind r.1, r.2) else none
  else if isWordStart c then
    let r := scanWord (c :: cs)
    some (wordToken r.1, r.2)
  else if c = '-' || c.isDigit then
    (Numeral.scan (c :: cs)).map fun r => (.number (String.ofList r.1.chars), r.2)
  else if isPunct c then some (.punct c, cs)
  else (scanOperator (c :: cs)).map fun r => (.op r.1, r.2)

/-- The tokens of a text; each token is paid for by `fuel`. -/
def lexFrom : Nat → List Char → Option (List Token)
  | _, [] => some []
  | 0, _ :: _ => none
  | fuel + 1, c :: cs =>
    if c = ' ' then lexFrom fuel cs
    else
      match scanToken c cs with
      | none => none
      | some (t, rest) => (lexFrom fuel rest).map (t :: ·)

/-- The tokens of a text, if it has no other characters than theirs and blanks. -/
def lex (text : String) : Option (List Token) := lexFrom text.length text.toList

/-! ## Tokens that the lexer knows -/

/-- The operators that are no words. -/
def operators : List String := ["=", "!=", "<", "<=", ">", ">="]

/-- A token whose text the lexer takes for one token. -/
def Token.Known : Token → Prop
  | .keyword word => isWord word = true ∧ reservedWords.contains (lowerCase word) = true
  | .ident _ | .str _ => True
  | .number text => ∃ n : Numeral, n.chars = text.toList
  | .bind name => isWord name = true
  | .op text => text ∈ operators
  | .punct c => isPunct c = true

/-- A character that ends every token but, as a point, a number. -/
def isStop (c : Char) : Bool := c == ' ' || isPunct c

/-- What stands behind a token has nothing that would go on with it. -/
def Token.Ended (rest : List Char) : Token → Prop
  | .punct _ => True
  | .ident _ => ∀ c ∈ rest.head?, isStop c = true
  | _ => ∀ c ∈ rest.head?, isStop c = true ∧ c ≠ '.'

/-- The characters that end a token, one by one. -/
theorem isStop_cases {c : Char} (h : isStop c = true) :
    c = ' ' ∨ c = '(' ∨ c = ')' ∨ c = ',' ∨ c = '.' ∨ c = '*' := by
  simpa [isStop, isPunct] using h

/-- No character that ends a token can be part of a word. -/
theorem not_isWordChar_of_isStop {c : Char} (h : isStop c = true) : isWordChar c = false := by
  rcases isStop_cases h with rfl | rfl | rfl | rfl | rfl | rfl <;> decide

/-! ## Scanning one token back -/

/-- Doubled quotes are read as one, and the first single quote ends the string. -/
theorem scanQuoted_doubled (q : Char) {rest : List Char} (hrest : q ∉ rest.head?) :
    ∀ cs : List Char,
      scanQuoted q ((cs.flatMap fun c => if c = q then [q, q] else [c]) ++ q :: rest)
        = some (cs, rest)
  | [] => by
      cases rest with
      | nil => simp [scanQuoted]
      | cons d rest =>
        have hd : d ≠ q := fun h => hrest (by simp [h])
        simp [scanQuoted, hd]
  | c :: cs => by
      have ih := scanQuoted_doubled q hrest cs
      by_cases hc : c = q
      · simp [scanQuoted, hc, ih]
      · obtain ⟨d, ds, hds⟩ : ∃ d ds,
            (cs.flatMap fun c => if c = q then [q, q] else [c]) ++ q :: rest = d :: ds := by
          cases h : (cs.flatMap fun c => if c = q then [q, q] else [c]) ++ q :: rest with
          | nil => exact absurd h (by simp)
          | cons d ds => exact ⟨d, ds, rfl⟩
        rw [hds] at ih
        simp [scanQuoted, hc, hds, ih]

/-- A word is a letter or underscore and more word characters. -/
theorem exists_of_isWord {w : String} (h : isWord w = true) :
    ∃ c cs, w.toList = c :: cs ∧ isWordStart c = true ∧ ∀ d ∈ c :: cs, isWordChar d = true := by
  rw [isWord] at h
  split at h
  case h_1 => exact absurd h (by simp)
  case h_2 c cs hw =>
    obtain ⟨hstart, hrest⟩ := (Bool.and_eq_true _ _).mp h
    refine ⟨c, cs, hw, hstart, fun d hd => ?_⟩
    rcases List.mem_cons.mp hd with rfl | hd
    · simp only [isWordStart, isWordChar, Char.isAlphanum, Bool.or_eq_true] at hstart ⊢
      tauto
    · exact List.all_eq_true.mp hrest d hd

theorem scanWord_append {w : String} (hw : ∀ c ∈ w.toList, isWordChar c = true) {rest : List Char}
    (hrest : ∀ c ∈ rest.head?, isWordChar c = false) : scanWord (w.toList ++ rest) = (w, rest) := by
  obtain ⟨htake, hdrop⟩ := scan_stops hw hrest
  rw [scanWord, htake, hdrop, String.ofList_toList]

theorem toList_quoted (q : Char) (s : String) :
    (q.toString ++ doubled q s ++ q.toString).toList
      = q :: ((s.toList.flatMap fun c => if c = q then [q, q] else [c]) ++ [q]) := by
  simp [doubled]

/-- The first character of a word decides that it is one. -/
theorem scanToken_word {c : Char} (hc : isWordStart c = true) (cs : List Char) :
    scanToken c cs = some (wordToken (scanWord (c :: cs)).1, (scanWord (c :: cs)).2) := by
  have hback : c ≠ '\x60' := by rintro rfl; exact absurd hc (by decide)
  have hquote : c ≠ '\'' := by rintro rfl; exact absurd hc (by decide)
  have hcolon : c ≠ ':' := by rintro rfl; exact absurd hc (by decide)
  simp [scanToken, hback, hquote, hcolon, hc]

/-- A word is scanned up to a stop. -/
theorem scanToken_of_isWord {w : String} (hw : isWord w = true) {rest : List Char}
    (hrest : ∀ c ∈ rest.head?, isStop c = true) :
    ∃ c cs, w.toList = c :: cs ∧ c ≠ ' ' ∧ scanToken c (cs ++ rest) = some (wordToken w, rest) := by
  obtain ⟨c, cs, hcs, hstart, hall⟩ := exists_of_isWord hw
  have hscan := scanWord_append (hcs ▸ hall) fun d hd => not_isWordChar_of_isStop (hrest d hd)
  rw [hcs, List.cons_append] at hscan
  refine ⟨c, cs, hcs, ?_, ?_⟩
  · rintro rfl
    exact absurd hstart (by decide)
  · rw [scanToken_word hstart, hscan]

/-- A numeral starts with its sign or a digit. -/
theorem Numeral.exists_head (n : Numeral) :
    ∃ c cs, n.chars = c :: cs ∧ (c = '-' ∨ c.isDigit = true) := by
  rw [Numeral.chars]
  obtain ⟨negative, ⟨_ | ⟨c, cs⟩, hne, hall⟩, fraction, exponent⟩ := n
  · exact absurd rfl hne
  · cases negative
    · exact ⟨c, _, rfl, .inr (hall c (by simp))⟩
    · exact ⟨'-', _, rfl, .inl rfl⟩

/-- No word starts with a digit, so a number is told from a word at once. -/
theorem not_isWordStart_of_isDigit {c : Char} (h : c.isDigit = true) : isWordStart c = false := by
  have hdash : c ≠ '_' := by rintro rfl; exact absurd h (by decide)
  have hle : c.val.toNat ≤ 57 := (Char.isDigit_iff_toNat.mp h).2
  -- the letters come after the digits
  have hbelow : ∀ b : UInt32, 57 < b.toNat → ¬b ≤ c.val := by
    intro b hb
    rw [UInt32.le_iff_toNat_le]
    omega
  have hupper : c.isUpper = false := decide_eq_false fun hc => hbelow 'A'.val (by decide) hc.1
  have hlower : c.isLower = false :=
    congrArg (· && decide (c.val ≤ 'z'.val)) (decide_eq_false (hbelow 'a'.val (by decide)))
  have halpha : c.isAlpha = false := congrArg₂ or hupper hlower
  rw [isWordStart, halpha, Bool.false_or, beq_eq_false_iff_ne]
  exact hdash

/-- The first character of a number decides that it is one. -/
theorem scanToken_numeral {c : Char} (hc : c = '-' ∨ c.isDigit = true) (cs : List Char) :
    scanToken c cs
      = (Numeral.scan (c :: cs)).map fun r => (.number (String.ofList r.1.chars), r.2) := by
  have hback : c ≠ '\x60' := by rintro rfl; exact absurd hc (by decide)
  have hquote : c ≠ '\'' := by rintro rfl; exact absurd hc (by decide)
  have hcolon : c ≠ ':' := by rintro rfl; exact absurd hc (by decide)
  have hstart : isWordStart c = false := by
    rcases hc with rfl | hc
    · decide
    · exact not_isWordStart_of_isDigit hc
  simp [scanToken, hback, hquote, hcolon, hstart, hc]

/-- A number is scanned up to a stop that is no point. -/
theorem scanToken_of_numeral {text : String} {n : Numeral} (hn : n.chars = text.toList)
    {rest : List Char} (hrest : ∀ c ∈ rest.head?, isStop c = true ∧ c ≠ '.') :
    ∃ c cs, text.toList = c :: cs ∧ c ≠ ' ' ∧
      scanToken c (cs ++ rest) = some (.number text, rest) := by
  obtain ⟨c, cs, hcs, hc⟩ := n.exists_head
  have hend : Numeral.End rest := by
    intro d hd
    obtain ⟨hstop, hpoint⟩ := hrest d hd
    rcases isStop_cases hstop with rfl | rfl | rfl | rfl | rfl | rfl <;> simp_all
  have hscan := n.scan_chars hend
  rw [hcs, List.cons_append] at hscan
  refine ⟨c, cs, hn.symm.trans hcs, ?_, ?_⟩
  · rintro rfl
    exact absurd hc (by decide)
  · rw [scanToken_numeral hc, hscan, Option.map_some, hn, String.ofList_toList]

/-- Quoted text is scanned up to its closing quote. -/
theorem scanQuoted_append (q : Char) (s : String) {rest : List Char}
    (hrest : ∀ c ∈ rest.head?, isStop c = true) (hq : isStop q = false) :
    scanQuoted q ((s.toList.flatMap fun c => if c = q then [q, q] else [c]) ++ [q] ++ rest)
      = some (s.toList, rest) := by
  rw [List.append_assoc, List.singleton_append]
  exact scanQuoted_doubled q (fun h => absurd (hrest q h) (by simp [hq])) s.toList

/-- An operator is read to its end, unless an equals sign would make it longer. -/
theorem scanOperator_append {text : String} (h : text ∈ operators) {rest : List Char}
    (hrest : '=' ∉ rest.head?) : scanOperator (text.toList ++ rest) = some (text, rest) := by
  simp only [operators, List.mem_cons, List.not_mem_nil, or_false] at h
  rcases h with rfl | rfl | rfl | rfl | rfl | rfl
  all_goals
    cases rest with
    | nil => rfl
    | cons c rest =>
      have hc : c ≠ '=' := fun h => hrest (by simp [h])
      simp [scanOperator, hc]

/-- Operators are told by their first character. -/
theorem exists_of_operator {text : String} (h : text ∈ operators) :
    ∃ c cs, text.toList = c :: cs ∧ c ∈ ['=', '!', '<', '>'] := by
  simp only [operators, List.mem_cons, List.not_mem_nil, or_false] at h
  rcases h with rfl | rfl | rfl | rfl | rfl | rfl
  · exact ⟨'=', [], rfl, by decide⟩
  · exact ⟨'!', ['='], rfl, by decide⟩
  · exact ⟨'<', [], rfl, by decide⟩
  · exact ⟨'<', ['='], rfl, by decide⟩
  · exact ⟨'>', [], rfl, by decide⟩
  · exact ⟨'>', ['='], rfl, by decide⟩

/-- The first character of an operator decides that it is one. -/
theorem scanToken_operator {c : Char} (hc : c ∈ ['=', '!', '<', '>']) (cs : List Char) :
    scanToken c cs = (scanOperator (c :: cs)).map fun r => (.op r.1, r.2) := by
  simp only [List.mem_cons, List.not_mem_nil, or_false] at hc
  rcases hc with rfl | rfl | rfl | rfl <;> rfl

/-- **A known token is scanned back from its text.** -/
theorem scanToken_sql {t : Token} (hknown : t.Known) {rest : List Char} (hended : t.Ended rest) :
    ∃ c cs, t.sql.toList = c :: cs ∧ c ≠ ' ' ∧ scanToken c (cs ++ rest) = some (t, rest) := by
  cases t with
  | keyword w =>
    obtain ⟨hw, hreserved⟩ := hknown
    have hscan := scanToken_of_isWord hw fun c hc => (hended c hc).1
    rwa [wordToken, if_pos hreserved] at hscan
  | ident name =>
    rw [Token.sql]
    split
    case isTrue hplain =>
      rw [isPlainName, Bool.and_eq_true, Bool.not_eq_true'] at hplain
      have hscan := scanToken_of_isWord hplain.1 hended
      rwa [wordToken, if_neg (by rw [hplain.2]; decide)] at hscan
    case isFalse =>
      refine ⟨'\x60', _, toList_quoted '\x60' name, by decide, ?_⟩
      have hscan := scanQuoted_append '\x60' name hended (by decide)
      rw [scanToken, if_pos rfl, hscan, Option.map_some, String.ofList_toList]
  | str content =>
    refine ⟨'\'', _, toList_quoted '\'' content, by decide, ?_⟩
    have hscan := scanQuoted_append '\'' content (fun c hc => (hended c hc).1) (by decide)
    rw [scanToken, if_neg (by decide), if_pos rfl, hscan, Option.map_some, String.ofList_toList]
  | number text =>
    obtain ⟨n, hn⟩ := hknown
    exact scanToken_of_numeral hn hended
  | bind name =>
    obtain ⟨c, cs, hcs, _, hall⟩ := exists_of_isWord hknown
    have hscan := scanWord_append (hcs ▸ hall) fun d hd => not_isWordChar_of_isStop (hended d hd).1
    refine ⟨':', name.toList, by simp [Token.sql], by decide, ?_⟩
    have hname : isWord name = true := hknown
    simp [scanToken, hscan, hname]
  | op text =>
    have hscan := scanOperator_append hknown fun h => absurd (hended '=' h).1 (by decide)
    obtain ⟨c, cs, hcs, hc⟩ := exists_of_operator hknown
    rw [hcs, List.cons_append] at hscan
    refine ⟨c, cs, hcs, ?_, ?_⟩
    · rintro rfl
      exact absurd hc (by decide)
    · rw [scanToken_operator hc, hscan]
      rfl
  | punct c =>
    have hpunct : c = '(' ∨ c = ')' ∨ c = ',' ∨ c = '.' ∨ c = '*' := by
      simpa [Token.Known, isPunct] using hknown
    rcases hpunct with rfl | rfl | rfl | rfl | rfl <;> exact ⟨_, [], rfl, by decide, rfl⟩

/-! ## Reading lexemes back -/

/-- A lexeme that no token goes on into, or out of. -/
def Lexeme.isLoose : Lexeme → Bool
  | .blank | .token (.punct _) => true
  | .token _ => false

/-- Neighbours that the lexer keeps apart: one of them is a blank or punctuation, and a point has an
identifier or punctuation before it. -/
def Lexeme.apart : Lexeme → Lexeme → Bool
  | .blank, _ | .token (.punct _), _ => true
  | .token (.ident _), m => m.isLoose
  | .token _, m => m.isLoose && m ≠ punct '.'

/-- Lexemes that the lexer reads back. -/
structure Lexeme.Legible (ls : List Lexeme) : Prop where
  known : ∀ t ∈ tokens ls, t.Known
  apart : ls.IsChain fun l m => Lexeme.apart l m = true

/-- Behind a token that is apart from its neighbour, the text goes on with nothing of it. -/
theorem Lexeme.ended_of_apart {t : Token} : ∀ {ls : List Lexeme}, (∀ u ∈ tokens ls, u.Known) →
    (∀ m ∈ ls.head?, apart (.token t) m = true) → t.Ended (chars ls)
  | [], _, _ => by
      cases t <;> simp [Token.Ended]
  | m :: ls, hknown, hapart => by
      have hm := hapart m rfl
      -- the neighbour of a token that is no punctuation starts with a stop
      have hstop : m.isLoose = true → ∀ c ∈ (chars (m :: ls)).head?,
          isStop c = true ∧ (m ≠ punct '.' → c ≠ '.') := by
        intro hloose c hc
        cases m with
        | blank =>
          obtain rfl : ' ' = c := Option.some.inj hc
          exact ⟨rfl, fun _ => by decide⟩
        | token u =>
          cases u with
          | punct d =>
            obtain rfl : d = c := by simpa [Lexeme.sql, Token.sql] using hc
            have hd : isPunct d = true := hknown (.punct d) (by simp)
            exact ⟨by simp [isStop, hd], fun hne h => hne (by rw [h])⟩
          | _ => exact absurd hloose (by simp [isLoose])
      cases t with
      | punct d => trivial
      | ident name => exact fun c hc => (hstop hm c hc).1
      | _ =>
        have hm' := (Bool.and_eq_true _ _).mp hm
        exact fun c hc =>
          ⟨(hstop hm'.1 c hc).1, (hstop hm'.1 c hc).2 (of_decide_eq_true hm'.2)⟩

/-- **Legible lexemes are read back from their text.** -/
theorem lexFrom_chars : ∀ {ls : List Lexeme}, Legible ls → ∀ {fuel : Nat},
    (chars ls).length ≤ fuel → lexFrom fuel (chars ls) = some (tokens ls)
  | [], _, _, _ => by simp [lexFrom]
  | .blank :: ls, h, fuel, hfuel => by
      have hls : Legible ls := ⟨h.known, h.apart.tail⟩
      have hchars : chars (.blank :: ls) = ' ' :: chars ls := rfl
      rw [hchars] at hfuel ⊢
      obtain ⟨fuel, rfl⟩ := Nat.exists_eq_add_one_of_ne_zero (Nat.ne_zero_of_lt hfuel)
      rw [lexFrom, if_pos rfl, tokens_blank]
      exact lexFrom_chars hls (Nat.le_of_succ_le_succ hfuel)
  | .token t :: ls, h, fuel, hfuel => by
      have hls : Legible ls := ⟨fun u hu => h.known u (List.mem_cons_of_mem t hu), h.apart.tail⟩
      obtain ⟨c, cs, hcs, hblank, hscan⟩ := scanToken_sql (h.known t (by simp))
        (ended_of_apart hls.known h.apart.rel_head?)
      have hchars : chars (.token t :: ls) = c :: (cs ++ chars ls) := by
        rw [chars_cons, Lexeme.sql, hcs, List.cons_append]
      rw [hchars] at hfuel ⊢
      obtain ⟨fuel, rfl⟩ := Nat.exists_eq_add_one_of_ne_zero (Nat.ne_zero_of_lt hfuel)
      rw [List.length_cons, List.length_append] at hfuel
      rw [lexFrom, if_neg hblank, hscan, tokens_token]
      dsimp only
      rw [lexFrom_chars hls (by omega), Option.map_some]

/-- **Legible lexemes are read back from their text.** -/
theorem lex_chars {ls : List Lexeme} (h : Legible ls) :
    lex (String.ofList (chars ls)) = some (tokens ls) := by
  rw [lex, String.toList_ofList, String.length_ofList]
  exact lexFrom_chars h le_rfl

/-- One text has one list of tokens. -/
theorem tokens_eq_of_chars_eq {ls ls' : List Lexeme} (h : Legible ls) (h' : Legible ls')
    (heq : String.ofList (chars ls) = String.ofList (chars ls')) : tokens ls = tokens ls' := by
  have hlex := lex_chars h
  rw [heq, lex_chars h'] at hlex
  exact (Option.some.inj hlex).symm

end SqlRender
