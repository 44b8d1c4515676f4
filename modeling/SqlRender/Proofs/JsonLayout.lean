import SqlRender.Proofs.JsonText

/-!
# Proofs/JsonLayout — a JSON value is read back from its text, however it is laid out

The compact and the pretty text of a value differ in the blanks between their tokens, and a reader
skips blanks. A `Spacing` says which blanks are set; `typeset` is the text of a value with them, and
both texts are instances (`typeset_compact`, `typeset_pretty`). One induction over the value reads
any of them back in front of any text that goes on with something else (`readsBack`).
-/

namespace SqlRender

open Reading

namespace Json

/-- The blanks in a text: in front of what starts on a level, and behind a colon. -/
structure Spacing where
  line : Nat → List Char
  colon : List Char
  line_blank : ∀ level, ∀ c ∈ line level, isSpace c = true
  colon_blank : ∀ c ∈ colon, isSpace c = true

namespace Spacing

/-- No blanks. -/
def compact : Spacing := ⟨fun _ => [], [], by simp, by simp⟩

/-- A line for everything that starts, and a blank behind a colon. -/
def pretty : Spacing where
  line level := '\n' :: List.replicate (2 * level) ' '
  colon := [' ']
  line_blank level := by simp [isSpace]
  colon_blank := by simp [isSpace]

@[simp] theorem compact_line (level : Nat) : compact.line level = [] := rfl

@[simp] theorem compact_colon : compact.colon = [] := rfl

@[simp] theorem pretty_colon : pretty.colon = [' '] := rfl

@[simp] theorem toList_newline (level : Nat) : (newline level).toList = pretty.line level := by
  simp [newline, pretty]

end Spacing

/-- The text of a key behind its opening quote, and the colon. -/
def keyChars (key : String) : List Char := key.toList.flatMap escapeChar ++ ['"', ':']

section Typeset

variable (s : Spacing)

mutual

/-- The text of a value on a level. Without items there is nothing to set blanks between. -/
def typeset (level : Nat) : Json → List Char
  | .array (v :: vs) =>
    '[' :: (s.line (level + 1) ++ (typesetItems (level + 1) (v :: vs) ++ (s.line level ++ [']'])))
  | .object (m :: ms) =>
    '\x7b' :: (s.line (level + 1) ++
      '"' :: (typesetMembers (level + 1) (m :: ms) ++ (s.line level ++ ['\x7d'])))
  | v => v.compact.toList

/-- The items of an array on a level, with a comma and a break between neighbours. -/
def typesetItems (level : Nat) : List Json → List Char
  | [] => []
  | [v] => typeset level v
  | v :: vs => typeset level v ++ ',' :: (s.line level ++ typesetItems level vs)

/-- The members behind the quote of the first key. -/
def typesetMembers (level : Nat) : List (String × Json) → List Char
  | [] => []
  | [(key, v)] => keyChars key ++ (s.colon ++ typeset level v)
  | (key, v) :: ms =>
    keyChars key ++ (s.colon ++ (typeset level v ++
      ',' :: (s.line level ++ '"' :: typesetMembers level ms)))

end

end Typeset

/-! ## The two layouts -/

section Layouts

variable {vs : List Json} {ms : List (String × Json)} (level : Nat)

/-- Items without blanks are the items of the compact text. -/
theorem typesetItems_compact
    (h : ∀ v ∈ vs, ∀ level, typeset .compact level v = v.compact.toList) :
    typesetItems .compact level vs = (compactItems vs).toList := by
  induction vs with
  | nil => rfl
  | cons v vs ih =>
    have hv := h v (by simp) level
    cases vs with
    | nil => exact hv
    | cons w vs =>
      have hrest := ih fun x hx => h x (List.mem_cons_of_mem v hx)
      have htext : compactItems (v :: w :: vs) = v.compact ++ "," ++ compactItems (w :: vs) := rfl
      have htypeset : typesetItems .compact level (v :: w :: vs)
          = typeset .compact level v ++ ',' :: typesetItems .compact level (w :: vs) := rfl
      rw [htypeset, htext, hv, hrest]
      simp

theorem typesetMembers_compact
    (h : ∀ m ∈ ms, ∀ level, typeset .compact level m.2 = m.2.compact.toList) (hne : ms ≠ []) :
    '"' :: typesetMembers .compact level ms = (compactMembers ms).toList := by
  induction ms with
  | nil => exact absurd rfl hne
  | cons m ms ih =>
    obtain ⟨key, v⟩ := m
    have hv : typeset .compact level v = v.compact.toList := h (key, v) (by simp) level
    cases ms with
    | nil => simp [typesetMembers, compactMembers, hv, keyChars, quote]
    | cons m ms =>
      have hrest := ih (fun x hx => h x (List.mem_cons_of_mem _ hx)) (List.cons_ne_nil m ms)
      have htext : compactMembers ((key, v) :: m :: ms)
          = quote key ++ ":" ++ v.compact ++ "," ++ compactMembers (m :: ms) := rfl
      have htypeset : typesetMembers .compact level ((key, v) :: m :: ms)
          = keyChars key ++ (typeset .compact level v ++
            ',' :: '"' :: typesetMembers .compact level (m :: ms)) := rfl
      rw [htypeset, htext, hv, hrest]
      simp [keyChars, quote]

/-- Items on lines of their own are the items of the pretty text. -/
theorem typesetItems_pretty
    (h : ∀ v ∈ vs, ∀ level, typeset .pretty level v = (v.prettyAt level).toList) (hne : vs ≠ []) :
    Spacing.pretty.line level ++ typesetItems .pretty level vs = (prettyItems level vs).toList := by
  induction vs with
  | nil => exact absurd rfl hne
  | cons v vs ih =>
    have hv := h v (by simp) level
    cases vs with
    | nil => simp [typesetItems, prettyItems, hv]
    | cons w vs =>
      have hrest := ih (fun x hx => h x (List.mem_cons_of_mem v hx)) (List.cons_ne_nil w vs)
      have htext : prettyItems level (v :: w :: vs)
          = newline level ++ v.prettyAt level ++ "," ++ prettyItems level (w :: vs) := rfl
      have htypeset : typesetItems .pretty level (v :: w :: vs)
          = typeset .pretty level v ++
            ',' :: (Spacing.pretty.line level ++ typesetItems .pretty level (w :: vs)) := rfl
      rw [htypeset, htext, hv, hrest]
      simp

theorem typesetMembers_pretty
    (h : ∀ m ∈ ms, ∀ level, typeset .pretty level m.2 = (m.2.prettyAt level).toList)
    (hne : ms ≠ []) :
    Spacing.pretty.line level ++ '"' :: typesetMembers .pretty level ms
      = (prettyMembers level ms).toList := by
  induction ms with
  | nil => exact absurd rfl hne
  | cons m ms ih =>
    obtain ⟨key, v⟩ := m
    have hv : typeset .pretty level v = (v.prettyAt level).toList := h (key, v) (by simp) level
    cases ms with
    | nil => simp [typesetMembers, prettyMembers, hv, keyChars, quote]
    | cons m ms =>
      have hrest := ih (fun x hx => h x (List.mem_cons_of_mem _ hx)) (List.cons_ne_nil m ms)
      have htext : prettyMembers level ((key, v) :: m :: ms) = newline level ++ quote key ++ ": " ++
          v.prettyAt level ++ "," ++ prettyMembers level (m :: ms) := rfl
      have htypeset : typesetMembers .pretty level ((key, v) :: m :: ms)
          = keyChars key ++ ([' '] ++ (typeset .pretty level v ++
            ',' :: (Spacing.pretty.line level ++
              '"' :: typesetMembers .pretty level (m :: ms)))) := rfl
      rw [htypeset, htext, hv, hrest]
      simp [keyChars, quote]

end Layouts

/-- **Compact text is set without blanks.** -/
theorem typeset_compact (v : Json) : ∀ level, typeset .compact level v = v.compact.toList := by
  induction v using tree_induction with
  | array vs hvs =>
    intro level
    cases vs with
    | nil => rfl
    | cons v vs =>
      rw [typeset, typesetItems_compact _ hvs, Json.compact]
      simp
  | object ms hms =>
    intro level
    cases ms with
    | nil => rfl
    | cons m ms =>
      have hmembers := typesetMembers_compact (level + 1) hms (List.cons_ne_nil m ms)
      rw [typeset, Json.compact, String.toList_append, String.toList_append, ← hmembers]
      simp
  | _ => exact fun _ => rfl

/-- **Pretty text is set with a line for everything that starts.** -/
theorem typeset_pretty (v : Json) :
    ∀ level, typeset .pretty level v = (v.prettyAt level).toList := by
  induction v using tree_induction with
  | array vs hvs =>
    intro level
    cases vs with
    | nil => rfl
    | cons v vs =>
      have hitems := typesetItems_pretty (level + 1) hvs (List.cons_ne_nil v vs)
      rw [typeset, prettyAt, String.toList_append, String.toList_append, String.toList_append,
        ← hitems]
      · simp
      · simp
  | object ms hms =>
    intro level
    cases ms with
    | nil => rfl
    | cons m ms =>
      have hmembers := typesetMembers_pretty (level + 1) hms (List.cons_ne_nil m ms)
      rw [typeset, prettyAt, String.toList_append, String.toList_append, String.toList_append,
        ← hmembers]
      · simp
      · simp
  | _ => exact fun _ => rfl

/-- No value starts like white space or the end of an array. -/
theorem typeset_head (s : Spacing) (level : Nat) (v : Json) :
    ∃ c cs, typeset s level v = c :: cs ∧ isSpace c = false ∧ c ≠ ']' := by
  cases v with
  | null => exact ⟨'n', _, rfl, by decide, by decide⟩
  | bool b => cases b <;> exact ⟨_, _, rfl, by decide, by decide⟩
  | int n =>
    obtain ⟨c, cs, hcs, hc⟩ := (spells_int n).head
    exact ⟨c, cs, hcs, isSpace_of_starts_number hc, ne_of_starts_number hc (by decide)⟩
  | float x =>
    by_cases hx : x.isFinite = true
    · obtain ⟨c, cs, hcs, hc⟩ := (spells_float hx).head
      exact ⟨c, cs, hcs, isSpace_of_starts_number hc, ne_of_starts_number hc (by decide)⟩
    · exact ⟨'n', ['u', 'l', 'l'], by simp [typeset, Json.compact, floatText, hx], by decide,
        by decide⟩
  | string s =>
    exact ⟨'"', s.toList.flatMap escapeChar ++ ['"'], by simp [typeset, Json.compact, quote],
      by decide, by decide⟩
  | array vs => cases vs <;> exact ⟨'[', _, rfl, by decide, by decide⟩
  | object ms => cases ms <;> exact ⟨'\x7b', _, rfl, by decide, by decide⟩

/-- Items start with no blank, and not like the end of an array. -/
theorem typesetItems_head (s : Spacing) (level : Nat) (v : Json) (vs : List Json) :
    ∃ c cs, typesetItems s level (v :: vs) = c :: cs ∧ isSpace c = false ∧ c ≠ ']' := by
  obtain ⟨c, cs, hcs, hspace, hc⟩ := typeset_head s level v
  cases vs with
  | nil => exact ⟨c, cs, hcs, hspace, hc⟩
  | cons w vs =>
    refine ⟨c, cs ++ ',' :: (s.line level ++ typesetItems s level (w :: vs)), ?_, hspace, hc⟩
    have htypeset : typesetItems s level (v :: w :: vs)
        = typeset s level v ++ ',' :: (s.line level ++ typesetItems s level (w :: vs)) := rfl
    rw [htypeset, hcs]
    rfl

end Json

namespace Reading

open Json

/-! ## Blanks -/

section Blanks

variable {blanks : List Char} (hblanks : ∀ c ∈ blanks, isSpace c = true)

include hblanks

/-- Blanks in front are passed with what follows them. -/
theorem skipSpace_append (cs : List Char) : skipSpace (blanks ++ cs) = skipSpace cs :=
  List.dropWhile_append_of_pos hblanks

theorem skipSpace_blanks {c : Char} (hc : isSpace c = false) (cs : List Char) :
    skipSpace (blanks ++ c :: cs) = c :: cs := by
  rw [skipSpace_append hblanks, skipSpace_cons hc]

/-- Blanks in front of a value are skipped. -/
theorem value_blanks (fuel : Nat) (cs : List Char) : value fuel (blanks ++ cs) = value fuel cs := by
  cases fuel with
  | zero => rfl
  | succ fuel =>
    rw [value.eq_def, value.eq_def]
    dsimp only
    rw [skipSpace_append hblanks]

/-- Items can be read from before the blanks in front of them. -/
theorem items_blanks (fuel : Nat) (cs : List Char) : items fuel (blanks ++ cs) = items fuel cs := by
  cases fuel with
  | zero => rfl
  | succ fuel => rw [items, items, value_blanks hblanks]

/-- Blanks do not belong to a number. -/
theorem numberEnd_blanks {rest : List Char} (hrest : NumberEnd rest) :
    NumberEnd (blanks ++ rest) := by
  cases blanks with
  | nil => exact hrest
  | cons c blanks =>
    have hc := hblanks c (by simp)
    refine numberEnd_cons ?_ _
    simp only [isSpace, Bool.or_eq_true, beq_iff_eq] at hc
    rcases hc with ((rfl | rfl) | rfl) | rfl <;> rfl

/-- An array with items. -/
theorem value_items {c : Char} (hspace : isSpace c = false) (hc : c ≠ ']') (fuel : Nat)
    (cs : List Char) :
    value (fuel + 1) ('[' :: (blanks ++ c :: cs))
      = ⟨.array (items fuel (c :: cs)).got (items fuel (c :: cs)).rest.isSome,
          (items fuel (c :: cs)).rest⟩ := by
  rw [value.eq_def]
  dsimp only
  rw [skipSpace_cons (by decide)]
  simp only [skipSpace_blanks hblanks hspace]
  split
  case h_1 h => exact absurd (List.cons.inj h).1 hc
  case h_2 => rfl

/-- An object with members. -/
theorem value_members (fuel : Nat) (cs : List Char) :
    value (fuel + 1) ('\x7b' :: (blanks ++ '"' :: cs))
      = ⟨.object (members fuel cs).got (members fuel cs).rest.isSome, (members fuel cs).rest⟩ := by
  rw [value.eq_def]
  dsimp only
  rw [skipSpace_cons (by decide)]
  simp only [skipSpace_blanks hblanks (c := '"') (by decide)]

theorem items_single (fuel : Nat) {cs rest : List Char} {r : Reading}
    (h : value fuel cs = ⟨r, some (blanks ++ ']' :: rest)⟩) :
    items (fuel + 1) cs = ⟨[r], some rest⟩ := by
  rw [items, h]
  simp only [Option.map_some, skipSpace_blanks hblanks (c := ']') (by decide)]

/-- After a comma the next item is read. -/
theorem items_cons (fuel : Nat) {cs rest : List Char} {r : Reading}
    (h : value fuel cs = ⟨r, some (',' :: (blanks ++ rest))⟩) :
    items (fuel + 1) cs = ⟨r :: (items fuel rest).got, (items fuel rest).rest⟩ := by
  rw [items, h]
  simp only [Option.map_some, skipSpace_cons (c := ',') (by decide), items_blanks hblanks]

theorem members_single (fuel : Nat) (key : String) {cs rest : List Char} {r : Reading}
    (h : value fuel cs = ⟨r, some (blanks ++ '\x7d' :: rest)⟩) :
    members (fuel + 1) (keyChars key ++ cs) = ⟨[(some key, r)], some rest⟩ := by
  rw [members, keyChars, List.append_assoc, List.cons_append, List.cons_append, List.nil_append,
    stringToken_escaped]
  simp only [skipSpace_cons (c := ':') rfl, h, Option.map_some,
    skipSpace_blanks hblanks (c := '\x7d') (by decide)]

/-- After a comma the next member is read. -/
theorem members_cons (fuel : Nat) (key : String) {cs rest : List Char} {r : Reading}
    (h : value fuel cs = ⟨r, some (',' :: (blanks ++ '"' :: rest))⟩) :
    members (fuel + 1) (keyChars key ++ cs)
      = ⟨(some key, r) :: (members fuel rest).got, (members fuel rest).rest⟩ := by
  rw [members, keyChars, List.append_assoc, List.cons_append, List.cons_append, List.nil_append,
    stringToken_escaped]
  simp only [skipSpace_cons (c := ':') rfl, h, Option.map_some,
    skipSpace_cons (c := ',') (by decide),
    skipSpace_blanks hblanks (c := '"') (by decide)]

end Blanks

/-! ## Values -/

/-- The text of `v` is read off the front of any text that starts with it. Every call spends one
unit of fuel, and there are at most two calls per character. -/
def ReadsBack (s : Spacing) (v : Json) : Prop := ∀ level fuel rest, NumberEnd rest →
  2 * (typeset s level v).length ≤ fuel →
  value fuel (typeset s level v ++ rest) = ⟨v.readBack, some rest⟩

/-- Reading a value always has a step to spend, so only that case is to be shown. -/
theorem readsBack_of_succ {s : Spacing} {v : Json}
    (h : ∀ level fuel rest, NumberEnd rest → 2 * (typeset s level v).length ≤ fuel + 1 →
      value (fuel + 1) (typeset s level v ++ rest) = ⟨v.readBack, some rest⟩) :
    ReadsBack s v := by
  intro level fuel rest hrest hfuel
  obtain ⟨c, cs, hcs, _⟩ := typeset_head s level v
  have hlength : (typeset s level v).length = cs.length + 1 := by rw [hcs, List.length_cons]
  obtain ⟨fuel, rfl⟩ : ∃ k, fuel = k + 1 := ⟨fuel - 1, by omega⟩
  exact h level fuel rest hrest hfuel

/-- Items are read back if each of them is. The fuel suffices because every item takes some of the
text. -/
theorem items_typeset {s : Spacing} {vs : List Json} (hvs : ∀ v ∈ vs, ReadsBack s v) (hne : vs ≠ [])
    (level below : Nat) : ∀ fuel rest, 2 * (typesetItems s level vs).length + 1 ≤ fuel →
      items fuel (typesetItems s level vs ++ (s.line below ++ ']' :: rest))
        = ⟨readBackItems vs, some rest⟩ := by
  induction vs with
  | nil => exact absurd rfl hne
  | cons v vs ih =>
    intro fuel rest hfuel
    obtain ⟨fuel, rfl⟩ : ∃ k, fuel = k + 1 := ⟨fuel - 1, by omega⟩
    have hv := hvs v (by simp) level fuel
    cases vs with
    | nil =>
      have htypeset : typesetItems s level [v] = typeset s level v := rfl
      rw [htypeset] at hfuel ⊢
      exact items_single (s.line_blank below) fuel
        (hv _ (numberEnd_blanks (s.line_blank below) (numberEnd_cons rfl rest)) (by omega))
    | cons w vs =>
      have htypeset : typesetItems s level (v :: w :: vs)
          = typeset s level v ++ ',' :: (s.line level ++ typesetItems s level (w :: vs)) := rfl
      rw [htypeset, List.length_append, List.length_cons, List.length_append] at hfuel
      rw [htypeset, List.append_assoc, List.cons_append, List.append_assoc,
        items_cons (s.line_blank level) fuel (hv _ (numberEnd_cons rfl _) (by omega)),
        ih (fun x hx => hvs x (List.mem_cons_of_mem v hx)) (List.cons_ne_nil w vs) fuel rest
          (by omega)]
      rfl

/-- Members are read back if each of their values is. -/
theorem members_typeset {s : Spacing} {ms : List (String × Json)}
    (hms : ∀ m ∈ ms, ReadsBack s m.2) (hne : ms ≠ []) (level below : Nat) :
    ∀ fuel rest, 2 * (typesetMembers s level ms).length + 1 ≤ fuel →
      members fuel (typesetMembers s level ms ++ (s.line below ++ '\x7d' :: rest))
        = ⟨readBackMembers ms, some rest⟩ := by
  induction ms with
  | nil => exact absurd rfl hne
  | cons m ms ih =>
    obtain ⟨key, v⟩ := m
    intro fuel rest hfuel
    obtain ⟨fuel, rfl⟩ : ∃ k, fuel = k + 1 := ⟨fuel - 1, by omega⟩
    have hv : ∀ rest, NumberEnd rest → 2 * (typeset s level v).length ≤ fuel →
        value fuel (s.colon ++ (typeset s level v ++ rest)) = ⟨v.readBack, some rest⟩ :=
      fun rest hrest hlength => by
        rw [value_blanks s.colon_blank]
        exact hms (key, v) (by simp) level fuel rest hrest hlength
    cases ms with
    | nil =>
      have htypeset : typesetMembers s level [(key, v)]
          = keyChars key ++ (s.colon ++ typeset s level v) := rfl
      rw [htypeset, List.length_append, List.length_append] at hfuel
      rw [htypeset, List.append_assoc, List.append_assoc]
      exact members_single (s.line_blank below) fuel key
        (hv _ (numberEnd_blanks (s.line_blank below) (numberEnd_cons rfl rest)) (by omega))
    | cons m ms =>
      have htypeset : typesetMembers s level ((key, v) :: m :: ms)
          = keyChars key ++ (s.colon ++ (typeset s level v ++
            ',' :: (s.line level ++ '"' :: typesetMembers s level (m :: ms)))) := rfl
      rw [htypeset] at hfuel ⊢
      simp only [List.length_append, List.length_cons] at hfuel
      simp only [List.append_assoc, List.cons_append]
      rw [members_cons (s.line_blank level) fuel key (hv _ (numberEnd_cons rfl _) (by omega)),
        ih (fun x hx => hms x (List.mem_cons_of_mem _ hx)) (List.cons_ne_nil m ms) fuel rest
          (by omega)]
      rfl

/-- **Every value is read back from its text**, with any spacing. -/
theorem readsBack (s : Spacing) (v : Json) : ReadsBack s v := by
  induction v using Json.tree_induction with
  | null => exact readsBack_of_succ fun _ _ _ _ _ => rfl
  | bool b => cases b <;> exact readsBack_of_succ fun _ _ _ _ _ => rfl
  | int n => exact readsBack_of_succ fun _ fuel _ hrest _ => value_spelled (spells_int n) fuel hrest
  | float x =>
    refine readsBack_of_succ fun level fuel rest hrest _ => ?_
    by_cases hx : x.isFinite = true
    · rw [Json.readBack, if_pos hx]
      exact value_spelled (spells_float hx) fuel hrest
    · have htypeset : typeset s level (.float x) = (floatText x).toList := rfl
      rw [Json.readBack, if_neg hx, htypeset, floatText, if_neg hx]
      rfl
  | string t => exact readsBack_of_succ fun _ fuel rest _ _ => value_quote t fuel rest
  | array vs hvs =>
    refine readsBack_of_succ fun level fuel rest _ hfuel => ?_
    cases vs with
    | nil => rfl
    | cons v vs =>
      obtain ⟨c, cs, hcs, hspace, hc⟩ := typesetItems_head s (level + 1) v vs
      have hitems := items_typeset hvs (List.cons_ne_nil v vs) (level + 1) level fuel rest
      rw [typeset] at hfuel ⊢
      simp only [List.length_append, List.length_cons] at hfuel
      simp only [List.append_assoc, List.cons_append, List.nil_append]
      have hread := hitems (by omega)
      rw [hcs, List.cons_append] at hread
      rw [hcs, List.cons_append, value_items (s.line_blank _) hspace hc, hread]
      rfl
  | object ms hms =>
    refine readsBack_of_succ fun level fuel rest _ hfuel => ?_
    cases ms with
    | nil => rfl
    | cons m ms =>
      have hmembers := members_typeset hms (List.cons_ne_nil m ms) (level + 1) level fuel rest
      rw [typeset] at hfuel ⊢
      simp only [List.length_append, List.length_cons] at hfuel
      simp only [List.append_assoc, List.cons_append, List.nil_append]
      rw [value_members (s.line_blank _), hmembers (by omega)]
      rfl

/-- A text that is a value with blanks behind it is read to its end. -/
theorem ofText_typeset (s : Spacing) (v : Json) {text : String} (blanks : List Char)
    (hblanks : ∀ c ∈ blanks, isSpace c = true) (htext : text.toList = typeset s 0 v ++ blanks) :
    ofText text = ⟨v.readBack, true⟩ := by
  have hlength : text.toList.length = (typeset s 0 v).length + blanks.length := by
    rw [htext, List.length_append]
  have hend := numberEnd_blanks hblanks (by simp [NumberEnd] : NumberEnd [])
  have hskip := skipSpace_append hblanks []
  rw [List.append_nil] at hend hskip
  have hread := readsBack s v 0 (2 * text.toList.length + 2) blanks hend (by omega)
  rw [← htext] at hread
  rw [ofText, hread]
  change (⟨v.readBack, (skipSpace blanks).isEmpty⟩ : TextReading) = _
  rw [hskip]
  rfl

/-- **The reading of a value's compact text is the value's own**, and nothing is left over. -/
theorem ofText_compact (v : Json) : ofText v.compact = ⟨v.readBack, true⟩ :=
  ofText_typeset .compact v [] (by simp) (by rw [typeset_compact, List.append_nil])

/-- **…and so is that of its pretty text**, with the line ended behind it. -/
theorem ofText_pretty (v : Json) : ofText (v.pretty ++ "\n") = ⟨v.readBack, true⟩ := by
  refine ofText_typeset .pretty v ['\n'] (by simp [isSpace]) ?_
  rw [typeset_pretty, String.toList_append]
  rfl

end Reading

end SqlRender
