import SqlRender.Json.Reading
import SqlRender.Proofs.Numeral

/-!
# Proofs/JsonText — strings and numbers are read back from their JSON text

What is read of a value's text is the value (`Json.readBack`), but for some numbers: an integer
beyond the machine words is read as a float, a float that is not finite was written as `null`, and
the steps in which a decimal is read can miss a float by a bit (`Double.ReadsBack` says that they do
not). Here are the values without parts, read back in front of any text that goes on with something
else: strings by undoing one escape at a time, numbers through their numerals. Arrays and objects
are in `Proofs/JsonLayout`.
-/

namespace SqlRender

namespace Reading

/-! ## Strings -/

/-- One more unit in front. -/
def StringUnit.before (u : StringUnit) (read : List StringUnit × List Char) :
    List StringUnit × List Char := (u :: read.1, read.2)

theorem stringUnits_short {c d : Char} (rest : List Char) (h : shortEscape? d = some c)
    (hd : d ≠ 'u') :
    stringUnits ('\\' :: d :: rest) = (stringUnits rest).map (StringUnit.before (.char c)) := by
  rw [stringUnits, h]
  · cases stringUnits rest <;> rfl
  · simp [hd]

theorem stringUnits_unit {a b c d : Char} {n : Nat} (rest : List Char)
    (h : unit? a b c d = some n) :
    stringUnits ('\\' :: 'u' :: a :: b :: c :: d :: rest)
      = (stringUnits rest).map (StringUnit.before (.unit n)) := by
  rw [stringUnits, h]
  cases stringUnits rest <;> rfl

/-- Any other character stands for itself. -/
theorem stringUnits_plain {c : Char} (rest : List Char) (hquote : c ≠ '"') (hslash : c ≠ '\\')
    (hspace : 0x20 ≤ c.toNat) :
    stringUnits (c :: rest) = (stringUnits rest).map (StringUnit.before (.char c)) := by
  rw [stringUnits, if_neg (by simp [hslash]; omega)]
  · cases stringUnits rest <;> rfl
  all_goals simp [hquote, hslash]

/-- The four digits of a control character stand for its code. -/
theorem unit?_hexDigits : ∀ n < 0x20,
    unit? '0' '0' (Json.hexDigit (n / 16)) (Json.hexDigit (n % 16)) = some n := by
  decide

/-- **An escaped character is read as one unit**, and the unit is the character. -/
theorem stringUnits_escapeChar (c : Char) (rest : List Char) :
    ∃ u, stringUnits (Json.escapeChar c ++ rest) = (stringUnits rest).map (StringUnit.before u) ∧
      ∀ us, joinUnits (u :: us) = (joinUnits us).map (c :: ·) := by
  have hchar : ∀ us, joinUnits (.char c :: us) = (joinUnits us).map (c :: ·) := fun _ => rfl
  rw [Json.escapeChar]
  split_ifs with hquote hslash hspace hline hreturn htab hback hform
  · exact ⟨_, stringUnits_short rest (by rw [hquote]; rfl) (by decide), hchar⟩
  · exact ⟨_, stringUnits_short rest (by rw [hslash]; rfl) (by decide), hchar⟩
  · exact ⟨_, stringUnits_plain rest hquote hslash hspace, hchar⟩
  · exact ⟨_, stringUnits_short rest (by rw [hline]; rfl) (by decide), hchar⟩
  · exact ⟨_, stringUnits_short rest (by rw [hreturn]; rfl) (by decide), hchar⟩
  · exact ⟨_, stringUnits_short rest (by rw [htab]; rfl) (by decide), hchar⟩
  · obtain rfl : c = '\x08' := Char.toNat_inj.mp hback
    exact ⟨_, stringUnits_short rest rfl (by decide), hchar⟩
  · obtain rfl : c = '\x0c' := Char.toNat_inj.mp hform
    exact ⟨_, stringUnits_short rest rfl (by decide), hchar⟩
  · refine ⟨_, stringUnits_unit rest (unit?_hexDigits c.toNat (by omega)), fun us => ?_⟩
    rw [joinUnits.eq_def]
    dsimp only
    rw [if_neg (by omega), if_neg (by omega), Char.ofNat_toNat]

/-- **A string is read back from its quoted text.** -/
theorem stringToken_escaped (s : String) (rest : List Char) :
    stringToken (s.toList.flatMap Json.escapeChar ++ '"' :: rest) = some (some s, rest) := by
  have hunits : ∀ cs : List Char, ∃ us,
      stringUnits (cs.flatMap Json.escapeChar ++ '"' :: rest) = some (us, rest) ∧
        joinUnits us = some cs := by
    intro cs
    induction cs with
    | nil => exact ⟨[], rfl, rfl⟩
    | cons c cs ih =>
      obtain ⟨us, hus, hjoin⟩ := ih
      obtain ⟨u, hu, hchar⟩ :=
        stringUnits_escapeChar c (cs.flatMap Json.escapeChar ++ '"' :: rest)
      refine ⟨u :: us, ?_, ?_⟩
      · rw [List.flatMap_cons, List.append_assoc, hu, hus]
        rfl
      · rw [hchar, hjoin]
        rfl
  obtain ⟨us, hus, hjoin⟩ := hunits s.toList
  rw [stringToken, hus, Option.map_some]
  dsimp only
  rw [hjoin, Option.map_some, String.ofList_toList]

/-! ## Numbers -/

/-- The value that is kept while digits are read is the value of their text. -/
theorem digitsValue_eq (cs : List Char) : digitsValue cs = Nat.ofDigitChars 10 cs 0 := by
  rw [digitsValue, Nat.ofDigitChars_eq_foldl]
  congr 1
  funext n c
  rw [Nat.mul_comm]
  rfl

/-- The text goes on with nothing that a number could take in. -/
def NumberEnd (rest : List Char) : Prop :=
  ∀ c ∈ rest.head?, c.isDigit = false ∧ c ≠ '.' ∧ c ≠ 'e' ∧ c ≠ 'E'

theorem digits_chars (ds : Digits) {rest : List Char} (hrest : Digits.End rest) :
    digits (ds.chars ++ rest) = (ds.chars, rest) := by
  obtain ⟨htake, hdrop⟩ := scan_stops ds.all_isDigit hrest
  rw [digits, htake, hdrop]

/-- A whole part without needless zeros is read. -/
theorem integerPart?_chars {ds : Digits} (hds : ds.Canonical) {rest : List Char}
    (hrest : Digits.End rest) : integerPart? (ds.chars ++ rest) = some (ds.chars, rest) := by
  rw [integerPart?, digits_chars ds hrest]
  split
  case h_1 h => exact absurd (Prod.mk.inj h).1 ds.ne_nil
  case h_2 h => exact absurd (hds _ (Prod.mk.inj h).1) (by simp)
  case h_3 => rfl

/-- A fraction is read, or there is no point and none is. -/
theorem fractionPart?_chars (fraction : Option Digits) {rest : List Char} (hrest : Digits.End rest)
    (hpoint : '.' ∉ rest.head?) :
    fractionPart? (Numeral.fractionChars fraction ++ rest)
      = some (Numeral.fractionDigits fraction, rest) := by
  cases fraction with
  | none =>
    cases rest with
    | nil => rfl
    | cons c rest =>
      have hc : c ≠ '.' := fun h => hpoint (by simp [h])
      simp [Numeral.fractionChars, Numeral.fractionDigits, fractionPart?, hc]
  | some ds =>
    have hfound : fractionPart? ('.' :: (ds.chars ++ rest)) = some (ds.chars, rest) := by
      rw [fractionPart?, digits_chars ds hrest]
      split
      case h_1 h => exact absurd (Prod.mk.inj h).1 ds.ne_nil
      case h_2 => rfl
    exact hfound

/-- The digits of an exponent are read with their sign. -/
theorem exponentDigits?_chars (negative : Bool) (ds : Digits) {rest : List Char}
    (hrest : Digits.End rest) :
    exponentDigits? negative (ds.chars ++ rest)
      = some (some (Numeral.power (some (negative, ds))), rest) := by
  rw [exponentDigits?, digits_chars ds hrest]
  split
  case h_1 h => exact absurd (Prod.mk.inj h).1 ds.ne_nil
  case h_2 h =>
    obtain ⟨rfl, rfl⟩ := Prod.mk.inj h
    rw [digitsValue_eq]
    rfl

/-- An exponent is read, or there is no letter and none is. -/
theorem exponentPart?_chars (exponent : Option (Bool × Digits)) {rest : List Char}
    (hrest : NumberEnd rest) :
    exponentPart? (Numeral.exponentSpelled true exponent ++ rest)
      = some (exponent.map fun e => Numeral.power (some e), rest) := by
  have hdigit : Digits.End rest := fun c hc => (hrest c hc).1
  match exponent with
  | none =>
    cases rest with
    | nil => rfl
    | cons c rest =>
      obtain ⟨_, _, hc, hc'⟩ := hrest c rfl
      simp [Numeral.exponentSpelled, exponentPart?, hc, hc']
  | some (true, ds) => exact exponentDigits?_chars true ds hdigit
  | some (false, ds) => exact exponentDigits?_chars false ds hdigit

/-- The reading of a numeral. -/
def ofNumeral (n : Numeral) : Reading :=
  if n.fraction.isNone && n.exponent.isNone then ofInteger n.negative n.whole.chars
  else
    ofDigits n.negative n.whole.chars (Numeral.fractionDigits n.fraction) (Numeral.power n.exponent)

/-- **A numeral is read part by part**, and its reading depends on the digits of the parts alone. -/
theorem unsignedNumber_chars (n : Numeral) (hcanonical : n.whole.Canonical) {rest : List Char}
    (hrest : NumberEnd rest) :
    unsignedNumber n.negative (n.whole.chars ++ (Numeral.fractionChars n.fraction ++
      (Numeral.exponentSpelled true n.exponent ++ rest))) = some (ofNumeral n, rest) := by
  -- behind the fraction stands the exponent mark or the rest
  have hnext : ∀ c ∈ (Numeral.exponentSpelled true n.exponent ++ rest).head?,
      c.isDigit = false ∧ c ≠ '.' := by
    intro c hc
    cases he : n.exponent with
    | none =>
      rw [he] at hc
      exact ⟨(hrest c hc).1, (hrest c hc).2.1⟩
    | some e =>
      rw [he] at hc
      obtain rfl : 'e' = c := Option.some.inj hc
      decide
  have hwhole : Digits.End (Numeral.fractionChars n.fraction ++
      (Numeral.exponentSpelled true n.exponent ++ rest)) := by
    intro c hc
    cases hf : n.fraction with
    | none =>
      rw [hf] at hc
      exact (hnext c hc).1
    | some ds =>
      rw [hf] at hc
      obtain rfl : '.' = c := Option.some.inj hc
      decide
  have hfraction : (Numeral.fractionDigits n.fraction).isEmpty = n.fraction.isNone := by
    cases n.fraction with
    | none => rfl
    | some ds => simpa [Numeral.fractionDigits] using ds.ne_nil
  have hpower : (n.exponent.map fun e => Numeral.power (some e)).getD 0
      = Numeral.power n.exponent := by cases n.exponent <;> rfl
  rw [unsignedNumber, integerPart?_chars hcanonical hwhole, Option.bind_eq_bind, Option.bind_some]
  dsimp only
  rw [fractionPart?_chars n.fraction (fun c hc => (hnext c hc).1) fun h => (hnext '.' h).2 rfl,
    Option.bind_eq_bind, Option.bind_some]
  dsimp only
  rw [exponentPart?_chars n.exponent hrest, Option.bind_some]
  dsimp only
  rw [hfraction, Option.isNone_map, hpower, ofNumeral]
  split <;> rfl

/-- **A numeral is read off the front of a text.** -/
theorem number_spelled (n : Numeral) (hcanonical : n.whole.Canonical) {rest : List Char}
    (hrest : NumberEnd rest) : number (n.spelled true ++ rest) = some (ofNumeral n, rest) := by
  have hread := unsignedNumber_chars n hcanonical hrest
  rw [Numeral.spelled, List.append_assoc, List.append_assoc, List.append_assoc]
  cases hsign : n.negative with
  | true =>
    rw [hsign] at hread
    exact hread
  | false =>
    obtain ⟨c, cs, hcs⟩ := List.exists_cons_of_ne_nil n.whole.ne_nil
    have hc : c ≠ '-' := by
      rintro rfl
      exact absurd (n.whole.all_isDigit '-' (by simp [hcs])) (by decide)
    rw [hsign, hcs] at hread
    rw [hcs, Numeral.sign, if_neg (by decide), List.nil_append, List.cons_append, number]
    · exact hread
    · simpa using hc

/-- The text is a numeral with the reading `r`. -/
def Spells (text : String) (r : Reading) : Prop :=
  ∃ n : Numeral, text.toList = n.spelled true ∧ n.whole.Canonical ∧ ofNumeral n = r

/-- What is read at the front of a text that starts with a number. -/
def ofNumberText (text : String) : Reading := ((number text.toList).map Prod.fst).getD .broken

/-- **The text of a finite float is a numeral.** -/
theorem exists_floatText {x : Double} (hx : x.isFinite = true) :
    ∃ n : Numeral, (Json.floatText x).toList = n.spelled true ∧
      n.IsFloat true x.isNegative (Json.floatLayout.magnitude x)
        (if x.isZero then 0 else (Decimal.shortest .even x).value) := by
  obtain ⟨n, hn⟩ := Numeral.exists_magnitude x.isNegative Json.floatLayout x
  refine ⟨n, ?_, hn⟩
  have hchars : n.spelled true = _ := hn.chars_eq
  rw [hchars, Json.floatText, if_pos hx, Decimal.Layout.write, Double.isNaN, hx]
  cases x.isNegative <;> simp [Numeral.sign]

/-- A text that spells a reading has that reading when it stands alone. -/
theorem Spells.ofNumberText_eq {text : String} {r : Reading} (h : Spells text r) :
    ofNumberText text = r := by
  obtain ⟨n, htext, hcanonical, rfl⟩ := h
  have hnumber : number (n.spelled true ++ []) = some (ofNumeral n, []) :=
    number_spelled n hcanonical (by simp [NumberEnd])
  rw [List.append_nil, ← htext] at hnumber
  rw [ofNumberText, hnumber]
  rfl

/-- The text of a finite float spells what is read of it, whatever that is. -/
theorem spells_float {x : Double} (hx : x.isFinite = true) :
    Spells (Json.floatText x) (ofNumberText (Json.floatText x)) := by
  obtain ⟨n, htext, hn⟩ := exists_floatText hx
  have hspells : Spells (Json.floatText x) (ofNumeral n) := ⟨n, htext, hn.canonical, rfl⟩
  rwa [hspells.ofNumberText_eq]

/-- The text of an integer is a numeral for it. -/
theorem spells_int (n : Int) :
    Spells (toString n) (ofInteger (n < 0) (Nat.toDigits 10 n.natAbs)) := by
  refine ⟨Numeral.ofInt n, (Numeral.chars_ofInt n).symm, fun cs hcs => ?_, rfl⟩
  rcases Nat.eq_zero_or_pos n.natAbs with hzero | hpos
  · have hdigits : Nat.toDigits 10 n.natAbs = '0' :: cs := hcs
    rw [hzero] at hdigits
    exact (List.cons.inj hdigits).2.symm
  · exact absurd hcs (Numeral.toDigits_ne_zero_cons hpos cs)

/-- A numeral starts with its sign or a digit. -/
theorem Spells.head {text : String} {r : Reading} (h : Spells text r) :
    ∃ c cs, text.toList = c :: cs ∧ (c = '-' ∨ c.isDigit = true) := by
  obtain ⟨n, htext, _, _⟩ := h
  rw [htext, Numeral.spelled]
  cases n.negative with
  | true => exact ⟨'-', _, rfl, .inl rfl⟩
  | false =>
    obtain ⟨c, cs, hcs⟩ := List.exists_cons_of_ne_nil n.whole.ne_nil
    rw [hcs]
    exact ⟨c, _, rfl, .inr (n.whole.all_isDigit c (by simp [hcs]))⟩

/-- Digits are read to their end even if their value is out of range. -/
theorem isWhole_ofDigits (negative : Bool) (whole fraction : List Char) (exponent : Int) :
    (ofDigits negative whole fraction exponent).isWhole = true := by
  rw [ofDigits]
  split <;> rfl

theorem depth_ofDigits (negative : Bool) (whole fraction : List Char) (exponent : Int) :
    (ofDigits negative whole fraction exponent).depth = 0 := by
  rw [ofDigits]
  split <;> rfl

/-- A number is read to its end, in range or not, and has no parts. -/
theorem Spells.scalar {text : String} {r : Reading} (h : Spells text r) :
    r.isWhole = true ∧ r.depth = 0 := by
  obtain ⟨n, _, _, rfl⟩ := h
  rw [ofNumeral, ofInteger]
  split_ifs
  · exact ⟨isWhole_ofDigits .., depth_ofDigits ..⟩
  · exact ⟨rfl, rfl⟩
  · exact ⟨rfl, rfl⟩
  · exact ⟨rfl, rfl⟩
  · exact ⟨isWhole_ofDigits .., depth_ofDigits ..⟩

end Reading

/-! ## Floats that are read back -/

/-- A float is read back from its text: writing and reading floats are inverse to each other on it.
The reader rounds at every step, so there are finite floats that are not read back. -/
def Double.ReadsBack (x : Double) : Prop :=
  Reading.number (Json.floatText x).toList = some (.float x, [])

/-- Whether the float `x` was read, and nothing is left. -/
def Reading.isFloat (x : Double) : Option (Reading × List Char) → Bool
  | some (.float y, []) => y = x
  | _ => false

theorem Reading.isFloat_iff {x : Double} {read : Option (Reading × List Char)} :
    isFloat x read = true ↔ read = some (.float x, []) := by
  rw [isFloat.eq_def]
  split
  case h_1 => simp
  case h_2 h => exact iff_of_false Bool.false_ne_true (h x)

instance (x : Double) : Decidable x.ReadsBack := decidable_of_iff _ Reading.isFloat_iff

/-- Only finite floats are read back: the others have no number in JSON. -/
theorem Double.ReadsBack.isFinite {x : Double} (h : x.ReadsBack) : x.isFinite = true := by
  by_contra hx
  have hnone : Reading.number (Json.floatText x).toList = none := by
    rw [Json.floatText, if_neg hx]
    rfl
  rw [Double.ReadsBack, hnone] at h
  exact Option.some_ne_none _ h.symm

/-- A float that is read back is the reading of its text. -/
theorem Double.ReadsBack.ofNumberText_eq {x : Double} (h : x.ReadsBack) :
    Reading.ofNumberText (Json.floatText x) = .float x := by
  rw [Reading.ofNumberText, h]
  rfl

/-! ## What is read of a value's text -/

namespace Json

mutual

/-- The reading of a value's text. -/
def readBack : Json → Reading
  | .null => .null
  | .bool b => .bool b
  | .int n => .ofInteger (n < 0) (Nat.toDigits 10 n.natAbs)
  | .float x => if x.isFinite then .ofNumberText (floatText x) else .null
  | .string s => .string s
  | .array vs => .array (readBackItems vs) true
  | .object ms => .object (readBackMembers ms) true

/-- The readings of the texts of items. -/
def readBackItems : List Json → List Reading
  | [] => []
  | v :: vs => v.readBack :: readBackItems vs

/-- The readings of the texts of members. -/
def readBackMembers : List (String × Json) → List (Option String × Reading)
  | [] => []
  | (key, v) :: ms => (some key, v.readBack) :: readBackMembers ms

end

/-- Induction over a value: containers know it of what they hold. -/
@[elab_as_elim]
theorem tree_induction {motive : Json → Prop} (null : motive .null) (bool : ∀ b, motive (.bool b))
    (int : ∀ n, motive (.int n)) (float : ∀ x, motive (.float x))
    (string : ∀ s, motive (.string s))
    (array : ∀ vs, (∀ v ∈ vs, motive v) → motive (.array vs))
    (object : ∀ ms, (∀ m ∈ ms, motive m.2) → motive (.object ms)) (v : Json) : motive v := by
  refine @Json.rec motive (fun vs => ∀ v ∈ vs, motive v) (fun ms => ∀ m ∈ ms, motive m.2)
    (fun m => motive m.2) null bool int float string array object ?_ ?_ ?_ ?_ (fun _ _ h => h) v
  · simp
  · exact fun _ _ hv hvs => List.forall_mem_cons.mpr ⟨hv, hvs⟩
  · simp
  · exact fun _ _ hm hms => List.forall_mem_cons.mpr ⟨hm, hms⟩

end Json

namespace Reading

open Json

/-! ## Values -/

theorem skipSpace_cons {c : Char} (hc : isSpace c = false) (cs : List Char) :
    skipSpace (c :: cs) = c :: cs :=
  List.dropWhile_cons_of_neg (by rw [hc]; decide)

/-- What a number starts with, starts nothing else. -/
theorem ne_of_starts_number {c d : Char} (hc : c = '-' ∨ c.isDigit = true)
    (hd : (d == '-' || d.isDigit) = false) : c ≠ d := by
  rintro rfl
  simp only [Bool.or_eq_false_iff, beq_eq_false_iff_ne] at hd
  rcases hc with hc | hc
  · exact hd.1 hc
  · rw [hd.2] at hc
    exact absurd hc (by decide)

theorem isSpace_of_starts_number {c : Char} (hc : c = '-' ∨ c.isDigit = true) :
    isSpace c = false := by
  simp only [isSpace, Bool.or_eq_false_iff, beq_eq_false_iff_ne]
  exact ⟨⟨⟨ne_of_starts_number hc (by decide), ne_of_starts_number hc (by decide)⟩,
    ne_of_starts_number hc (by decide)⟩, ne_of_starts_number hc (by decide)⟩

/-- A minus sign or a digit begins a number. -/
theorem value_number {c : Char} (hc : c = '-' ∨ c.isDigit = true) (fuel : Nat) (cs : List Char) :
    value (fuel + 1) (c :: cs) = Step.ofToken (number (c :: cs)) := by
  rw [value.eq_def]
  dsimp only
  rw [skipSpace_cons (isSpace_of_starts_number hc)]
  split
  case h_7 => rfl
  all_goals
    rename_i h
    exact absurd (List.cons.inj h).1 (ne_of_starts_number hc (by decide))

/-- A number is read to its end and no further. -/
theorem value_spelled {text : String} {r : Reading} (h : Spells text r) (fuel : Nat)
    {rest : List Char} (hrest : NumberEnd rest) :
    value (fuel + 1) (text.toList ++ rest) = ⟨r, some rest⟩ := by
  obtain ⟨c, cs, hcs, hc⟩ := h.head
  obtain ⟨n, htext, hcanonical, rfl⟩ := h
  have hnumber := number_spelled n hcanonical hrest
  rw [← htext, hcs] at hnumber
  rw [hcs, List.cons_append, value_number hc, ← List.cons_append, hnumber]
  rfl

theorem toList_quote (s : String) (rest : List Char) :
    (quote s).toList ++ rest = '"' :: (s.toList.flatMap escapeChar ++ '"' :: rest) := by
  simp [quote]

/-- A quoted string is read to its closing quote, escapes and all. -/
theorem value_quote (s : String) (fuel : Nat) (rest : List Char) :
    value (fuel + 1) ((quote s).toList ++ rest) = ⟨.string s, some rest⟩ := by
  rw [toList_quote, value.eq_def]
  dsimp only
  rw [skipSpace_cons (by decide)]
  simp only [stringToken_escaped]

/-- What may follow a value inside a text: a comma, a closing bracket or nothing. -/
theorem numberEnd_cons {c : Char} (hc : (c.isDigit || c == '.' || c == 'e' || c == 'E') = false)
    (cs : List Char) : NumberEnd (c :: cs) := by
  intro d hd
  obtain rfl : c = d := Option.some.inj hd
  simpa [and_assoc] using hc

end Reading

end SqlRender
