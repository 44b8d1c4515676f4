import SqlRender.Proofs.Lexeme
import SqlRender.Proofs.Rounding
import SqlRender.Sql.Violation

/-!
# Proofs/Numeral — number literals are read back from their text

A number is written as a `Numeral`: a sign, digits, a fraction and an exponent, the last two
optional. A numeral is read off the front of any text that goes on with something else
(`Numeral.scan_chars`), so the text gives the numeral and the numeral gives the number. Integers
have neither fraction nor exponent, floats have one of them, and the decimal of a float fits no
other float; together, different numbers have different texts (`Literal.token_injective`).
-/

namespace SqlRender

/-! ## Digits -/

/-- Where a text stops being of one kind, the scan for that kind stops. -/
theorem scan_stops {p : Char → Bool} {cs rest : List Char} (hcs : ∀ c ∈ cs, p c = true)
    (hrest : ∀ c ∈ rest.head?, p c = false) :
    (cs ++ rest).takeWhile p = cs ∧ (cs ++ rest).dropWhile p = rest := by
  rw [List.takeWhile_append_of_pos hcs, List.dropWhile_append_of_pos hcs]
  cases rest with
  | nil => simp
  | cons c rest =>
    have hc : ¬ p c = true := by simp [hrest c rfl]
    rw [List.takeWhile_cons_of_neg hc, List.dropWhile_cons_of_neg hc, List.append_nil]
    exact ⟨rfl, rfl⟩

/-- Decimal digits, at least one. -/
@[ext] structure Digits where
  chars : List Char
  ne_nil : chars ≠ []
  all_isDigit : ∀ c ∈ chars, c.isDigit = true

namespace Digits

/-- The decimal digits of a number. -/
def ofNat (n : Nat) : Digits :=
  ⟨Nat.toDigits 10 n, Nat.toDigits_ne_nil,
    fun _ => Nat.isDigit_of_mem_toDigits (by decide) (by decide)⟩

@[simp] theorem chars_ofNat (n : Nat) : (ofNat n).chars = Nat.toDigits 10 n := rfl

/-- The digits at the front of a text, if there are any. -/
def scan (cs : List Char) : Option (Digits × List Char) :=
  if h : cs.takeWhile Char.isDigit = [] then none
  else some (⟨cs.takeWhile Char.isDigit, h, List.all_eq_true.mp List.all_takeWhile⟩,
    cs.dropWhile Char.isDigit)

/-- The text goes on with no digit. -/
def End (rest : List Char) : Prop := ∀ c ∈ rest.head?, c.isDigit = false

/-- A leading zero stands alone. -/
def Canonical (ds : Digits) : Prop := ∀ cs, ds.chars = '0' :: cs → cs = []

/-- Digits are read up to the first character that is none. -/
theorem scan_chars (ds : Digits) {rest : List Char} (hrest : End rest) :
    scan (ds.chars ++ rest) = some (ds, rest) := by
  obtain ⟨htake, hdrop⟩ := scan_stops ds.all_isDigit hrest
  have hne : (ds.chars ++ rest).takeWhile Char.isDigit ≠ [] := by
    rw [htake]
    exact ds.ne_nil
  rw [scan, dif_neg hne, hdrop]
  exact congrArg some (Prod.ext (Digits.ext htake) rfl)

end Digits

/-! ## Numerals -/

/-- The text of a number. -/
structure Numeral where
  negative : Bool
  whole : Digits
  fraction : Option Digits
  /-- The sign and the digits of the power of ten. -/
  exponent : Option (Bool × Digits)

namespace Numeral

/-- A minus sign, if there is one. -/
def sign (negative : Bool) : List Char := if negative then ['-'] else []

/-- The point and the digits behind it, if there are any. -/
def fractionChars (fraction : Option Digits) : List Char :=
  fraction.elim [] fun ds => '.' :: ds.chars

/-- The letter, the sign and the digits of the exponent, if there is one. -/
def exponentChars (exponent : Option (Bool × Digits)) : List Char :=
  exponent.elim [] fun e => 'e' :: (sign e.1 ++ e.2.chars)

/-- The text of a numeral. -/
def chars (n : Numeral) : List Char :=
  sign n.negative ++ (n.whole.chars ++ (fractionChars n.fraction ++ exponentChars n.exponent))

/-- A minus sign at the front of a text, and what follows. -/
def scanSign : List Char → Bool × List Char
  | '-' :: cs => (true, cs)
  | cs => (false, cs)

/-- A fraction at the front of a text. A point without digits behind it is left. -/
def scanFraction : List Char → Option Digits × List Char
  | '.' :: cs =>
    match Digits.scan cs with
    | some (ds, rest) => (some ds, rest)
    | none => (none, '.' :: cs)
  | cs => (none, cs)

/-- An exponent at the front of a text. A letter without digits behind it is left. -/
def scanExponent : List Char → Option (Bool × Digits) × List Char
  | 'e' :: cs =>
    match Digits.scan (scanSign cs).2 with
    | some (ds, rest) => (some ((scanSign cs).1, ds), rest)
    | none => (none, 'e' :: cs)
  | cs => (none, cs)

/-- The longest numeral at the front of a text. -/
def scan (cs : List Char) : Option (Numeral × List Char) :=
  match Digits.scan (scanSign cs).2 with
  | none => none
  | some (whole, rest) =>
    let fraction := scanFraction rest
    let exponent := scanExponent fraction.2
    some (⟨(scanSign cs).1, whole, fraction.1, exponent.1⟩, exponent.2)

/-- The text goes on with nothing that a numeral could take in. -/
def End (rest : List Char) : Prop := ∀ c ∈ rest.head?, c.isDigit = false ∧ c ≠ '.' ∧ c ≠ 'e'

theorem scanSign_digits (negative : Bool) (ds : Digits) (rest : List Char) :
    scanSign (sign negative ++ (ds.chars ++ rest)) = (negative, ds.chars ++ rest) := by
  obtain ⟨_ | ⟨c, cs⟩, hne, hall⟩ := ds
  · exact absurd rfl hne
  · cases negative
    · have hc : c ≠ '-' := fun h => absurd (hall c (by simp)) (by rw [h]; decide)
      simp [sign, scanSign, hc]
    · rfl

/-- A fraction is read, or there is no point and none is. -/
theorem scanFraction_chars (fraction : Option Digits) {rest : List Char} (hrest : Digits.End rest)
    (hpoint : '.' ∉ rest.head?) :
    scanFraction (fractionChars fraction ++ rest) = (fraction, rest) := by
  cases fraction with
  | none =>
    cases rest with
    | nil => rfl
    | cons c rest =>
      have hc : c ≠ '.' := fun h => hpoint (by simp [h])
      simp [fractionChars, scanFraction, hc]
  | some ds => simp [fractionChars, scanFraction, Digits.scan_chars ds hrest]

/-- An exponent is read, or there is no letter and none is. -/
theorem scanExponent_chars (exponent : Option (Bool × Digits)) {rest : List Char}
    (hrest : Digits.End rest) (hmark : 'e' ∉ rest.head?) :
    scanExponent (exponentChars exponent ++ rest) = (exponent, rest) := by
  cases exponent with
  | none =>
    cases rest with
    | nil => rfl
    | cons c rest =>
      have hc : c ≠ 'e' := fun h => hmark (by simp [h])
      simp [exponentChars, scanExponent, hc]
  | some e =>
    simp [exponentChars, scanExponent, scanSign_digits, Digits.scan_chars e.2 hrest]

/-- **A numeral is read back from its text**, whatever the text goes on with. -/
theorem scan_chars (n : Numeral) {rest : List Char} (hrest : End rest) :
    scan (n.chars ++ rest) = some (n, rest) := by
  have hdigit : Digits.End rest := fun c hc => (hrest c hc).1
  have hexponent := scanExponent_chars n.exponent hdigit fun h => (hrest 'e' h).2.2 rfl
  -- behind the fraction stands the exponent mark or the rest
  have hnext : ∀ c ∈ (exponentChars n.exponent ++ rest).head?, c.isDigit = false ∧ c ≠ '.' := by
    intro c hc
    cases he : n.exponent with
    | none =>
      rw [he] at hc
      exact ⟨(hrest c hc).1, (hrest c hc).2.1⟩
    | some e =>
      rw [he] at hc
      obtain rfl : 'e' = c := Option.some.inj hc
      decide
  have hfraction := scanFraction_chars n.fraction (fun c hc => (hnext c hc).1)
    fun h => (hnext '.' h).2 rfl
  have hwhole : Digits.End (fractionChars n.fraction ++ (exponentChars n.exponent ++ rest)) := by
    intro c hc
    cases hf : n.fraction with
    | none =>
      rw [hf] at hc
      exact (hnext c hc).1
    | some ds =>
      rw [hf] at hc
      obtain rfl : '.' = c := Option.some.inj hc
      decide
  rw [scan, chars, List.append_assoc, List.append_assoc, List.append_assoc, scanSign_digits,
    Digits.scan_chars n.whole hwhole]
  simp only [hfraction, hexponent]

/-- **A numeral is told by its text.** -/
theorem chars_injective {m n : Numeral} (h : m.chars = n.chars) : m = n := by
  have hend : End [] := by simp [End]
  have hm := scan_chars m hend
  rw [h, scan_chars n hend] at hm
  exact (Prod.ext_iff.mp (Option.some.inj hm)).1.symm

/-! ## The number that a numeral stands for -/

/-- The power of ten that the exponent names, zero without one. -/
def power (exponent : Option (Bool × Digits)) : Int :=
  exponent.elim 0 fun e =>
    if e.1 then -(Nat.ofDigitChars 10 e.2.chars 0) else Nat.ofDigitChars 10 e.2.chars 0

/-- The digits behind the point. -/
def fractionDigits (fraction : Option Digits) : List Char := fraction.elim [] Digits.chars

/-- The number without its sign. -/
def magnitude (n : Numeral) : ℚ :=
  Nat.ofDigitChars 10 (n.whole.chars ++ fractionDigits n.fraction) 0 *
    (10 : ℚ) ^ (power n.exponent - (fractionDigits n.fraction).length)

/-- The text of an exponent in a format that writes a plus sign, or does not. -/
def exponentSpelled (plus : Bool) (exponent : Option (Bool × Digits)) : List Char :=
  exponent.elim [] fun e => 'e' :: ((if !e.1 && plus then ['+'] else sign e.1) ++ e.2.chars)

/-- The text of a numeral in such a format. -/
def spelled (plus : Bool) (n : Numeral) : List Char :=
  sign n.negative ++
    (n.whole.chars ++ (fractionChars n.fraction ++ exponentSpelled plus n.exponent))

/-- Without a plus sign the spelling is the text. -/
theorem spelled_false (n : Numeral) : n.spelled false = n.chars := by
  simp [spelled, chars, exponentSpelled, exponentChars]

/-- The plus sign is all that the formats differ in. -/
theorem filter_spelled (plus : Bool) (n : Numeral) :
    (n.spelled plus).filter (· != '+') = n.chars := by
  have hdigits : ∀ ds : Digits, ds.chars.filter (· != '+') = ds.chars := fun ds =>
    List.filter_eq_self.mpr fun c hc => by
      rw [bne_iff_ne]
      rintro rfl
      exact absurd (ds.all_isDigit _ hc) (by decide)
  have hsign : ∀ negative, (sign negative).filter (· != '+') = sign negative := by decide
  have hfraction : (fractionChars n.fraction).filter (· != '+') = fractionChars n.fraction := by
    cases n.fraction <;> simp [fractionChars, hdigits]
  have hexponent :
      (exponentSpelled plus n.exponent).filter (· != '+') = exponentChars n.exponent := by
    rcases n.exponent with - | ⟨negative, ds⟩
    · rfl
    · cases negative <;> cases plus <;> simp [exponentSpelled, exponentChars, sign, hdigits]
  simp only [spelled, chars, List.filter_append, hsign, hdigits, hfraction, hexponent]

/-- A numeral is told by its text in either format. -/
theorem spelled_injective {plus : Bool} {m n : Numeral} (h : m.spelled plus = n.spelled plus) :
    m = n := by
  refine chars_injective ?_
  rw [← filter_spelled plus m, h, filter_spelled]

/-- A numeral with the given sign and text that cannot be an integer. -/
structure IsFloat (plus : Bool) (n : Numeral) (negative : Bool) (text : String) (v : ℚ) :
    Prop where
  chars_eq : n.spelled plus = sign negative ++ text.toList
  negative_eq : n.negative = negative
  canonical : n.whole.Canonical
  not_whole : n.fraction.isSome ∨ n.exponent.isSome
  magnitude_eq : n.magnitude = v

theorem isDigit_of_mem_toDigits {n : Nat} {c : Char} (h : c ∈ Nat.toDigits 10 n) :
    c.isDigit = true := Nat.isDigit_of_mem_toDigits (by decide) (by decide) h

theorem isDigit_of_mem_zeros {k : Nat} {c : Char} (h : c ∈ List.replicate k '0') :
    c.isDigit = true := by
  rw [(List.mem_replicate.mp h).2]
  decide

/-- The value of digits is below the power of ten that their number tells. -/
theorem ofDigitChars_lt {cs : List Char} (hcs : ∀ c ∈ cs, c.isDigit = true) :
    Nat.ofDigitChars 10 cs 0 < 10 ^ cs.length := by
  induction cs with
  | nil => simp
  | cons c cs ih =>
    have hc : c.toNat - '0'.toNat ≤ 9 := by
      have := Char.isDigit_iff_toNat.mp (hcs c (by simp))
      exact Nat.sub_le_of_le_add (by simpa using this.2)
    have htail := ih fun d hd => hcs d (by simp [hd])
    rw [Nat.ofDigitChars_cons, Nat.ofDigitChars_eq_ofDigitChars_zero, List.length_cons, pow_succ]
    have hmul := Nat.mul_le_mul_left (10 ^ cs.length) hc
    rw [Nat.mul_zero, Nat.zero_add]
    omega

/-- The digits of a positive number start with no zero. -/
theorem toDigits_ne_zero_cons {n : Nat} (hn : 0 < n) (cs : List Char) :
    Nat.toDigits 10 n ≠ '0' :: cs := by
  intro h
  have hlt : Nat.ofDigitChars 10 cs 0 < 10 ^ cs.length := ofDigitChars_lt fun c hc =>
    isDigit_of_mem_toDigits (n := n) (h ▸ List.mem_cons_of_mem _ hc)
  have hvalue : n = Nat.ofDigitChars 10 cs 0 := by
    have := Nat.ofDigitChars_ten_toDigits (n := n)
    rw [h, Nat.ofDigitChars_cons] at this
    exact this.symm
  have hle := Double.pow_digitCount_le hn
  rw [Double.digitCount, h, List.length_cons, Nat.add_sub_cancel] at hle
  omega

/-- Digits around a point. -/
theorem exists_point (plus negative : Bool) (whole fraction : List Char) (hwhole : 0 < whole.length)
    (hcanonical : ∀ cs, whole = '0' :: cs → cs = [])
    (hfraction : 0 < fraction.length) (hdigits : ∀ c ∈ whole ++ fraction, c.isDigit = true) {v : ℚ}
    (hv : Nat.ofDigitChars 10 (whole ++ fraction) 0 * (10 : ℚ) ^ (-(fraction.length : Int)) = v)
    {text : String} (htext : text.toList = whole ++ '.' :: fraction) :
    ∃ n : Numeral, n.IsFloat plus negative text v := by
  refine ⟨⟨negative,
    ⟨whole, List.ne_nil_of_length_pos hwhole, fun c hc => hdigits c (by simp [hc])⟩,
    some ⟨fraction, List.ne_nil_of_length_pos hfraction, fun c hc => hdigits c (by simp [hc])⟩,
    none⟩, ?_, rfl, hcanonical, .inl rfl, ?_⟩
  · simp [spelled, fractionChars, exponentSpelled, htext]
  · simpa [magnitude, fractionDigits, power] using hv

/-- A whole number: all digits and `k` zeros in front of the point, one zero behind it. -/
theorem exists_whole (plus negative : Bool) {n : Nat} (hn : 0 < n) (k : Nat) {text : String}
    (htext : text.toList = Nat.toDigits 10 n ++ List.replicate k '0' ++ ['.', '0']) :
    ∃ m : Numeral, m.IsFloat plus negative text (n * (10 : ℚ) ^ (k : Int)) := by
  have hpos : 0 < (Nat.toDigits 10 n).length := Nat.length_toDigits_pos
  refine exists_point plus negative (Nat.toDigits 10 n ++ List.replicate k '0') ['0']
    (by rw [List.length_append]; omega) ?_ Nat.one_pos ?_ ?_ (by simp [htext])
  · intro cs hcs
    rcases List.append_eq_cons_iff.mp hcs with ⟨hnil, _⟩ | ⟨ds, hds, _⟩
    · exact absurd hnil Nat.toDigits_ne_nil
    · exact absurd hds (toDigits_ne_zero_cons hn ds)
  · intro c hc
    rcases List.mem_append.mp hc with hc | hc
    · rcases List.mem_append.mp hc with hc | hc
      · exact isDigit_of_mem_toDigits hc
      · exact isDigit_of_mem_zeros hc
    · rw [List.mem_singleton.mp hc]
      decide
  · rw [Nat.ofDigitChars_append, Nat.ofDigitChars_append, Nat.ofDigitChars_ten_toDigits,
      Nat.ofDigitChars_replicate_zero, Nat.ofDigitChars_cons, Nat.ofDigitChars_nil,
      List.length_singleton, zpow_natCast]
    push_cast
    rw [zpow_neg_one]
    ring

/-- The digits with zeros in front of them, and the point before the last `k`. -/
theorem exists_padded (plus negative : Bool) (n zeros : Nat) (whole fraction : List Char) {k : Nat}
    (hall : whole ++ fraction = List.replicate zeros '0' ++ Nat.toDigits 10 n)
    (hwhole : 0 < whole.length) (hcanonical : ∀ cs, whole = '0' :: cs → cs = [])
    (hk : fraction.length = k) (hpos : 0 < k) {text : String}
    (htext : text.toList = whole ++ '.' :: fraction) :
    ∃ m : Numeral, m.IsFloat plus negative text (n * (10 : ℚ) ^ (-(k : Int))) := by
  refine exists_point plus negative whole fraction hwhole hcanonical (by omega) ?_ ?_ htext
  · rw [hall]
    intro c hc
    rcases List.mem_append.mp hc with hc | hc
    · exact isDigit_of_mem_zeros hc
    · exact isDigit_of_mem_toDigits hc
  · rw [hall, hk, Nat.ofDigitChars_append, Nat.ofDigitChars_replicate_zero, Nat.mul_zero,
      Nat.ofDigitChars_ten_toDigits]

/-- Positional notation. -/
theorem exists_positional (plus negative : Bool) {n : Nat} (hn : 0 < n) (e : Int) :
    ∃ m : Numeral,
      m.IsFloat plus negative (Decimal.positional (toString n) e) (n * (10 : ℚ) ^ e) := by
  have hdigits : (toString n).toList = Nat.toDigits 10 n := Nat.toList_repr
  have hcount : (toString n).length = (Nat.toDigits 10 n).length := by
    rw [← String.length_toList, hdigits]
  have hpos : 0 < (Nat.toDigits 10 n).length := Nat.length_toDigits_pos
  rw [Decimal.positional, hcount, hdigits]
  by_cases he : e ≥ 0
  · obtain ⟨k, rfl⟩ := Int.eq_ofNat_of_zero_le he
    rw [if_pos he]
    exact exists_whole plus negative hn k (by simp [Decimal.zeros])
  · obtain ⟨k, rfl⟩ : ∃ k : Nat, e = -(k : Int) := ⟨(-e).toNat, by omega⟩
    rw [if_neg he]
    split
    case isTrue hsplit =>
      refine exists_padded plus negative n 0 ((Nat.toDigits 10 n).take _)
        ((Nat.toDigits 10 n).drop _) (List.take_append_drop _ _) ?_ ?_ ?_ (by omega) (by simp; rfl)
      · rw [List.length_take]
        omega
      · intro cs hcs
        refine absurd ?_ (toDigits_ne_zero_cons hn
          (cs ++ (Nat.toDigits 10 n).drop (((Nat.toDigits 10 n).length : Int) + -(k : Int)).toNat))
        rw [← List.cons_append, ← hcs, List.take_append_drop]
      · rw [List.length_drop]
        omega
    case isFalse hsplit =>
      generalize hzeros : (-(((Nat.toDigits 10 n).length : Int) + -(k : Int))).toNat = zeros
      refine exists_padded plus negative n (zeros + 1) ['0']
        (List.replicate zeros '0' ++ Nat.toDigits 10 n) rfl Nat.one_pos (by simp) ?_ (by omega)
        (by simp [Decimal.zeros])
      rw [List.length_append, List.length_replicate]
      omega

/-- A fraction of the given digits, none when there are no digits. -/
theorem exists_fraction {cs : List Char} (hcs : ∀ c ∈ cs, c.isDigit = true) :
    ∃ fraction, fractionDigits fraction = cs ∧
      fractionChars fraction = if cs.isEmpty then [] else '.' :: cs := by
  cases cs with
  | nil => exact ⟨none, rfl, rfl⟩
  | cons c cs => exact ⟨some ⟨c :: cs, List.cons_ne_nil _ _, hcs⟩, rfl, rfl⟩

/-- The exponent of scientific notation. -/
theorem power_natAbs (e : Int) : power (some (e < 0, Digits.ofNat e.natAbs)) = e := by
  have hdigits : Nat.ofDigitChars 10 (Digits.ofNat e.natAbs).chars 0 = e.natAbs :=
    Nat.ofDigitChars_ten_toDigits
  simp only [power, Option.elim, hdigits, decide_eq_true_eq]
  split <;> omega

/-- One digit before the point and an exponent. -/
theorem exists_scientific (plus negative : Bool) (n : Nat) (leading : Int) :
    ∃ m : Numeral, m.IsFloat plus negative (Decimal.scientific plus (toString n) leading)
      (n * (10 : ℚ) ^ (leading - (((toString n).length : Int) - 1))) := by
  obtain ⟨c, cs, hcs⟩ := List.exists_cons_of_ne_nil (Nat.toDigits_ne_nil (n := n) (b := 10))
  have hdigits : (toString n).toList = c :: cs := Nat.toList_repr.trans hcs
  have hall : ∀ d ∈ c :: cs, d.isDigit = true := hcs ▸ fun _ => isDigit_of_mem_toDigits
  obtain ⟨fraction, hfraction, hchars⟩ :=
    exists_fraction fun d hd => hall d (List.mem_cons_of_mem c hd)
  have hvalue : Nat.ofDigitChars 10 ([c] ++ cs) 0 = n := by
    rw [List.singleton_append, ← hcs, Nat.ofDigitChars_ten_toDigits]
  refine ⟨⟨negative, ⟨[c], by simp, fun d hd => hall d (by simp_all)⟩, fraction,
    some (leading < 0, Digits.ofNat leading.natAbs)⟩, ?_, rfl, ?_, .inr rfl, ?_⟩
  · rw [spelled, hchars, exponentSpelled, Decimal.scientific, hdigits]
    by_cases hneg : leading < 0 <;> cases cs <;> cases plus <;> simp [hneg, sign]
  · intro ds hds
    exact (List.cons.inj hds).2.symm
  · rw [magnitude, hfraction, hvalue, power_natAbs, ← String.length_toList, hdigits,
      List.length_cons]
    congr 2
    omega

/-! ## Numbers -/

/-- **A finite magnitude is written as a numeral for its decimal.** -/
theorem exists_magnitude (negative : Bool) (l : Decimal.Layout) (x : Double) :
    ∃ m : Numeral, m.IsFloat l.plus negative (l.magnitude x)
      (if x.isZero then 0 else (Decimal.shortest l.tie x).value) := by
  rw [Decimal.Layout.magnitude]
  split
  · exact exists_point l.plus negative ['0'] ['0'] Nat.one_pos (by simp) Nat.one_pos (by simp)
      (by simp [Nat.ofDigitChars_cons]) rfl
  case isFalse hzero =>
    have hpos := (Decimal.shortest_spec l.tie (Bool.eq_false_iff.mpr hzero)).1
    dsimp only
    generalize Decimal.shortest l.tie x = d at hpos ⊢
    have hdigits : 0 < d.digits := by
      refine Nat.pos_of_ne_zero fun hz => hpos.ne' ?_
      rw [Decimal.Scientific.value, hz, Nat.cast_zero, zero_mul]
    split
    · exact exists_positional l.plus negative hdigits d.exponent
    · have hexponent : d.exponent + ((toString d.digits).length : Int) - 1
          - (((toString d.digits).length : Int) - 1) = d.exponent := by omega
      have hscientific := exists_scientific l.plus negative d.digits
        (d.exponent + (toString d.digits).length - 1)
      rwa [hexponent] at hscientific

/-- **The text of a finite float is a numeral** that is no integer, with the sign of the float and
the magnitude of its shortest decimal. -/
theorem exists_float {x : Double} (hx : x.isFinite = true) :
    ∃ m : Numeral, m.chars = (sqlFloat.write x).toList ∧ m.negative = x.isNegative ∧
      (m.fraction.isSome ∨ m.exponent.isSome) ∧
      m.magnitude = if x.isZero then 0 else (Decimal.shortest .up x).value := by
  obtain ⟨m, hm⟩ := exists_magnitude x.isNegative sqlFloat x
  refine ⟨m, ?_, hm.negative_eq, hm.not_whole, hm.magnitude_eq⟩
  have hchars : m.spelled false = _ := hm.chars_eq
  rw [← spelled_false, hchars, Decimal.Layout.write, Double.isNaN, hx]
  cases x.isNegative <;> simp [sign]

/-- The numeral of an integer. -/
def ofInt (n : Int) : Numeral := ⟨n < 0, .ofNat n.natAbs, none, none⟩

theorem chars_ofInt (n : Int) : (ofInt n).chars = (toString n).toList := by
  rw [Int.toString_eq_repr, Int.repr_eq_if]
  by_cases hneg : n < 0
  · have habs : (-n).toNat = n.natAbs := by omega
    simp [ofInt, chars, sign, fractionChars, exponentChars, hneg, not_le.mpr hneg, habs]
  · have habs : n.toNat = n.natAbs := by omega
    simp [ofInt, chars, sign, fractionChars, exponentChars, hneg, not_lt.mp hneg, habs]

theorem ofInt_injective {m n : Int} (h : ofInt m = ofInt n) : m = n := by
  obtain ⟨hsign, hwhole, _⟩ := Numeral.mk.inj h
  have habs := congrArg (fun ds => Nat.ofDigitChars 10 ds.chars 0) hwhole
  simp only [Digits.chars_ofNat, Nat.ofDigitChars_ten_toDigits] at habs
  rw [decide_eq_decide] at hsign
  omega

end Numeral

/-- **Finite doubles are told apart by their text.** -/
theorem sqlFloat_injective {x y : Double} (hx : x.isFinite = true) (hy : y.isFinite = true)
    (h : sqlFloat.write x = sqlFloat.write y) : x = y := by
  obtain ⟨m, hm, hmsign, _, hmvalue⟩ := Numeral.exists_float hx
  obtain ⟨n, hn, hnsign, _, hnvalue⟩ := Numeral.exists_float hy
  obtain rfl : m = n := Numeral.chars_injective (by rw [hm, hn, h])
  have hsign : x.isNegative = y.isNegative := hmsign.symm.trans hnsign
  have hvalue := hmvalue.symm.trans hnvalue
  -- the decimal of a double that is not zero is not zero, and otherwise lies in both intervals
  cases hxzero : x.isZero <;> cases hyzero : y.isZero <;>
    simp only [hxzero, hyzero, Bool.false_eq_true, if_true, if_false] at hvalue
  · have hholds := (Decimal.shortest_spec .up hxzero).2
    rw [hvalue] at hholds
    obtain ⟨hexponent, hfraction⟩ :=
      Decimal.magnitude_unique hholds (Decimal.shortest_spec .up hyzero).2
    exact Double.eq_of_fields hsign hexponent hfraction
  · exact absurd hvalue (Decimal.shortest_spec .up hxzero).1.ne'
  · exact absurd hvalue (Decimal.shortest_spec .up hyzero).1.ne
  · simp only [Double.isZero, Bool.and_eq_true, beq_iff_eq] at hxzero hyzero
    exact Double.eq_of_fields hsign (hxzero.1.trans hyzero.1.symm) (hxzero.2.trans hyzero.2.symm)

/-! ## Literals -/

namespace Literal

theorem isFinite_of_valid {x : Double} (h : (float x).violation? = none) : x.isFinite = true := by
  by_contra hx
  rw [violation?, if_neg hx] at h
  exact absurd h (by simp)

/-- The text of a valid number is a numeral. -/
theorem exists_numeral {l : Literal} (hl : l.violation? = none) {text : String}
    (h : l.token = .number text) : ∃ m : Numeral, m.chars = text.toList := by
  cases l with
  | str s => exact absurd h (by simp [token])
  | int n =>
    exact ⟨.ofInt n.toInt, by rw [Numeral.chars_ofInt, Token.number.inj h]⟩
  | float x =>
    obtain ⟨m, hm, _⟩ := Numeral.exists_float (isFinite_of_valid hl)
    exact ⟨m, by rw [hm, Token.number.inj h]⟩

/-- An integer and a float have different texts. -/
theorem int_ne_float (n : Int64) {x : Double} (hx : x.isFinite = true) :
    toString n.toInt ≠ sqlFloat.write x := by
  intro h
  obtain ⟨m, hm, _, hwhole, _⟩ := Numeral.exists_float hx
  obtain rfl : .ofInt n.toInt = m := Numeral.chars_injective (by rw [Numeral.chars_ofInt, hm, h])
  exact absurd hwhole (by simp [Numeral.ofInt])

/-- **Valid literals are told apart by their tokens.** -/
theorem token_injective {l l' : Literal} (hl : l.violation? = none) (hl' : l'.violation? = none)
    (h : l.token = l'.token) : l = l' := by
  cases l with
  | str s =>
    cases l' with
    | str s' => rw [Token.str.inj h]
    | int n | float x => exact absurd h (by simp [token])
  | int n =>
    cases l' with
    | str s' => exact absurd h (by simp [token])
    | int n' =>
      have hchars : (Numeral.ofInt n.toInt).chars = (Numeral.ofInt n'.toInt).chars := by
        rw [Numeral.chars_ofInt, Numeral.chars_ofInt, Token.number.inj h]
      rw [Int64.toInt_inj.mp (Numeral.ofInt_injective (Numeral.chars_injective hchars))]
    | float x' => exact absurd (Token.number.inj h) (int_ne_float n (isFinite_of_valid hl'))
  | float x =>
    cases l' with
    | str s' => exact absurd h (by simp [token])
    | int n' => exact absurd (Token.number.inj h).symm (int_ne_float n' (isFinite_of_valid hl))
    | float x' =>
      rw [sqlFloat_injective (isFinite_of_valid hl) (isFinite_of_valid hl') (Token.number.inj h)]

end Literal

end SqlRender
