import SqlRender.Proofs.JsonText
import SqlRender.Proofs.Nearest

/-!
# Proofs/ShortFloat — short decimals are read without losing a bit

Reading a decimal in steps rounds the digits, the power of ten and what comes of the two. A number
that a mantissa can count is not rounded (`value_ofFraction`), and that is so of digits below
`2 ^ 53` and of the powers up to `10 ^ 22`. Then only the last step rounds, and the result is the
double that holds the decimal (`stepwise_of_holds`). So a float is read back if its text has at most
fifteen digits and a small power of ten (`readsBack_of_short`); with a higher power it may be lost.
-/

namespace SqlRender

open Decimal

namespace Double

/-! ## Numbers that are not rounded -/

/-- The magnitude of a finite double. -/
def value (x : Double) : ℚ := x.mantissa * (2 : ℚ) ^ x.exponent

/-- The fraction that the arithmetic works with has the value of the float. -/
theorem ratio_spec (x : Double) : 0 < x.ratio.2 ∧ (x.ratio.1 : ℚ) / x.ratio.2 = x.value :=
  scaled_eq x.mantissa (by decide) x.exponent

theorem isZero_of_value_pos {x : Double} (h : 0 < x.value) : x.isZero = false := by
  rw [Bool.eq_false_iff]
  intro hzero
  simp only [isZero, Bool.and_eq_true, beq_iff_eq] at hzero
  rw [value, mantissa, if_pos hzero.1, hzero.2, Nat.cast_zero, zero_mul] at h
  exact h.ne rfl

theorem ratio_pos {x : Double} (h : 0 < x.value) : 0 < x.ratio.1 := by
  obtain ⟨_, hvalue⟩ := x.ratio_spec
  refine Nat.pos_of_ne_zero fun hzero => ?_
  rw [hzero, Nat.cast_zero, zero_div] at hvalue
  exact h.ne hvalue

/-- A number that a mantissa counts is not rounded. -/
theorem Rounds.exact {v : ℚ} {q : Int} {m : Nat} (h : Rounds v q m) {k : Nat} {j : Int}
    (hk : k < 2 ^ 53) (hj : -1074 ≤ j) (hv : v = k * (2 : ℚ) ^ j) : v = m * (2 : ℚ) ^ q := by
  have hqj : q ≤ j := by
    by_contra hlt
    have hle := h.le (by omega)
    have hunit : (2 : ℚ) ^ (j + 1) ≤ 2 ^ q := zpow_le_zpow_right₀ (by norm_num) (by omega)
    rw [zpow_add_one₀ (by norm_num)] at hunit
    have hcount : (k : ℚ) < 2 ^ 53 := by exact_mod_cast hk
    have hpos : (0 : ℚ) < 2 ^ j := by positivity
    rw [hv] at hle
    nlinarith
  obtain ⟨d, rfl⟩ : ∃ d : Nat, j = q + d := ⟨(j - q).toNat, by omega⟩
  have hcount : v = (k * 2 ^ d : ℕ) * (2 : ℚ) ^ q := by
    rw [hv, zpow_add₀ (by norm_num), zpow_natCast]
    push_cast
    ring
  have hunit : (0 : ℚ) < 2 ^ q := by positivity
  -- at most half a unit lies between two whole counts of units
  have hlow : ((2 * m : ℕ) : ℚ) ≤ (2 * (k * 2 ^ d) + 1 : ℕ) := by
    refine le_of_mul_le_mul_right ?_ hunit
    have := h.low
    rw [hcount] at this
    push_cast at this ⊢
    linarith
  have hhigh : ((2 * (k * 2 ^ d) : ℕ) : ℚ) ≤ (2 * m + 1 : ℕ) := by
    refine le_of_mul_le_mul_right ?_ hunit
    have := h.high
    rw [hcount] at this
    push_cast at this ⊢
    linarith
  rw [Nat.cast_le] at hlow hhigh
  rw [hcount, (by omega : k * 2 ^ d = m)]

/-- **A fraction that a mantissa counts is its own double.** -/
theorem value_ofFraction (negative : Bool) {num den : Nat} (hnum : 0 < num) (hden : 0 < den)
    {k : Nat} {j : Int} (hk : k < 2 ^ 53) (hj : -1074 ≤ j)
    (hv : (num : ℚ) / den = k * (2 : ℚ) ^ j) (hrange : (num : ℚ) / den ≤ (2 : ℚ) ^ (970 : Int)) :
    (ofFraction negative num den).value = (num : ℚ) / den := by
  have hrounds := rounds_fraction hnum hden
  have hexact := hrounds.exact hk hj hv
  have hunit : (0 : ℚ) < 2 ^ unitExponent num den := by positivity
  have hm : roundedMantissa num den < 2 ^ 53 := by
    have hlt := hrounds.lt
    rw [hexact] at hlt
    exact_mod_cast lt_of_mul_lt_mul_right hlt hunit.le
  rw [ofFraction_eq]
  split
  case isTrue hover =>
    have hlarge := (Rounds.le_of_overflow hrounds hover).trans hrange
    have hpos : (0 : ℚ) < 2 ^ (970 : Int) := by positivity
    generalize (2 : ℚ) ^ (970 : Int) = unit at hlarge hpos
    linarith
  case isFalse hover =>
    obtain ⟨_, hexponent, hfraction⟩ :=
      fields_of_bits negative (roundedBits num den) (by omega) rfl
    obtain ⟨hmantissa, hq⟩ := mantissa_of_rounds hrounds hm hexponent hfraction
    rw [value, hmantissa, hq]
    exact hexact.symm

/-- A decimal in the finite range is rounded as a fraction. -/
theorem ofDecimal_eq_ofFraction (negative : Bool) {digits : Nat} (hdigits : 0 < digits) {e : Int}
    (hlow : -330 ≤ e + digitCount digits) (hhigh : e + digitCount digits ≤ 310) :
    ofDecimal negative digits e
      = ofFraction negative (scaled digits 10 e).1 (scaled digits 10 e).2 := by
  rw [ofDecimal, if_neg hdigits.ne']
  dsimp only
  rw [if_neg (by omega), if_neg (by omega)]

/-- Up to 53 bits every integer is a float. -/
theorem value_ofInt {n : Nat} (hn : 0 < n) (h : n < 2 ^ 53) : (ofInt n).value = n := by
  have hcount : digitCount n ≤ 16 := by
    have hlt : 10 ^ (digitCount n - 1) < 10 ^ 16 :=
      (pow_digitCount_le hn).trans_lt (h.trans (by decide))
    have := (Nat.pow_lt_pow_iff_right (by decide)).mp hlt
    omega
  have hone : ((1 : ℕ) : ℚ) = 1 := Nat.cast_one
  have hfraction : ofInt n = ofFraction false n 1 := by
    have hsign : decide ((n : Int) < 0) = false := by simp
    rw [ofInt, hsign, Int.natAbs_natCast, ofDecimal_eq_ofFraction _ hn (by omega) (by omega)]
    simp [scaled]
  rw [hfraction, value_ofFraction false hn Nat.one_pos h (by decide : -1074 ≤ (0 : Int)),
    hone, div_one]
  · rw [hone, div_one, zpow_zero, mul_one]
  · rw [hone, div_one]
    have hle : (n : ℚ) ≤ 2 ^ (53 : Int) := by exact_mod_cast h.le
    exact hle.trans (zpow_le_zpow_right₀ (by norm_num) (by decide))

/-- Up to 22 every power of ten is a float. -/
theorem value_powerOfTen {p : Nat} (hp : p ≤ 22) : (powerOfTen p).value = (10 : ℚ) ^ p := by
  have hone : ((1 : ℕ) : ℚ) = 1 := Nat.cast_one
  have hcount : digitCount 1 = 1 := rfl
  have hfraction : powerOfTen p = ofFraction false (10 ^ p) 1 := by
    rw [powerOfTen, ofDecimal_eq_ofFraction _ Nat.one_pos (by omega) (by omega)]
    simp [scaled]
  have hfive : 5 ^ p < 2 ^ 53 :=
    (Nat.pow_le_pow_right (by decide) hp).trans_lt (by decide)
  have hsplit : ((10 ^ p : ℕ) : ℚ) / (1 : ℕ) = (5 ^ p : ℕ) * (2 : ℚ) ^ (p : Int) := by
    rw [hone, div_one, zpow_natCast]
    push_cast
    rw [← mul_pow]
    norm_num
  rw [hfraction, value_ofFraction false (by positivity) Nat.one_pos hfive (by omega) hsplit]
  · push_cast
    rw [div_one]
  · rw [hone, div_one]
    calc ((10 ^ p : ℕ) : ℚ) ≤ (10 ^ 22 : ℕ) := by exact_mod_cast Nat.pow_le_pow_right (by decide) hp
      _ ≤ (2 : ℚ) ^ (74 : Int) := by norm_num
      _ ≤ (2 : ℚ) ^ (970 : Int) := zpow_le_zpow_right₀ (by norm_num) (by decide)

/-! ## One rounding at the end -/

section Steps

variable {t x y : Double} (ht : t.isFinite = true) (hx : 0 < x.value) (hy : 0 < y.value)

include ht hx hy

/-- A product is the float that its exact value rounds to. -/
theorem product_of_holds (h : (Interval.ofDouble t).Holds (x.value * y.value)) :
    product t.isNegative x y = t := by
  obtain ⟨hxden, hxvalue⟩ := x.ratio_spec
  obtain ⟨hyden, hyvalue⟩ := y.ratio_spec
  rw [product, isZero_of_value_pos hx, isZero_of_value_pos hy, if_neg (by decide)]
  refine ofFraction_of_holds ht (Nat.mul_pos (ratio_pos hx) (ratio_pos hy))
    (Nat.mul_pos hxden hyden) ?_
  rw [← hxvalue, ← hyvalue, div_mul_div_comm] at h
  exact_mod_cast h

/-- A quotient is the float that its exact value rounds to. -/
theorem quotient_of_holds (h : (Interval.ofDouble t).Holds (x.value / y.value)) :
    quotient t.isNegative x y = t := by
  obtain ⟨hxden, hxvalue⟩ := x.ratio_spec
  obtain ⟨hyden, hyvalue⟩ := y.ratio_spec
  rw [quotient, isZero_of_value_pos hx, if_neg (by decide)]
  refine ofFraction_of_holds ht (Nat.mul_pos (ratio_pos hx) hyden)
    (Nat.mul_pos hxden (ratio_pos hy)) ?_
  rw [← hxvalue, ← hyvalue, div_div_div_eq] at h
  exact_mod_cast h

end Steps

/-- **A short decimal is read in steps as the double that holds it.** -/
theorem stepwise_of_holds {t : Double} (ht : t.isFinite = true) {n : Nat} (hn : 0 < n)
    (hn' : n < 2 ^ 53) {e : Int} (he : e.natAbs ≤ 22)
    (h : (Interval.ofDouble t).Holds (n * (10 : ℚ) ^ e)) : stepwise t.isNegative n e = some t := by
  have hvalue := value_ofInt hn hn'
  have hpos : 0 < (ofInt n).value := by
    rw [hvalue]
    exact_mod_cast hn
  have hpower : ∀ p : Nat, p ≤ 22 → 0 < (powerOfTen p).value := fun p hp => by
    rw [value_powerOfTen hp]
    positivity
  rw [stepwise]
  dsimp only
  rw [if_neg hn.ne']
  by_cases hsign : 0 ≤ e
  · obtain ⟨p, rfl⟩ := Int.eq_ofNat_of_zero_le hsign
    have hp : p ≤ 22 := he
    rw [if_pos hsign, if_pos (by rw [greatestPower]; omega), Int.toNat_natCast,
      product_of_holds ht hpos (hpower p hp)]
    · simp [ht]
    · rw [hvalue, value_powerOfTen hp]
      exact_mod_cast h
  · obtain ⟨p, rfl⟩ : ∃ p : Nat, e = -(p : Int) := ⟨e.natAbs, by omega⟩
    have hp : p ≤ 22 := by omega
    have hsteps : (p - 1) / greatestPower = 0 := Nat.div_eq_of_lt (by rw [greatestPower]; omega)
    rw [if_neg hsign, Int.natAbs_neg, Int.natAbs_natCast, hsteps, Nat.zero_mul, Nat.sub_zero,
      divideDown, quotient_of_holds ht hpos (hpower p hp)]
    rw [hvalue, value_powerOfTen hp]
    rw [zpow_neg, zpow_natCast] at h
    rwa [div_eq_mul_inv]

end Double

namespace Reading

/-! ## The digits of a text -/

theorem le_digitsValue (ds : List Char) (n : Nat) :
    n ≤ ds.foldl (fun n d => n * 10 + (d.toNat - 0x30)) n := by
  induction ds generalizing n with
  | nil => exact le_rfl
  | cons d ds ih =>
    rw [List.foldl_cons]
    exact le_trans (by omega) (ih _)

/-- Digits are taken to the end if a machine word holds them all. -/
theorem takeDigits_eq {ds : List Char} {n : Nat}
    (h : ds.foldl (fun n d => n * 10 + (d.toNat - 0x30)) n < wordSize) :
    takeDigits n ds = (ds.foldl (fun n d => n * 10 + (d.toNat - 0x30)) n, ds.length) := by
  induction ds generalizing n with
  | nil => rfl
  | cons d ds ih =>
    rw [List.foldl_cons] at h ⊢
    rw [takeDigits]
    dsimp only
    rw [if_pos ((le_digitsValue ds _).trans_lt h), ih h]
    rfl

/-- If all digits fit a machine word, all are taken. -/
theorem ofDigits_eq {negative : Bool} {whole fraction : List Char} {e : Int}
    (h : digitsValue (whole ++ fraction) < wordSize) {x : Double}
    (hx : Double.stepwise negative (digitsValue (whole ++ fraction)) (e - fraction.length)
      = some x) : ofDigits negative whole fraction e = .float x := by
  rw [digitsValue, List.foldl_append] at h hx
  have hwhole := takeDigits_eq ((le_digitsValue fraction _).trans_lt h)
  have hall := takeDigits_eq h
  rw [ofDigits, hwhole]
  dsimp only
  rw [hall]
  dsimp only
  rw [sub_self, add_zero, hx]

end Reading

/-! ## Short floats -/

/-- At most fifteen digits, and a power of ten that a double counts exactly. -/
structure Numeral.IsShort (n : Numeral) : Prop where
  digits : (n.whole.chars ++ fractionDigits n.fraction).length ≤ 15
  power : (power n.exponent - (fractionDigits n.fraction).length).natAbs ≤ 22

/-- Fifteen digits fit the mantissa of a float. -/
theorem Numeral.IsShort.digitsValue_lt {n : Numeral} (h : n.IsShort) :
    Reading.digitsValue (n.whole.chars ++ fractionDigits n.fraction) < 10 ^ 15 := by
  have hall : ∀ c ∈ n.whole.chars ++ fractionDigits n.fraction, c.isDigit = true := by
    intro c hc
    rcases List.mem_append.mp hc with hc | hc
    · exact n.whole.all_isDigit c hc
    · cases hf : n.fraction with
      | none =>
        rw [hf] at hc
        cases hc
      | some ds =>
        rw [hf] at hc
        exact ds.all_isDigit c hc
  rw [Reading.digitsValue_eq]
  exact (ofDigitChars_lt hall).trans_le (Nat.pow_le_pow_right (by decide) h.digits)

/-- The number that a short numeral stands for, read in steps. -/
theorem Numeral.IsFloat.stepwise_eq {x : Double} (hx : x.isFinite = true) {n : Numeral}
    {text : String} (hn : n.IsFloat true x.isNegative text
      (if x.isZero then 0 else (shortest .even x).value)) (hshort : n.IsShort) :
    Double.stepwise n.negative
      (Reading.digitsValue (n.whole.chars ++ fractionDigits n.fraction))
      (power n.exponent - (fractionDigits n.fraction).length) = some x := by
  have hlt := hshort.digitsValue_lt
  have hmagnitude := hn.magnitude_eq
  rw [magnitude, ← Reading.digitsValue_eq] at hmagnitude
  rw [hn.negative_eq]
  cases hzero : x.isZero with
  | true =>
    rw [hzero, if_pos rfl] at hmagnitude
    have hpower : (10 : ℚ) ^ (power n.exponent - (fractionDigits n.fraction).length) ≠ 0 := by
      positivity
    have hnone : Reading.digitsValue (n.whole.chars ++ fractionDigits n.fraction) = 0 := by
      exact_mod_cast (mul_eq_zero.mp hmagnitude).resolve_right hpower
    rw [hnone, Double.stepwise, if_pos rfl, Double.zero_eq hzero]
  | false =>
    rw [hzero, if_neg (by decide)] at hmagnitude
    obtain ⟨hpos, hholds⟩ := shortest_spec .even hzero
    rw [← hmagnitude] at hpos hholds
    have hdigits : 0 < Reading.digitsValue (n.whole.chars ++ fractionDigits n.fraction) := by
      refine Nat.pos_of_ne_zero fun hnone => ?_
      rw [hnone, Nat.cast_zero, zero_mul] at hpos
      exact hpos.ne rfl
    exact Double.stepwise_of_holds hx hdigits (hlt.trans (by decide)) hshort.power hholds

/-- **Short floats are read back.** If the text of a finite float is a short numeral, the float is
what is read of that text. -/
theorem Double.readsBack_of_short {x : Double} (hx : x.isFinite = true) {n : Numeral}
    (htext : (Json.floatText x).toList = n.spelled true) (hshort : n.IsShort) : x.ReadsBack := by
  obtain ⟨m, hm, hn⟩ := Reading.exists_floatText hx
  obtain rfl : n = m := Numeral.spelled_injective (htext.symm.trans hm)
  have hread : Reading.ofNumeral n = .float x := by
    have hpoint : (n.fraction.isNone && n.exponent.isNone) = false := by
      rcases hn.not_whole with h | h <;> simp [Option.isNone_eq_false_iff.mpr h]
    rw [Reading.ofNumeral, hpoint, if_neg (by decide)]
    exact Reading.ofDigits_eq (hshort.digitsValue_lt.trans (by decide))
      (hn.stepwise_eq hx hshort)
  have hnumber : Reading.number (n.spelled true ++ []) = some (Reading.ofNumeral n, []) :=
    Reading.number_spelled n hn.canonical (by simp [Reading.NumberEnd])
  rwa [List.append_nil, ← htext, hread] at hnumber

/-- A power of ten that is rounded can cost the last bit: `1e-23` is read as its neighbour. -/
example : ¬ (⟨0x3B282DB34012B251⟩ : Double).ReadsBack := by decide +kernel

end SqlRender
