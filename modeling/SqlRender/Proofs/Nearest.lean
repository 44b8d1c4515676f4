import SqlRender.Proofs.Rounding

/-!
# Proofs/Nearest — a decimal is read as the double whose interval holds it

A fraction is rounded to a mantissa of at most 53 bits. The double that comes of it is the one whose
interval holds the fraction (`ofFraction_of_holds`), and intervals are disjoint, so a decimal from
the interval of a double is read back as that double (`ofDecimal_of_holds`). In particular the
shortest decimal is (`ofDecimal_shortest`).
-/

namespace SqlRender

namespace Double

/-! ## Rounding a quotient -/

/-- The quotient to the nearest integer, ties to the even one. -/
def roundEven (top bottom : Nat) : Nat :=
  if 2 * (top % bottom) > bottom ∨ (2 * (top % bottom) = bottom ∧ top / bottom % 2 = 1) then
    top / bottom + 1
  else top / bottom

/-- The rounded quotient is at most half a step away, and less if it is odd. -/
theorem roundEven_near (top : Nat) {bottom : Nat} (hbottom : 0 < bottom) :
    2 * (roundEven top bottom * bottom) ≤ 2 * top + bottom ∧
      2 * top ≤ 2 * (roundEven top bottom * bottom) + bottom ∧
      (roundEven top bottom % 2 = 1 →
        2 * (roundEven top bottom * bottom) ≠ 2 * top + bottom ∧
          2 * top ≠ 2 * (roundEven top bottom * bottom) + bottom) := by
  have hdiv := Nat.div_add_mod' top bottom
  have hmod := Nat.mod_lt top hbottom
  have hsucc : (top / bottom + 1) * bottom = top / bottom * bottom + bottom := Nat.succ_mul _ _
  rw [roundEven]
  split
  · rw [hsucc]
    omega
  · omega

/-- The exponent of the leading bit of `num / den`. -/
def leadingBit (num den : Nat) : Int :=
  let guess : Int := (num.log2 : Int) - den.log2
  if num * (scaled 1 2 guess).2 ≥ den * (scaled 1 2 guess).1 then guess else guess - 1

/-- The exponent of the unit that the mantissa of `num / den` counts. -/
def unitExponent (num den : Nat) : Int := max (leadingBit num den - 52) (-1074)

/-- The mantissa of `num / den`, rounded. -/
def roundedMantissa (num den : Nat) : Nat :=
  roundEven (num * (scaled 1 2 (unitExponent num den)).2)
    (den * (scaled 1 2 (unitExponent num den)).1)

/-- The bits of `num / den` but for the sign. A mantissa that rounds up to the next power of two
carries over into the exponent. -/
def roundedBits (num den : Nat) : Nat :=
  roundedMantissa num den + (unitExponent num den + 1074).toNat * hiddenBit

/-- The nearest float is built from rounded bits, or is infinite. -/
theorem ofFraction_eq (negative : Bool) (num den : Nat) :
    ofFraction negative num den =
      if roundedBits num den ≥ 0x7FF0000000000000 then infinity negative
      else ⟨(if negative then 0x8000000000000000 else 0) + (roundedBits num den).toUInt64⟩ := rfl

section Fraction

variable {num den : Nat}

/-- A power of two, as the fraction that the rounding works with. -/
theorem scaled_two (e : Int) : 0 < (scaled 1 2 e).2 ∧ 0 < (scaled 1 2 e).1 ∧
    ((scaled 1 2 e).1 : ℚ) = (2 : ℚ) ^ e * (scaled 1 2 e).2 := by
  obtain ⟨hpos, heq⟩ := scaled_one (by decide : 0 < 2) e
  push_cast at heq
  refine ⟨hpos, ?_, heq⟩
  have hpos' : (0 : ℚ) < (scaled 1 2 e).2 := by exact_mod_cast hpos
  have : (0 : ℚ) < (scaled 1 2 e).1 := by
    rw [heq]
    positivity
  exact_mod_cast this

/-- A comparison with a power of two, on fractions. -/
theorem scaled_le_iff (hden : 0 < den) (e : Int) :
    den * (scaled 1 2 e).1 ≤ num * (scaled 1 2 e).2 ↔ (2 : ℚ) ^ e ≤ (num : ℚ) / den := by
  obtain ⟨hpos, _, heq⟩ := scaled_two e
  have hpos' : (0 : ℚ) < (scaled 1 2 e).2 := by exact_mod_cast hpos
  have hden' : (0 : ℚ) < den := by exact_mod_cast hden
  rw [le_div_iff₀ hden', ← mul_le_mul_iff_of_pos_right hpos', ← @Nat.cast_le ℚ]
  push_cast
  rw [heq]
  ring_nf

/-- The binary logarithm is the place of the leading bit. -/
theorem log2_spec {n : Nat} (hn : 0 < n) :
    (2 : ℚ) ^ (n.log2 : Int) ≤ n ∧ (n : ℚ) < (2 : ℚ) ^ ((n.log2 : Int) + 1) := by
  constructor
  · rw [zpow_natCast]
    exact_mod_cast Nat.log2_self_le hn.ne'
  · exact_mod_cast Nat.lt_log2_self (n := n)

/-- The leading bit of a fraction is the place of its binary logarithm. -/
theorem leadingBit_spec (hnum : 0 < num) (hden : 0 < den) :
    (2 : ℚ) ^ leadingBit num den ≤ (num : ℚ) / den ∧
      (num : ℚ) / den < (2 : ℚ) ^ (leadingBit num den + 1) := by
  have hden' : (0 : ℚ) < den := by exact_mod_cast hden
  obtain ⟨hnlow, hnhigh⟩ := log2_spec hnum
  obtain ⟨hdlow, hdhigh⟩ := log2_spec hden
  have hguess : (num : ℚ) / den < (2 : ℚ) ^ ((num.log2 : Int) - den.log2 + 1) := by
    rw [div_lt_iff₀ hden']
    calc (num : ℚ) < (2 : ℚ) ^ ((num.log2 : Int) + 1) := hnhigh
      _ = (2 : ℚ) ^ ((num.log2 : Int) - den.log2 + 1) * (2 : ℚ) ^ (den.log2 : Int) := by
        rw [← zpow_add₀ (by norm_num)]
        congr 1
        omega
      _ ≤ _ := by gcongr
  rw [leadingBit]
  split
  case isTrue h => exact ⟨(scaled_le_iff hden _).mp h, hguess⟩
  case isFalse h =>
    rw [ge_iff_le, scaled_le_iff hden, not_le] at h
    refine ⟨?_, by rwa [sub_add_cancel]⟩
    rw [le_div_iff₀ hden']
    calc (2 : ℚ) ^ ((num.log2 : Int) - den.log2 - 1) * den
        ≤ (2 : ℚ) ^ ((num.log2 : Int) - den.log2 - 1) * (2 : ℚ) ^ ((den.log2 : Int) + 1) := by
          gcongr
      _ = (2 : ℚ) ^ (num.log2 : Int) := by
        rw [← zpow_add₀ (by norm_num)]
        congr 1
        omega
      _ ≤ num := hnlow

/-- A fraction has 53 bits over its unit, and fewer only over the least unit. -/
theorem unitExponent_spec (hnum : 0 < num) (hden : 0 < den) :
    -1074 ≤ unitExponent num den ∧
      (num : ℚ) / den < 2 ^ 53 * (2 : ℚ) ^ unitExponent num den ∧
      (-1074 < unitExponent num den →
        2 ^ 52 * (2 : ℚ) ^ unitExponent num den ≤ (num : ℚ) / den) := by
  obtain ⟨hlow, hhigh⟩ := leadingBit_spec hnum hden
  have hunit : leadingBit num den - 52 ≤ unitExponent num den ∧ -1074 ≤ unitExponent num den ∧
      (-1074 < unitExponent num den → unitExponent num den = leadingBit num den - 52) := by
    rw [unitExponent]
    omega
  obtain ⟨htop, hleast, heq⟩ := hunit
  refine ⟨hleast, hhigh.trans_le ?_, fun h => le_trans (le_of_eq ?_) hlow⟩
  · rw [← zpow_natCast, ← zpow_add₀ (by norm_num)]
    exact zpow_le_zpow_right₀ (by norm_num) (by push_cast; omega)
  · rw [← zpow_natCast, ← zpow_add₀ (by norm_num), heq h]
    congr 1
    push_cast
    omega

end Fraction

/-! ## The mantissa of a number -/

/-- The number `v` as a mantissa `m` over the unit `2 ^ q`: at most half a unit away, and less if
the mantissa is odd. It has 53 bits, and fewer only over the least unit. -/
structure Rounds (v : ℚ) (q : Int) (m : Nat) : Prop where
  nonneg : 0 ≤ v
  least : -1074 ≤ q
  lt : v < 2 ^ 53 * (2 : ℚ) ^ q
  le : -1074 < q → 2 ^ 52 * (2 : ℚ) ^ q ≤ v
  low : 2 * m * (2 : ℚ) ^ q ≤ 2 * v + (2 : ℚ) ^ q
  high : 2 * v ≤ (2 * m + 1) * (2 : ℚ) ^ q
  odd : m % 2 = 1 → 2 * m * (2 : ℚ) ^ q ≠ 2 * v + (2 : ℚ) ^ q ∧ 2 * v ≠ (2 * m + 1) * (2 : ℚ) ^ q

/-- **The mantissa of the nearest float is the fraction, rounded on its grid.** -/
theorem rounds_fraction {num den : Nat} (hnum : 0 < num) (hden : 0 < den) :
    Rounds ((num : ℚ) / den) (unitExponent num den) (roundedMantissa num den) := by
  obtain ⟨hleast, hlt, hle⟩ := unitExponent_spec hnum hden
  have hden' : (0 : ℚ) < den := by exact_mod_cast hden
  rw [roundedMantissa]
  generalize unitExponent num den = q at hleast hlt hle ⊢
  obtain ⟨hpos, hpos₁, hscaled⟩ := scaled_two q
  obtain ⟨hnlow, hnhigh, hnodd⟩ := roundEven_near (num * (scaled 1 2 q).2)
    (Nat.mul_pos hden hpos₁)
  generalize roundEven (num * (scaled 1 2 q).2) (den * (scaled 1 2 q).1) = m at hnlow hnhigh hnodd ⊢
  -- the comparisons on naturals, divided by the common denominator
  have hc : (0 : ℚ) < den * (scaled 1 2 q).2 := mul_pos hden' (by exact_mod_cast hpos)
  have hleft : ((2 * (m * (den * (scaled 1 2 q).1)) : ℕ) : ℚ)
      = 2 * m * (2 : ℚ) ^ q * (den * (scaled 1 2 q).2) := by
    push_cast
    rw [hscaled]
    ring
  have hright : ((2 * (num * (scaled 1 2 q).2) + den * (scaled 1 2 q).1 : ℕ) : ℚ)
      = (2 * ((num : ℚ) / den) + (2 : ℚ) ^ q) * (den * (scaled 1 2 q).2) := by
    push_cast
    rw [hscaled]
    field_simp
  have hleft' : ((2 * (num * (scaled 1 2 q).2) : ℕ) : ℚ)
      = 2 * ((num : ℚ) / den) * (den * (scaled 1 2 q).2) := by
    push_cast
    field_simp
  have hright' : ((2 * (m * (den * (scaled 1 2 q).1)) + den * (scaled 1 2 q).1 : ℕ) : ℚ)
      = (2 * m + 1) * (2 : ℚ) ^ q * (den * (scaled 1 2 q).2) := by
    push_cast
    rw [hscaled]
    ring
  refine ⟨by positivity, hleast, hlt, hle, ?_, ?_, fun hodd => ⟨fun h => ?_, fun h => ?_⟩⟩
  · refine le_of_mul_le_mul_right ?_ hc
    rw [← hleft, ← hright]
    exact_mod_cast hnlow
  · refine le_of_mul_le_mul_right ?_ hc
    rw [← hleft', ← hright']
    exact_mod_cast hnhigh
  · refine (hnodd hodd).1 ?_
    rw [← @Nat.cast_inj ℚ, hleft, hright, h]
  · refine (hnodd hodd).2 ?_
    rw [← @Nat.cast_inj ℚ, hleft', hright', h]

section Rounds

variable {v : ℚ} {q : Int} {m : Nat}

/-- A rounded mantissa has 53 bits, or carries to the next power of two. -/
theorem Rounds.le_two_pow (h : Rounds v q m) : m ≤ 2 ^ 53 := by
  have hunit : (0 : ℚ) < (2 : ℚ) ^ q := by positivity
  have hlt : ((2 * m : ℕ) : ℚ) < (2 ^ 54 + 1 : ℕ) := by
    push_cast
    refine lt_of_mul_lt_mul_right ?_ hunit.le
    linarith [h.low, h.lt]
  have hlt' : 2 * m < 2 ^ 54 + 1 := by exact_mod_cast hlt
  omega

/-- Above the smallest exponent the leading bit is set. -/
theorem Rounds.two_pow_le (h : Rounds v q m) (hq : -1074 < q) : 2 ^ 52 ≤ m := by
  have hunit : (0 : ℚ) < (2 : ℚ) ^ q := by positivity
  have hle : ((2 ^ 53 : ℕ) : ℚ) ≤ (2 * m + 1 : ℕ) := by
    push_cast
    refine le_of_mul_le_mul_right ?_ hunit
    linarith [h.high, h.le hq]
  have hle' : 2 ^ 53 ≤ 2 * m + 1 := by exact_mod_cast hle
  omega

end Rounds

/-! ## The double of a mantissa -/

/-- The fields of a double given by its sign and its other bits. -/
theorem fields_of_bits (negative : Bool) (bits : Nat) (hbits : bits < 2 ^ 63) {x : Double}
    (hx : x = ⟨(if negative then 0x8000000000000000 else 0) + bits.toUInt64⟩) :
    x.isNegative = negative ∧ x.exponentField = bits / 2 ^ 52 ∧ x.fraction = bits % 2 ^ 52 := by
  have hnat : x.bits.toNat = (if negative then 2 ^ 63 else 0) + bits := by
    rw [hx, UInt64.toNat_add, Nat.toUInt64, UInt64.toNat_ofNat']
    have hsign : (if negative then 0x8000000000000000 else 0 : UInt64).toNat
        = if negative then 2 ^ 63 else 0 := by cases negative <;> rfl
    rw [hsign]
    split <;> omega
  rw [isNegative_eq, exponentField_eq, fraction_eq, hnat]
  cases negative <;> simp <;> omega

end Double

namespace Decimal

variable {x : Double} {v : ℚ}

/-- A number between the two ends rounds to the float; at an end it does if the mantissa is even. -/
theorem Interval.holds_of_quarters (hlow : (4 * x.mantissa - below x : ℕ) * quarter x ≤ v)
    (hhigh : v ≤ (4 * x.mantissa + 2 : ℕ) * quarter x)
    (hodd : x.mantissa % 2 = 1 → (4 * x.mantissa - below x : ℕ) * quarter x ≠ v ∧
      v ≠ (4 * x.mantissa + 2 : ℕ) * quarter x) :
    (Interval.ofDouble x).Holds v := by
  obtain ⟨hl, _, hh⟩ := ofDouble_ends x
  have hden : (0 : ℚ) < (Interval.ofDouble x).den := by exact_mod_cast ofDouble_den_pos x
  refine ⟨hl ▸ mul_le_mul_of_nonneg_right hlow hden.le,
    hh ▸ mul_le_mul_of_nonneg_right hhigh hden.le, fun hclosed => ?_⟩
  obtain ⟨hne, hne'⟩ := hodd ((ofDouble_closed x).mp hclosed)
  rw [hl, hh]
  exact ⟨fun h => hne (mul_right_cancel₀ hden.ne' h), fun h => hne' (mul_right_cancel₀ hden.ne' h)⟩

theorem quarter_eq {q : Int} (h : x.exponent = q) : quarter x = (2 : ℚ) ^ q / 4 := by
  rw [quarter, h, zpow_sub₀ (by norm_num)]
  norm_num

section Rounds

variable {q : Int} {m : Nat}

/-- A double holds the numbers that round to its mantissa. -/
theorem holds_of_mantissa (h : Double.Rounds v q m) (hm : x.mantissa = m) (hq : x.exponent = q) :
    (Interval.ofDouble x).Holds v := by
  have hunit : (0 : ℚ) < (2 : ℚ) ^ q := by positivity
  have hhigh := h.high
  have hlow := h.low
  refine Interval.holds_of_quarters ?_ ?_ fun hodd => ?_
  · rw [hm, quarter_eq hq]
    rcases below_cases x with hbelow | ⟨hbelow, hpow, hfield⟩
    · rcases Nat.eq_zero_or_pos m with rfl | hpos
      · simpa using h.nonneg
      · rw [hbelow, Nat.cast_sub (by omega)]
        push_cast
        linarith
    · -- the gap below is narrower, but a number below would have rounded to more bits
      have hle := h.le (by rw [← hq, Double.exponent, if_neg (by omega)]; omega)
      rw [hm, Double.hiddenBit] at hpow
      rw [hbelow, hpow]
      push_cast
      linarith
  · rw [hm, quarter_eq hq]
    push_cast
    linarith
  · have hbelow : below x = 2 := by
      rcases below_cases x with hbelow | ⟨_, hpow, _⟩
      · exact hbelow
      · rw [hpow, Double.hiddenBit] at hodd
        exact absurd hodd (by decide)
    rw [hm] at hodd ⊢
    obtain ⟨hne, hne'⟩ := h.odd hodd
    rw [hbelow, quarter_eq hq, Nat.cast_sub (by omega)]
    push_cast
    exact ⟨fun heq => hne (by linarith), fun heq => hne' (by linarith)⟩

/-- Where the mantissa carries over, half of it counts the next unit. -/
theorem holds_of_carry (h : Double.Rounds v q (2 ^ 53)) (hm : x.mantissa = 2 ^ 52)
    (hq : x.exponent = q + 1) (hbelow : below x = 1) : (Interval.ofDouble x).Holds v := by
  have hquarter : quarter x = (2 : ℚ) ^ q / 2 := by
    rw [quarter_eq hq, zpow_add_one₀ (by norm_num)]
    ring
  have hlow := h.low
  have hlt := h.lt
  push_cast at hlow
  refine Interval.holds_of_quarters ?_ ?_ fun hodd => absurd hodd (by rw [hm]; decide)
  · rw [hm, hbelow, hquarter]
    push_cast
    linarith
  · rw [hm, hquarter]
    push_cast
    linarith

/-- Without a carry the fields of the double are the mantissa and the unit. -/
theorem mantissa_of_rounds (h : Double.Rounds v q m) (hm : m < 2 ^ 53)
    (hexponent : x.exponentField = (m + (q + 1074).toNat * Double.hiddenBit) / 2 ^ 52)
    (hfraction : x.fraction = (m + (q + 1074).toNat * Double.hiddenBit) % 2 ^ 52) :
    x.mantissa = m ∧ x.exponent = q := by
  have hleast := h.least
  have hhidden := h.two_pow_le
  rw [Double.hiddenBit] at hexponent hfraction
  constructor
  · rw [Double.mantissa, Double.hiddenBit]
    split <;> omega
  · rw [Double.exponent]
    split <;> omega

/-- **The double of a rounded mantissa holds the number**, with or without a carry. -/
theorem holds_of_rounds (h : Double.Rounds v q m)
    (hexponent : x.exponentField = (m + (q + 1074).toNat * Double.hiddenBit) / 2 ^ 52)
    (hfraction : x.fraction = (m + (q + 1074).toNat * Double.hiddenBit) % 2 ^ 52) :
    (Interval.ofDouble x).Holds v := by
  rcases h.le_two_pow.eq_or_lt with rfl | hm
  · have hleast := h.least
    rw [Double.hiddenBit] at hexponent hfraction
    have hfield : x.exponentField = (q + 1076).toNat := by omega
    have hzero : x.fraction = 0 := by omega
    refine holds_of_carry h ?_ ?_ ?_
    · rw [Double.mantissa, if_neg (by omega), hzero, Nat.zero_add]
      rfl
    · rw [Double.exponent, if_neg (by omega)]
      omega
    · rw [below, hzero, if_pos (by simp; omega)]
  · obtain ⟨hmantissa, hunit⟩ := mantissa_of_rounds h hm hexponent hfraction
    exact holds_of_mantissa h hmantissa hunit

/-- A mantissa beyond the finite range is one of a number beyond it. -/
theorem Rounds.le_of_overflow (h : Double.Rounds v q m)
    (hover : 0x7FF0000000000000 ≤ m + (q + 1074).toNat * Double.hiddenBit) :
    (2 ^ 54 - 1) * (2 : ℚ) ^ (970 : Int) ≤ v := by
  have hm := h.le_two_pow
  have hleast := h.least
  rw [Double.hiddenBit] at hover
  rcases (by omega : q = 971 ∧ m = 2 ^ 53 ∨ 972 ≤ q) with ⟨rfl, rfl⟩ | hq
  · have hlow := h.low
    have hunit : (2 : ℚ) ^ (971 : Int) = 2 ^ (970 : Int) * 2 := by
      rw [← zpow_add_one₀ (by norm_num)]
      rfl
    rw [hunit] at hlow
    generalize (2 : ℚ) ^ (970 : Int) = unit at hlow ⊢
    push_cast at hlow
    linarith
  · have hle := h.le (by omega)
    have hunit : (2 : ℚ) ^ (970 : Int) * 4 ≤ 2 ^ q := by
      refine le_trans (le_of_eq ?_) (zpow_le_zpow_right₀ (by norm_num) hq)
      rw [show (972 : Int) = 970 + 2 from rfl, zpow_add₀ (by norm_num)]
      norm_num
    have hpos : (0 : ℚ) < 2 ^ (970 : Int) := by positivity
    generalize (2 : ℚ) ^ (970 : Int) = unit at hunit hpos ⊢
    linarith

end Rounds

/-- A finite double holds no number beyond the finite range. -/
theorem Interval.Holds.lt_overflow (h : (Interval.ofDouble x).Holds v) (hx : x.isFinite = true) :
    v < (2 ^ 54 - 1) * (2 : ℚ) ^ (970 : Int) := by
  obtain ⟨hle, hodd⟩ := h.le_quarters
  have hlt := x.mantissa_lt
  rw [Double.hiddenBit] at hlt
  have hquarter : quarter x * 2 ≤ (2 : ℚ) ^ (970 : Int) := by
    have hfield : x.exponentField < 2 ^ 11 := by
      rw [Double.exponentField_eq]
      omega
    have hfinite : x.exponentField ≠ 2047 := by simpa [Double.isFinite] using hx
    rw [quarter, ← zpow_add_one₀ (by norm_num)]
    refine zpow_le_zpow_right₀ (by norm_num) ?_
    rw [Double.exponent]
    split <;> omega
  have hpos := quarter_pos x
  have hstrict : v < (2 ^ 55 - 2 : ℕ) * quarter x := by
    rcases Nat.mod_two_eq_zero_or_one x.mantissa with heven | hone
    · exact hle.trans_lt (mul_lt_mul_of_pos_right (by exact_mod_cast (by omega)) hpos)
    · refine (lt_of_le_of_ne hle (hodd hone)).trans_le ?_
      exact mul_le_mul_of_nonneg_right (by exact_mod_cast (by omega)) hpos.le
  push_cast at hstrict
  linarith

end Decimal

namespace Double

open Decimal

/-- **Rounding a fraction finds the double that holds it.** -/
theorem ofFraction_of_holds {x : Double} (hx : x.isFinite = true) {num den : Nat} (hnum : 0 < num)
    (hden : 0 < den) (h : (Interval.ofDouble x).Holds ((num : ℚ) / den)) :
    ofFraction x.isNegative num den = x := by
  have hrounds := rounds_fraction hnum hden
  rw [ofFraction_eq]
  split
  case isTrue hover =>
    exact absurd (h.lt_overflow hx) (not_lt.mpr (Rounds.le_of_overflow hrounds hover))
  case isFalse hover =>
    obtain ⟨hsign, hexponent, hfraction⟩ :=
      fields_of_bits x.isNegative (roundedBits num den) (by omega) rfl
    obtain ⟨hexponent', hfraction'⟩ :=
      magnitude_unique (holds_of_rounds hrounds hexponent hfraction) h
    exact eq_of_fields hsign hexponent' hfraction'

/-- A scaled number is its product with the power, over a denominator that is not zero. -/
theorem scaled_eq (n : Nat) {base : Nat} (hbase : 0 < base) (e : Int) :
    0 < (scaled n base e).2 ∧
      ((scaled n base e).1 : ℚ) / (scaled n base e).2 = n * (base : ℚ) ^ e := by
  obtain ⟨hpos, heq⟩ := scaled_one hbase e
  have hsnd : (scaled n base e).2 = (scaled 1 base e).2 := by
    rw [scaled, scaled]
    split <;> rfl
  have hfst : (scaled n base e).1 = n * (scaled 1 base e).1 := by
    rw [scaled, scaled]
    split <;> simp
  have hne : ((scaled 1 base e).2 : ℚ) ≠ 0 := by exact_mod_cast hpos.ne'
  refine ⟨hsnd ▸ hpos, ?_⟩
  rw [hsnd, hfst, div_eq_iff hne]
  push_cast at heq ⊢
  rw [heq]
  ring

/-- The powers of ten around a decimal. -/
theorem decimal_bounds {digits : Nat} (hdigits : 0 < digits) (e : Int) :
    (10 : ℚ) ^ (e + digitCount digits - 1) ≤ digits * (10 : ℚ) ^ e ∧
      digits * (10 : ℚ) ^ e < (10 : ℚ) ^ (e + digitCount digits) := by
  have hcount : 0 < digitCount digits := Nat.length_toDigits_pos
  have hpow : (0 : ℚ) < 10 ^ e := by positivity
  constructor
  · have hle : ((10 ^ (digitCount digits - 1) : ℕ) : ℚ) ≤ digits := by
      exact_mod_cast pow_digitCount_le hdigits
    have hsplit : (10 : ℚ) ^ (e + digitCount digits - 1)
        = (10 ^ (digitCount digits - 1) : ℕ) * (10 : ℚ) ^ e := by
      push_cast
      rw [← zpow_natCast, ← zpow_add₀ (by norm_num)]
      congr 1
      omega
    rw [hsplit]
    exact mul_le_mul_of_nonneg_right hle hpow.le
  · have hlt : (digits : ℚ) < (10 ^ digitCount digits : ℕ) := by
      exact_mod_cast lt_pow_digitCount digits
    have hsplit : (10 : ℚ) ^ (e + digitCount digits)
        = (10 ^ digitCount digits : ℕ) * (10 : ℚ) ^ e := by
      push_cast
      rw [← zpow_natCast, ← zpow_add₀ (by norm_num), add_comm]
    rw [hsplit]
    exact mul_lt_mul_of_pos_right hlt hpow

/-- A comparison of powers, from the naturals. -/
theorem cast_mul_two_pow_lt {a k n : Nat} (h : a * 2 ^ k < 10 ^ n) :
    (a : ℚ) * 2 ^ (k : Int) < (10 : ℚ) ^ (n : Int) := by
  rw [zpow_natCast, zpow_natCast]
  exact_mod_cast h

/-- The finite range ends below `10 ^ 310`. -/
theorem overflow_lt : (2 ^ 54 - 1) * (2 : ℚ) ^ (970 : Int) < (10 : ℚ) ^ (310 : Int) := by
  have hcast : ((2 ^ 54 - 1 : ℕ) : ℚ) = 2 ^ 54 - 1 := by norm_num
  rw [← hcast]
  exact cast_mul_two_pow_lt (by decide +kernel)

/-- A double that is not zero holds no number below `10 ^ (-330)`. -/
theorem underflow_lt {x : Double} (hzero : x.isZero = false) {v : ℚ}
    (h : (Interval.ofDouble x).Holds v) : (10 : ℚ) ^ (-330 : Int) < v := by
  have hm := mantissa_pos hzero
  have hbelow := below_cases x
  have hquarter : (2 : ℚ) ^ (-(1076 : Int)) ≤ quarter x := by
    rw [quarter, exponent]
    refine zpow_le_zpow_right₀ (by norm_num) ?_
    split <;> omega
  have hone : ((1 : ℕ) : ℚ) ≤ (4 * x.mantissa - below x : ℕ) := by exact_mod_cast (by omega)
  have hpow : (2 : ℚ) ^ (1076 : Int) < (10 : ℚ) ^ (330 : Int) := by
    have hlt := cast_mul_two_pow_lt (a := 1) (k := 1076) (n := 330) (by decide +kernel)
    rwa [Nat.cast_one, one_mul] at hlt
  calc (10 : ℚ) ^ (-330 : Int) = ((10 : ℚ) ^ (330 : Int))⁻¹ := zpow_neg _ _
    _ < ((2 : ℚ) ^ (1076 : Int))⁻¹ := inv_strictAnti₀ (by positivity) hpow
    _ = (2 : ℚ) ^ (-(1076 : Int)) := (zpow_neg _ _).symm
    _ ≤ quarter x := hquarter
    _ = (1 : ℕ) * quarter x := by rw [Nat.cast_one, one_mul]
    _ ≤ (4 * x.mantissa - below x : ℕ) * quarter x :=
      mul_le_mul_of_nonneg_right hone (quarter_pos x).le
    _ ≤ v := h.quarters_le.1

/-- **A decimal is read as the double that holds it.** -/
theorem ofDecimal_of_holds {x : Double} (hx : x.isFinite = true) (hzero : x.isZero = false)
    {digits : Nat} (hdigits : 0 < digits) {e : Int}
    (h : (Interval.ofDouble x).Holds (digits * (10 : ℚ) ^ e)) :
    ofDecimal x.isNegative digits e = x := by
  obtain ⟨hlow, hhigh⟩ := decimal_bounds hdigits e
  have hsmall : ¬ e + digitCount digits > 310 := by
    intro hlarge
    have hle : (10 : ℚ) ^ (310 : Int) ≤ (10 : ℚ) ^ (e + digitCount digits - 1) :=
      zpow_le_zpow_right₀ (by norm_num) (by omega)
    exact absurd (h.lt_overflow hx) (not_lt.mpr (overflow_lt.le.trans (hle.trans hlow)))
  have hlarge : ¬ e + digitCount digits < -330 := by
    intro hsmall
    have hle : (10 : ℚ) ^ (e + digitCount digits) ≤ (10 : ℚ) ^ (-330 : Int) :=
      zpow_le_zpow_right₀ (by norm_num) (by omega)
    exact absurd (hhigh.trans_le hle) (not_lt.mpr (underflow_lt hzero h).le)
  obtain ⟨hpos, heq⟩ := scaled_eq digits (by decide : 0 < 10) e
  have hnum : 0 < (scaled digits 10 e).1 := by
    refine Nat.pos_of_ne_zero fun hz => ?_
    rw [hz, Nat.cast_zero, zero_div] at heq
    have : (0 : ℚ) < digits * (10 : ℚ) ^ e := mul_pos (by exact_mod_cast hdigits) (by positivity)
    exact this.ne (by exact_mod_cast heq)
  rw [ofDecimal, if_neg hdigits.ne']
  dsimp only
  rw [if_neg hsmall, if_neg hlarge]
  exact ofFraction_of_holds hx hnum hpos (by rw [heq]; exact_mod_cast h)

theorem zero_eq {x : Double} (h : x.isZero = true) : zero x.isNegative = x := by
  simp only [isZero, Bool.and_eq_true, beq_iff_eq] at h
  have hbits : zero x.isNegative
      = ⟨(if x.isNegative then 0x8000000000000000 else 0) + Nat.toUInt64 0⟩ := by
    rw [zero]
    cases x.isNegative <;> rfl
  obtain ⟨hsign, hexponent, hfraction⟩ := fields_of_bits x.isNegative 0 (by decide) hbits
  exact eq_of_fields hsign (hexponent.trans h.1.symm) (hfraction.trans h.2.symm)

/-- **The shortest decimal of a double is read back as the double.** -/
theorem ofDecimal_shortest {x : Double} (hx : x.isFinite = true) (hzero : x.isZero = false)
    (tie : Tie) {digits : Nat} {e : Int} (h : digits * (10 : ℚ) ^ e = (shortest tie x).value) :
    ofDecimal x.isNegative digits e = x := by
  obtain ⟨hpos, hholds⟩ := shortest_spec tie hzero
  rw [← h] at hpos hholds
  have hdigits : 0 < digits := by
    refine Nat.pos_of_ne_zero fun hz => hpos.ne' ?_
    rw [hz, Nat.cast_zero, zero_mul]
  exact ofDecimal_of_holds hx hzero hdigits hholds

end Double

end SqlRender
