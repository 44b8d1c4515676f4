import Mathlib.Algebra.Order.Field.Power
import Mathlib.Data.Rat.Cast.Order
import Mathlib.Tactic.FieldSimp
import Mathlib.Tactic.Linarith
import Mathlib.Tactic.Positivity
import Mathlib.Tactic.Ring
import SqlRender.Decimal.Shortest

/-!
# Proofs/Rounding — the shortest decimal of a double belongs to no other double

Two facts about the intervals of doubles. The shortest decimal lies in the interval of its double
(`shortest_spec`): on the grid of seventeen digits the step is narrower than the interval, so the
search cannot run out. And the intervals of different magnitudes do not meet (`magnitude_unique`):
they share an end at most, and an end is in only one of the two.
-/

namespace SqlRender

namespace Double

/-! ## The fields of the 64 bits -/

theorem exponentField_eq (x : Double) : x.exponentField = x.bits.toNat / 2 ^ 52 % 2 ^ 11 := by
  have hmask : (0x7FF : UInt64).toNat = 2 ^ 11 - 1 := rfl
  rw [exponentField, UInt64.toNat_and, hmask, Nat.and_two_pow_sub_one_eq_mod,
    UInt64.toNat_shiftRight, Nat.shiftRight_eq_div_pow]
  rfl

theorem fraction_eq (x : Double) : x.fraction = x.bits.toNat % 2 ^ 52 := by
  have hmask : (0xFFFFFFFFFFFFF : UInt64).toNat = 2 ^ 52 - 1 := rfl
  rw [fraction, UInt64.toNat_and, hmask, Nat.and_two_pow_sub_one_eq_mod]

theorem isNegative_eq (x : Double) : x.isNegative = decide (x.bits.toNat / 2 ^ 63 = 1) := by
  have hshift : (x.bits >>> 63).toNat = x.bits.toNat / 2 ^ 63 := by
    rw [UInt64.toNat_shiftRight, Nat.shiftRight_eq_div_pow]
    rfl
  rw [isNegative, ← hshift, Bool.eq_iff_iff, beq_iff_eq, decide_eq_true_iff,
    ← UInt64.toNat_inj]
  rfl

/-- A double is its sign, its exponent field and its fraction. -/
theorem eq_of_fields {x y : Double} (hsign : x.isNegative = y.isNegative)
    (hexp : x.exponentField = y.exponentField) (hfrac : x.fraction = y.fraction) : x = y := by
  have hx := x.bits.toNat_lt
  have hy := y.bits.toNat_lt
  rw [isNegative_eq, isNegative_eq, decide_eq_decide] at hsign
  rw [exponentField_eq, exponentField_eq] at hexp
  rw [fraction_eq, fraction_eq] at hfrac
  have hbits : x.bits = y.bits := UInt64.toNat_inj.mp (by omega)
  obtain ⟨bx⟩ := x
  obtain ⟨by'⟩ := y
  exact congrArg Double.mk hbits

theorem fraction_lt (x : Double) : x.fraction < hiddenBit := by
  rw [fraction_eq, hiddenBit]
  omega

/-- A mantissa has 53 bits. -/
theorem mantissa_lt (x : Double) : x.mantissa < 2 * hiddenBit := by
  have h := x.fraction_lt
  rw [mantissa]
  split <;> omega

/-- A double that is not zero has a mantissa. -/
theorem mantissa_pos {x : Double} (h : x.isZero = false) : 0 < x.mantissa := by
  simp only [isZero, Bool.and_eq_false_iff, beq_eq_false_iff_ne] at h
  rw [mantissa, hiddenBit]
  split <;> omega

/-! ## Scaling -/

/-- A number has no more digits than are counted. -/
theorem lt_pow_digitCount (n : Nat) : n < 10 ^ digitCount n :=
  (Nat.length_toDigits_le_iff (by decide) Nat.length_toDigits_pos).mp le_rfl

theorem pow_digitCount_le {n : Nat} (hn : 0 < n) : 10 ^ (digitCount n - 1) ≤ n := by
  rcases Nat.eq_zero_or_pos (digitCount n - 1) with h | h
  · rw [h]
    exact hn
  · refine not_lt.mp fun hlt => ?_
    have hle : digitCount n ≤ digitCount n - 1 := (Nat.length_toDigits_le_iff (by decide) h).mpr hlt
    omega

/-- A scaled one is the power, over a denominator that is not zero. -/
theorem scaled_one {base : Nat} (hbase : 0 < base) (e : Int) :
    0 < (scaled 1 base e).2 ∧
      ((scaled 1 base e).1 : ℚ) = (base : ℚ) ^ e * (scaled 1 base e).2 := by
  have hne : (base : ℚ) ≠ 0 := by exact_mod_cast hbase.ne'
  rw [scaled, Nat.pow_eq, Nat.pow_eq]
  split
  case isTrue h =>
    have he : (base : ℚ) ^ e = (base : ℚ) ^ e.toNat := by
      rw [← zpow_natCast, Int.toNat_of_nonneg h]
    refine ⟨Nat.one_pos, ?_⟩
    rw [he]
    push_cast
    ring
  case isFalse h =>
    have he : (base : ℚ) ^ e * (base : ℚ) ^ (-e).toNat = 1 := by
      rw [← zpow_natCast, ← zpow_add₀ hne, Int.toNat_of_nonneg (by omega), add_neg_cancel,
        zpow_zero]
    refine ⟨Nat.pow_pos hbase, ?_⟩
    push_cast
    exact he.symm

end Double

namespace Decimal

/-! ## Membership in an interval -/

namespace Interval

/-- A number lies in the interval: between its ends, and on one of them only if it is closed. -/
structure Holds (i : Interval) (v : ℚ) : Prop where
  low_le : (i.low : ℚ) ≤ v * i.den
  le_high : v * i.den ≤ i.high
  ends : i.closed = false → (i.low : ℚ) ≠ v * i.den ∧ v * i.den ≠ i.high

/-- What lies between the ends rounds to the float, whether or not the ends do. -/
theorem holds_of_lt {i : Interval} {v : ℚ} (hlow : (i.low : ℚ) < v * i.den)
    (hhigh : v * i.den < i.high) : i.Holds v :=
  ⟨hlow.le, hhigh.le, fun _ => ⟨hlow.ne, hhigh.ne⟩⟩

/-- The test of membership on fractions. -/
theorem contains_eq_true {i : Interval} {n d : Nat} (hd : 0 < d) :
    i.contains n d = true ↔ i.Holds ((n : ℚ) / d) := by
  have hd' : (0 : ℚ) < d := by exact_mod_cast hd
  have hmul : (n : ℚ) / d * i.den = (n * i.den : ℕ) / (d : ℚ) := by
    push_cast
    ring
  have hlow : (i.low : ℚ) ≤ (n : ℚ) / d * i.den ↔ i.low * d ≤ n * i.den := by
    rw [hmul, le_div_iff₀ hd']
    exact_mod_cast Iff.rfl
  have hhigh : (n : ℚ) / d * i.den ≤ i.high ↔ n * i.den ≤ i.high * d := by
    rw [hmul, div_le_iff₀ hd']
    exact_mod_cast Iff.rfl
  have hlow' : (i.low : ℚ) = (n : ℚ) / d * i.den ↔ i.low * d = n * i.den := by
    rw [hmul, eq_div_iff hd'.ne']
    exact_mod_cast Iff.rfl
  have hhigh' : (n : ℚ) / d * i.den = i.high ↔ n * i.den = i.high * d := by
    rw [hmul, div_eq_iff hd'.ne']
    exact_mod_cast Iff.rfl
  have hholds : i.Holds ((n : ℚ) / d) ↔ i.low * d ≤ n * i.den ∧ n * i.den ≤ i.high * d ∧
      (i.closed = false → i.low * d ≠ n * i.den ∧ n * i.den ≠ i.high * d) := by
    rw [← hlow, ← hhigh, Ne, Ne, ← hlow', ← hhigh']
    exact ⟨fun h => ⟨h.low_le, h.le_high, h.ends⟩, fun h => ⟨h.1, h.2.1, h.2.2⟩⟩
  rw [hholds, contains]
  cases i.closed
  · simp only [Bool.false_eq_true, if_false, Bool.and_eq_true, decide_eq_true_eq, forall_const]
    omega
  · simp

/-! ## One grid -/

variable {i : Interval} {tie : Tie} {e : Int}

/-- The lower neighbour of the value on the grid `10 ^ e`. -/
def floorOn (i : Interval) (e : Int) : Nat :=
  i.value * (Double.scaled 1 10 e).2 / (i.den * (Double.scaled 1 10 e).1)

/-- The test on grid points is the one on numbers. -/
theorem contains_grid {n : Nat} :
    i.contains (n * (Double.scaled 1 10 e).1) (Double.scaled 1 10 e).2 = true
      ↔ i.Holds (n * (10 : ℚ) ^ e) := by
  obtain ⟨hpos, heq⟩ := Double.scaled_one (by decide : 0 < 10) e
  have hne : ((Double.scaled 1 10 e).2 : ℚ) ≠ 0 := by exact_mod_cast hpos.ne'
  have hv : ((n * (Double.scaled 1 10 e).1 : ℕ) : ℚ) / (Double.scaled 1 10 e).2
      = n * (10 : ℚ) ^ e := by
    rw [div_eq_iff hne]
    push_cast at heq ⊢
    rw [heq]
    ring
  rw [contains_eq_true hpos, hv]

/-- A neighbour that is chosen lies in the interval. -/
theorem holds_of_onGrid {d : Nat} (h : i.onGrid tie e = some d) :
    0 < d ∧ i.Holds (d * (10 : ℚ) ^ e) := by
  rw [← contains_grid]
  simp only [onGrid] at h
  split at h
  case h_1 hfloor _ =>
    obtain rfl := Option.some.inj h
    simpa [and_comm] using hfloor
  case h_2 hsucc =>
    obtain rfl := Option.some.inj h
    exact ⟨Nat.succ_pos _, hsucc⟩
  case h_3 => exact absurd h (by simp)
  case h_4 hfloor hsucc =>
    have hfloor' := (Bool.and_eq_true _ _).mp hfloor
    have hchoice : d = i.floorOn e ∨ d = i.floorOn e + 1 := by
      rw [floorOn]
      cases tie <;> grind
    rcases hchoice with rfl | rfl
    · exact ⟨of_decide_eq_true hfloor'.2, hfloor'.1⟩
    · exact ⟨Nat.succ_pos _, hsucc⟩

/-- No neighbour is chosen only if neither lies in the interval. -/
theorem not_holds_of_onGrid_eq_none (h : i.onGrid tie e = none) :
    (0 < i.floorOn e → ¬ i.Holds (i.floorOn e * (10 : ℚ) ^ e)) ∧
      ¬ i.Holds ((i.floorOn e + 1 : ℕ) * (10 : ℚ) ^ e) := by
  rw [← contains_grid, ← contains_grid]
  simp only [onGrid] at h
  split at h
  case h_3 hfloor hsucc =>
    refine ⟨fun hpos hin => ?_, fun hin => ?_⟩
    · have : (i.contains (i.floorOn e * (Double.scaled 1 10 e).1) (Double.scaled 1 10 e).2
          && decide (0 < i.floorOn e)) = false := hfloor
      rw [hin, decide_eq_true hpos] at this
      exact absurd this (by simp)
    · exact absurd (hsucc.symm.trans hin) (by simp)
  case h_4 => cases tie <;> grind
  all_goals exact absurd h (by simp)

/-- The value lies between its neighbours on the grid. -/
theorem floorOn_bounds (hden : 0 < i.den) :
    i.floorOn e * (10 : ℚ) ^ e * i.den ≤ i.value ∧
      (i.value : ℚ) < (i.floorOn e + 1) * (10 : ℚ) ^ e * i.den := by
  obtain ⟨hpos, heq⟩ := Double.scaled_one (by decide : 0 < 10) e
  have hpos' : (0 : ℚ) < (Double.scaled 1 10 e).2 := by exact_mod_cast hpos
  have hunit : (0 : ℚ) < (10 : ℚ) ^ e := by positivity
  have hunit' : 0 < i.den * (Double.scaled 1 10 e).1 := by
    have : (0 : ℚ) < (Double.scaled 1 10 e).1 := by
      push_cast at heq
      rw [heq]
      positivity
    exact Nat.mul_pos hden (by exact_mod_cast this)
  have hle : ((i.floorOn e * (i.den * (Double.scaled 1 10 e).1) : ℕ) : ℚ)
      ≤ (i.value * (Double.scaled 1 10 e).2 : ℕ) := by
    exact_mod_cast Nat.div_mul_le_self _ _
  have hlt : ((i.value * (Double.scaled 1 10 e).2 : ℕ) : ℚ)
      < ((i.floorOn e + 1) * (i.den * (Double.scaled 1 10 e).1) : ℕ) := by
    exact_mod_cast Nat.lt_mul_of_div_lt (Nat.lt_succ_self _) hunit'
  push_cast at heq hle hlt
  rw [heq] at hle hlt
  constructor
  · refine le_of_mul_le_mul_right ?_ hpos'
    linarith
  · refine lt_of_mul_lt_mul_right ?_ hpos'.le
    linarith

/-- **A grid that is finer than the interval has a neighbour in it.** -/
theorem onGrid_isSome (hden : 0 < i.den) (hlow : i.low < i.value) (hhigh : i.value < i.high)
    (hunit : (10 : ℚ) ^ e * i.den ≤ i.value) (hfine : (10 : ℚ) ^ e * i.den < (i.high : ℚ) - i.low) :
    (i.onGrid tie e).isSome := by
  have hden' : (0 : ℚ) < i.den := by exact_mod_cast hden
  have hlow' : (i.low : ℚ) < i.value := by exact_mod_cast hlow
  have hhigh' : (i.value : ℚ) < i.high := by exact_mod_cast hhigh
  obtain ⟨hle, hlt⟩ := floorOn_bounds (e := e) hden
  have hfloor : 0 < i.floorOn e := by
    by_contra hzero
    have : i.floorOn e = 0 := by omega
    rw [this] at hlt
    push_cast at hlt
    linarith
  refine Option.isSome_iff_ne_none.mpr fun hnone => ?_
  obtain ⟨hleft, hright⟩ := not_holds_of_onGrid_eq_none hnone
  have hleft' : i.floorOn e * (10 : ℚ) ^ e * i.den ≤ i.low :=
    not_lt.mp fun h => hleft hfloor (holds_of_lt h (by linarith))
  have hright' : (i.high : ℚ) ≤ (i.floorOn e + 1) * (10 : ℚ) ^ e * i.den := by
    refine not_lt.mp fun h => hright (holds_of_lt ?_ ?_) <;> push_cast <;> linarith
  linarith

/-! ## The search -/

/-- The search ends on the first grid with a neighbour in the interval. -/
theorem search_spec {top : Int} : ∀ {ns : List Nat} {n : Nat}, n ∈ ns →
    (i.onGrid tie (top - n)).isSome →
    ∃ k d, i.onGrid tie (top - k) = some d ∧ i.search tie top ns = ⟨d, top - k⟩
  | m :: ns, n, hmem, hsome => by
      rw [search]
      cases hm : i.onGrid tie (top - m) with
      | some d => exact ⟨m, d, hm, rfl⟩
      | none =>
        rcases List.mem_cons.mp hmem with rfl | hmem
        · rw [hm] at hsome
          exact absurd hsome (by simp)
        · exact search_spec hmem hsome

/-- The value reaches the power below its magnitude. -/
theorem pow_magnitude_le (hden : 0 < i.den) (hvalue : 0 < i.value) :
    (10 : ℚ) ^ (i.magnitude - 1) * i.den ≤ i.value := by
  rw [magnitude]
  split
  case isTrue h =>
    have hdigits : 0 < Double.digitCount (i.value / i.den) := Nat.length_toDigits_pos
    have hle : 10 ^ (Double.digitCount (i.value / i.den) - 1) * i.den ≤ i.value :=
      (Nat.le_div_iff_mul_le hden).mp (Double.pow_digitCount_le (Nat.div_pos h hden))
    have hpow : (10 : ℚ) ^ ((Double.digitCount (i.value / i.den) : Int) - 1)
        = (10 : ℚ) ^ (Double.digitCount (i.value / i.den) - 1) := by
      rw [← zpow_natCast, Nat.cast_sub hdigits, Nat.cast_one]
    rw [hpow]
    exact_mod_cast hle
  case isFalse h =>
    have hlt : i.den - 1 < 10 ^ Double.digitCount ((i.den - 1) / i.value) * i.value :=
      Nat.lt_mul_of_div_lt (Double.lt_pow_digitCount _) hvalue
    have hle : (i.den : ℚ) ≤ 10 ^ Double.digitCount ((i.den - 1) / i.value) * i.value := by
      exact_mod_cast (by omega : i.den ≤ _)
    have hpow : (10 : ℚ) ^ (1 - (Double.digitCount ((i.den - 1) / i.value) : Int) - 1)
        = ((10 : ℚ) ^ Double.digitCount ((i.den - 1) / i.value))⁻¹ := by
      rw [sub_sub_cancel_left, zpow_neg, zpow_natCast]
    rw [hpow, inv_mul_le_iff₀ (by positivity)]
    exact hle

end Interval

/-! ## Trimming -/

namespace Scientific

/-- The number that a decimal stands for. -/
def value (d : Scientific) : ℚ := d.digits * (10 : ℚ) ^ d.exponent

/-- Trimming keeps the number. -/
theorem value_trim : ∀ (fuel : Nat) (d : Scientific), (trim fuel d).value = d.value
  | 0, _ => rfl
  | fuel + 1, d => by
      rw [trim]
      split
      case isTrue h =>
        have hdigits : (d.digits : ℚ) = (d.digits / 10 : ℕ) * 10 := by
          exact_mod_cast (Nat.div_mul_cancel (Nat.dvd_of_mod_eq_zero h)).symm
        rw [value_trim fuel, value, value, hdigits, zpow_add_one₀ (by norm_num)]
        ring
      case isFalse => rfl

end Scientific

/-! ## The shortest decimal -/

/-- A quarter of the unit that the mantissa counts. -/
def quarter (x : Double) : ℚ := (2 : ℚ) ^ (x.exponent - 2)

/-- How far the interval reaches below the double, in quarters. -/
def below (x : Double) : Nat := if x.fraction = 0 && x.exponentField > 1 then 1 else 2

theorem quarter_pos (x : Double) : 0 < quarter x := by
  rw [quarter]
  positivity

/-- The lower half step is as wide as the upper one, except below a power of two. -/
theorem below_cases (x : Double) :
    below x = 2 ∨ below x = 1 ∧ x.mantissa = Double.hiddenBit ∧ 1 < x.exponentField := by
  rw [below, Double.mantissa]
  split
  case isTrue h =>
    simp only [Bool.and_eq_true, decide_eq_true_eq] at h
    exact .inr ⟨rfl, by rw [if_neg (by omega), h.1, Nat.zero_add], h.2⟩
  case isFalse => exact .inl rfl

section Shortest

variable {x : Double}

/-- The ends of the interval of a double, in quarters. -/
theorem ofDouble_ends (x : Double) :
    ((Interval.ofDouble x).low : ℚ)
        = (4 * x.mantissa - below x : ℕ) * quarter x * (Interval.ofDouble x).den ∧
      ((Interval.ofDouble x).value : ℚ)
        = (4 * x.mantissa : ℕ) * quarter x * (Interval.ofDouble x).den ∧
      ((Interval.ofDouble x).high : ℚ)
        = (4 * x.mantissa + 2 : ℕ) * quarter x * (Interval.ofDouble x).den := by
  obtain ⟨_, heq⟩ := Double.scaled_one (by decide : 0 < 2) (x.exponent - 2)
  have hunit : ((Double.scaled 1 2 (x.exponent - 2)).1 : ℚ)
      = quarter x * (Interval.ofDouble x).den := heq
  refine ⟨?_, ?_, ?_⟩ <;> rw [mul_assoc, ← hunit] <;> exact_mod_cast rfl

theorem ofDouble_den_pos (x : Double) : 0 < (Interval.ofDouble x).den :=
  (Double.scaled_one (by decide : 0 < 2) (x.exponent - 2)).1

/-- The ends belong to the even mantissa. -/
theorem ofDouble_closed (x : Double) :
    (Interval.ofDouble x).closed = false ↔ x.mantissa % 2 = 1 := by
  have hclosed : (Interval.ofDouble x).closed = (x.mantissa % 2 == 0) := rfl
  rw [hclosed, beq_eq_false_iff_ne]
  omega

/-- A number in the interval is not above its upper end, nor on it if the mantissa is odd. -/
theorem Interval.Holds.le_quarters {v : ℚ} (h : (Interval.ofDouble x).Holds v) :
    v ≤ (4 * x.mantissa + 2 : ℕ) * quarter x ∧
      (x.mantissa % 2 = 1 → v ≠ (4 * x.mantissa + 2 : ℕ) * quarter x) := by
  obtain ⟨_, _, hhigh⟩ := ofDouble_ends x
  have hden : (0 : ℚ) < (Interval.ofDouble x).den := by exact_mod_cast ofDouble_den_pos x
  refine ⟨le_of_mul_le_mul_right (hhigh ▸ h.le_high) hden, fun hodd heq => ?_⟩
  exact (h.ends ((ofDouble_closed x).mpr hodd)).2 (by rw [heq, hhigh])

/-- A number in the interval is not below its lower end, nor on it if the mantissa is odd. -/
theorem Interval.Holds.quarters_le {v : ℚ} (h : (Interval.ofDouble x).Holds v) :
    (4 * x.mantissa - below x : ℕ) * quarter x ≤ v ∧
      (x.mantissa % 2 = 1 → (4 * x.mantissa - below x : ℕ) * quarter x ≠ v) := by
  obtain ⟨hlow, _, _⟩ := ofDouble_ends x
  have hden : (0 : ℚ) < (Interval.ofDouble x).den := by exact_mod_cast ofDouble_den_pos x
  refine ⟨le_of_mul_le_mul_right (hlow ▸ h.low_le) hden, fun hodd heq => ?_⟩
  exact (h.ends ((ofDouble_closed x).mpr hodd)).1 (by rw [← heq, hlow])

/-- A float lies between its ends. -/
theorem ofDouble_order (hzero : x.isZero = false) :
    (Interval.ofDouble x).low < (Interval.ofDouble x).value ∧
      (Interval.ofDouble x).value < (Interval.ofDouble x).high := by
  obtain ⟨hlow, hvalue, hhigh⟩ := ofDouble_ends x
  have hmantissa := Double.mantissa_pos hzero
  have hbelow := below_cases x
  have hquarter : (0 : ℚ) < quarter x * (Interval.ofDouble x).den :=
    mul_pos (quarter_pos x) (by exact_mod_cast ofDouble_den_pos x)
  have hlow' : ((Interval.ofDouble x).low : ℚ) < (Interval.ofDouble x).value := by
    rw [hlow, hvalue, mul_assoc, mul_assoc]
    exact mul_lt_mul_of_pos_right (by exact_mod_cast (by omega)) hquarter
  have hhigh' : ((Interval.ofDouble x).value : ℚ) < (Interval.ofDouble x).high := by
    rw [hvalue, hhigh, mul_assoc, mul_assoc]
    exact mul_lt_mul_of_pos_right (by exact_mod_cast (by omega)) hquarter
  exact ⟨by exact_mod_cast hlow', by exact_mod_cast hhigh'⟩

/-- The interval is wider than the ten-quadrillionth part of its double. -/
theorem ofDouble_width (hzero : x.isZero = false) :
    ((Interval.ofDouble x).value : ℚ)
      < ((Interval.ofDouble x).high - (Interval.ofDouble x).low) * 10 ^ 16 := by
  obtain ⟨hlow, hvalue, hhigh⟩ := ofDouble_ends x
  have hmantissa := Double.mantissa_pos hzero
  have hlt := x.mantissa_lt
  have hbelow := below_cases x
  have hquarter : (0 : ℚ) < quarter x * (Interval.ofDouble x).den :=
    mul_pos (quarter_pos x) (by exact_mod_cast ofDouble_den_pos x)
  -- below a power of two the interval is narrower, but there the mantissa is the least one
  have hquarters : 4 * x.mantissa < (2 + below x) * 10 ^ 16 := by
    rw [Double.hiddenBit] at hlt hbelow
    omega
  have hdiff : ((4 * x.mantissa + 2 : ℕ) : ℚ) - (4 * x.mantissa - below x : ℕ)
      = (2 + below x : ℕ) := by
    rw [← Nat.cast_sub (by omega)]
    exact_mod_cast (by omega)
  rw [hlow, hvalue, hhigh, mul_assoc, mul_assoc, mul_assoc, ← sub_mul, hdiff, mul_right_comm]
  exact mul_lt_mul_of_pos_right (by exact_mod_cast hquarters) hquarter

/-- **Seventeen digits suffice**: their grid is finer than the interval. -/
theorem onGrid_seventeen (tie : Tie) (hzero : x.isZero = false) :
    ((Interval.ofDouble x).onGrid tie ((Interval.ofDouble x).magnitude - (17 : ℕ))).isSome := by
  have hden := ofDouble_den_pos x
  obtain ⟨hlow, hhigh⟩ := ofDouble_order hzero
  have hwidth := ofDouble_width hzero
  have hmagnitude := Interval.pow_magnitude_le hden (Nat.zero_lt_of_lt hlow)
  have hstep : (10 : ℚ) ^ ((Interval.ofDouble x).magnitude - 1)
      = (10 : ℚ) ^ ((Interval.ofDouble x).magnitude - (17 : ℕ)) * 10 ^ 16 := by
    rw [← zpow_natCast, ← zpow_add₀ (by norm_num)]
    congr 1
    omega
  have hunit : (0 : ℚ) < (10 : ℚ) ^ ((Interval.ofDouble x).magnitude - (17 : ℕ)) *
      (Interval.ofDouble x).den := mul_pos (by positivity) (by exact_mod_cast hden)
  rw [hstep] at hmagnitude
  exact Interval.onGrid_isSome hden hlow hhigh (by linarith) (by linarith)

/-- **The shortest decimal lies in the interval of its double.** -/
theorem shortest_spec (tie : Tie) (hzero : x.isZero = false) :
    0 < (shortest tie x).value ∧ (Interval.ofDouble x).Holds (shortest tie x).value := by
  obtain ⟨k, d, hgrid, hsearch⟩ := Interval.search_spec (by decide : 17 ∈ (List.range 18).drop 1)
    (onGrid_seventeen tie hzero)
  obtain ⟨hpos, hholds⟩ := Interval.holds_of_onGrid hgrid
  have hvalue : (shortest tie x).value
      = d * (10 : ℚ) ^ ((Interval.ofDouble x).magnitude - (k : Int)) := by
    rw [shortest, Scientific.value_trim, hsearch]
    rfl
  rw [hvalue]
  exact ⟨mul_pos (by exact_mod_cast hpos) (by positivity), hholds⟩

end Shortest

/-! ## Disjoint intervals -/

/-- The order of magnitudes, read off the fields. -/
def Lower (x y : Double) : Prop :=
  x.exponentField < y.exponentField ∨ x.exponentField = y.exponentField ∧ x.fraction < y.fraction

/-- Either the mantissas count the same unit, or the upper mantissa counts a larger one and carries
the hidden bit. -/
theorem Lower.cases {x y : Double} (h : Lower x y) :
    (x.exponent = y.exponent ∧ x.mantissa < y.mantissa ∧ below y = 2) ∨
      (x.exponent < y.exponent ∧ 4 * Double.hiddenBit - 1 ≤ 4 * y.mantissa - below y) := by
  have hfraction := x.fraction_lt
  simp only [Lower, Double.exponent, Double.mantissa, below, Bool.and_eq_true, decide_eq_true_eq,
    Double.hiddenBit] at *
  rcases h with h | ⟨h, hlt⟩
  · rw [if_neg (by omega : ¬ y.exponentField = 0), if_neg (by omega : ¬ y.exponentField = 0)]
    by_cases hone : y.exponentField = 1
    · -- the least normal exponent counts the unit of the subnormal numbers
      rw [if_pos (by omega), if_pos (by omega), if_neg (by omega)]
      omega
    · right
      split <;> split <;> omega
  · left
    rw [h, if_neg (by omega : ¬ (y.fraction = 0 ∧ _))]
    split <;> omega

/-- **The interval of the lower double ends before the other starts**; where the two ends meet, one
of the mantissas is odd. -/
theorem Lower.high_le_low {x y : Double} (h : Lower x y) :
    ∃ r : Nat, quarter y = r * quarter x ∧ 4 * x.mantissa + 2 ≤ (4 * y.mantissa - below y) * r ∧
      (4 * x.mantissa + 2 = (4 * y.mantissa - below y) * r →
        x.mantissa % 2 = 1 ∨ y.mantissa % 2 = 1) := by
  rcases h.cases with ⟨hexp, hmantissa, hbelow⟩ | ⟨hexp, hlow⟩
  · refine ⟨1, ?_, ?_, ?_⟩
    · rw [quarter, quarter, hexp, Nat.cast_one, one_mul]
    · omega
    · omega
  · have hquarter : quarter y = ((2 ^ (y.exponent - x.exponent).toNat : ℕ) : ℚ) * quarter x := by
      push_cast
      rw [quarter, quarter, ← zpow_natCast, ← zpow_add₀ (by norm_num)]
      congr 1
      omega
    have hr : 2 ≤ 2 ^ (y.exponent - x.exponent).toNat :=
      Nat.le_self_pow (by omega) 2
    have hle : (4 * Double.hiddenBit - 1) * 2
        ≤ (4 * y.mantissa - below y) * 2 ^ (y.exponent - x.exponent).toNat :=
      Nat.mul_le_mul hlow hr
    have hlt := x.mantissa_lt
    rw [Double.hiddenBit] at hle hlt
    exact ⟨_, hquarter, by omega, by omega⟩

/-- No number lies in the intervals of two magnitudes. -/
theorem Lower.not_both_hold {x y : Double} (h : Lower x y) {v : ℚ}
    (hx : (Interval.ofDouble x).Holds v) (hy : (Interval.ofDouble y).Holds v) : False := by
  obtain ⟨r, hquarter, hle, hmeet⟩ := h.high_le_low
  obtain ⟨hxhigh, hxodd⟩ := hx.le_quarters
  obtain ⟨hylow, hyodd⟩ := hy.quarters_le
  have hylow' : (4 * y.mantissa - below y : ℕ) * quarter y
      = ((4 * y.mantissa - below y) * r : ℕ) * quarter x := by
    rw [hquarter]
    push_cast
    ring
  rw [hylow'] at hylow hyodd
  have hge : (4 * y.mantissa - below y) * r ≤ 4 * x.mantissa + 2 := by
    exact_mod_cast le_of_mul_le_mul_right (hylow.trans hxhigh) (quarter_pos x)
  have hends : 4 * x.mantissa + 2 = (4 * y.mantissa - below y) * r := le_antisymm hle hge
  rw [← hends] at hylow hyodd
  rcases hmeet hends with hodd | hodd
  · exact hxodd hodd (le_antisymm hxhigh hylow)
  · exact hyodd hodd (le_antisymm hylow hxhigh)

/-- **A decimal is in the interval of one magnitude only.** -/
theorem magnitude_unique {x y : Double} {v : ℚ} (hx : (Interval.ofDouble x).Holds v)
    (hy : (Interval.ofDouble y).Holds v) :
    x.exponentField = y.exponentField ∧ x.fraction = y.fraction := by
  rcases Nat.lt_trichotomy x.exponentField y.exponentField with hlt | heq | hlt
  · exact absurd hy fun hy => Lower.not_both_hold (.inl hlt) hx hy
  · refine ⟨heq, ?_⟩
    rcases Nat.lt_trichotomy x.fraction y.fraction with hlt | heq' | hlt
    · exact absurd hy fun hy => Lower.not_both_hold (.inr ⟨heq, hlt⟩) hx hy
    · exact heq'
    · exact absurd hx fun hx => Lower.not_both_hold (.inr ⟨heq.symm, hlt⟩) hy hx
  · exact absurd hx fun hx => Lower.not_both_hold (.inl hlt) hy hx

end Decimal

end SqlRender
