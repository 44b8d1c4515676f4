import SqlRender.Decimal.Double

/-!
# Decimal/Stepwise — decimals read by one rounding per step

A quick reader takes the digits of a decimal as one integer and applies the power of ten by products
and quotients of doubles. The integer, the power and every step are rounded, so the result can be
the neighbour of the nearest double, and a decimal close to the end of the finite range can be lost.
-/

namespace SqlRender.Double

/-- The magnitude of a finite double as a fraction. -/
def ratio (x : Double) : Nat × Nat := scaled x.mantissa 2 x.exponent

/-- The product of two finite magnitudes under a sign. -/
def product (negative : Bool) (x y : Double) : Double :=
  if x.isZero || y.isZero then zero negative
  else ofFraction negative (x.ratio.1 * y.ratio.1) (x.ratio.2 * y.ratio.2)

/-- The quotient of two finite magnitudes under a sign. The divisor is not zero. -/
def quotient (negative : Bool) (x y : Double) : Double :=
  if x.isZero then zero negative
  else ofFraction negative (x.ratio.1 * y.ratio.2) (x.ratio.2 * y.ratio.1)

/-- The greatest exponent of a power of ten that is finite. -/
def greatestPower : Nat := 308

/-- The double nearest to a power of ten. -/
def powerOfTen (n : Nat) : Double := ofDecimal false 1 n

/-- Divide by the greatest power of ten, `n` times or until nothing is left. -/
def divideDown : Nat → Double → Double
  | 0, x => x
  | n + 1, x =>
    if x.isZero then x else divideDown n (quotient false x (powerOfTen greatestPower))

/-- `digits · 10 ^ exponent`, unless a step leaves the finite range. -/
def stepwise (negative : Bool) (digits : Nat) (exponent : Int) : Option Double :=
  let x := ofInt digits
  if digits = 0 then some (zero negative)
  else if 0 ≤ exponent then
    if exponent ≤ greatestPower then
      some (product negative x (powerOfTen exponent.toNat)) |>.filter isFinite
    else none
  else
    -- as many whole steps as leave a power that is finite
    let steps := (exponent.natAbs - 1) / greatestPower
    some (quotient negative (divideDown steps x)
      (powerOfTen (exponent.natAbs - steps * greatestPower)))

end SqlRender.Double
