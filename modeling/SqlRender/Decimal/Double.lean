/-!
# Decimal/Double — double-precision numbers as their 64 bits

A finite value is `mantissa · 2 ^ exponent` with its sign. Everything that depends on the value of a
number, such as its decimal text, is computed from these two integers.
-/

namespace SqlRender

/-- A binary floating-point number in the interchange format of 64 bits. -/
structure Double where
  bits : UInt64
  deriving DecidableEq, Repr, Inhabited

namespace Double

/-- The sign bit; zeros have one too. -/
def isNegative (x : Double) : Bool := x.bits >>> 63 == 1

/-- The eleven exponent bits. -/
def exponentField (x : Double) : Nat := ((x.bits >>> 52) &&& 0x7FF).toNat

/-- The 52 fraction bits. -/
def fraction (x : Double) : Nat := (x.bits &&& 0xFFFFFFFFFFFFF).toNat

/-- Neither infinite nor no number: the exponent field is not full. -/
def isFinite (x : Double) : Bool := x.exponentField != 0x7FF

/-- No number: a full exponent field over a fraction. -/
def isNaN (x : Double) : Bool := !x.isFinite && x.fraction != 0

/-- One of the two zeros. -/
def isZero (x : Double) : Bool := x.exponentField == 0 && x.fraction == 0

/-- The mantissa bit that normal numbers have without writing it, two to the 52. -/
def hiddenBit : Nat := 4503599627370496

/-- The integer `m` of `|x| = m · 2 ^ q`. -/
def mantissa (x : Double) : Nat :=
  if x.exponentField = 0 then x.fraction else x.fraction + hiddenBit

/-- The integer `q` of `|x| = m · 2 ^ q`. -/
def exponent (x : Double) : Int :=
  if x.exponentField = 0 then -1074 else (x.exponentField : Int) - 1075

/-- The zero of a sign. -/
def zero (negative : Bool) : Double := ⟨if negative then 0x8000000000000000 else 0⟩

/-- The infinity of a sign. -/
def infinity (negative : Bool) : Double :=
  ⟨if negative then 0xFFF0000000000000 else 0x7FF0000000000000⟩

/-- The length of `n` in decimal digits; one for zero. -/
def digitCount (n : Nat) : Nat := (Nat.toDigits 10 n).length

/-- `n · base ^ e` as a fraction of natural numbers. -/
def scaled (n base : Nat) (e : Int) : Nat × Nat :=
  if 0 ≤ e then (n * Nat.pow base e.toNat, 1) else (n, Nat.pow base (-e).toNat)

/-- The double nearest to the positive fraction `num / den`, ties to the even mantissa. Results
beyond the finite range are infinite. -/
def ofFraction (negative : Bool) (num den : Nat) : Double :=
  let guess : Int := (num.log2 : Int) - den.log2
  let low := scaled 1 2 guess
  let magnitude : Int := if num * low.2 ≥ den * low.1 then guess else guess - 1
  let q : Int := max (magnitude - 52) (-1074)
  let unit := scaled 1 2 q
  let top := num * unit.2
  let bottom := den * unit.1
  let down := top / bottom
  let rest := top % bottom
  let m := if 2 * rest > bottom ∨ (2 * rest = bottom ∧ down % 2 = 1) then down + 1 else down
  let bits := m + (q + 1074).toNat * hiddenBit
  if bits ≥ 0x7FF0000000000000 then infinity negative
  else ⟨(if negative then 0x8000000000000000 else 0) + bits.toUInt64⟩

/-- The double nearest to `digits · 10 ^ exponent`. Magnitudes far outside the range are settled
before any power is computed. -/
def ofDecimal (negative : Bool) (digits : Nat) (exponent : Int) : Double :=
  if digits = 0 then zero negative
  else
    let top : Int := exponent + digitCount digits
    if top > 310 then infinity negative
    else if top < -330 then zero negative
    else
      let fraction := scaled digits 10 exponent
      ofFraction negative fraction.1 fraction.2

/-- The double nearest to an integer. -/
def ofInt (n : Int) : Double := ofDecimal (n < 0) n.natAbs 0

end Double

end SqlRender
